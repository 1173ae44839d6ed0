import DirMarkers.DirPath
import DirMarkers.Rule

/-!
Rule tables. There are two, one for each kind of ignore file; each holds the rules of the
directories whose file has any.
-/

namespace DirMarkers.Ignore

/-- The two kinds of ignore file. -/
inductive Source where
  /-- What version control ignores. -/
  | content
  /-- What is ignored for the sake of markers alone. -/
  | marker
deriving DecidableEq, Repr

namespace Source

/-- The name that a file of this kind has in every directory. -/
def fileName : Source → String
  | .content => ".gitignore"
  | .marker => ".gitkeepignore"

end Source

/-- The rules of each directory, keyed by the text of the directory. -/
abbrev Table := List (String × List Rule)

namespace Table

/-- The rules of a directory; none unless the table has them. -/
def rulesAt (table : Table) (dir : String) : List Rule :=
  (table.lookup dir).getD []

def set (table : Table) (dir : String) (rules : List Rule) : Table :=
  (dir, rules) :: table.filter (·.1 != dir)

end Table

/-- One table for each kind of ignore file. -/
structure Tables where
  content : Table
  marker : Table
deriving DecidableEq, Repr

namespace Tables

def empty : Tables :=
  ⟨[], []⟩

/-- The rules that the ignore files of one directory contribute: the content rules first, so that
the marker rules have the last word.
-/
def rulesAt (tables : Tables) (dir : DirPath) : List Rule :=
  let name := dir.text
  tables.content.rulesAt name ++ tables.marker.rulesAt name

/-- The rules that are in force in a directory: what each directory from the project root down to
it contributes, outermost first.
-/
def inForce (tables : Tables) (dir : DirPath) : List Rule :=
  dir.ancestors.flatMap tables.rulesAt

/-- Replaces the rules that one kind of ignore file contributes to a directory. -/
def set (tables : Tables) (source : Source) (dir : String) (rules : List Rule) : Tables :=
  match source with
  | .content => { tables with content := tables.content.set dir rules }
  | .marker => { tables with marker := tables.marker.set dir rules }

end Tables

end DirMarkers.Ignore
