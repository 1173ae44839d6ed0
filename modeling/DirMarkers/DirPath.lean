import DirMarkers.Text.Lines

/-!
Directories named relative to the project root: the root itself is the empty list of names and is
written as a single dot.
-/

namespace DirMarkers

/-- The names that lead from the project root to a directory. -/
abbrev DirPath := List String

namespace DirPath

def root : DirPath :=
  []

def text (dir : DirPath) : String :=
  if dir = [] then "." else "/".intercalate dir

def ofText (s : String) : DirPath :=
  if s = "." then [] else Text.split '/' s

/-- The text of an entry of a directory. -/
def entryText (dir : DirPath) (name : String) : String :=
  "/".intercalate (dir ++ [name])

def child (dir : DirPath) (name : String) : DirPath :=
  dir ++ [name]

/-- The directories from the project root down to a directory, both included. -/
def ancestors (dir : DirPath) : List DirPath :=
  (List.range (dir.length + 1)).map dir.take

end DirPath

end DirMarkers
