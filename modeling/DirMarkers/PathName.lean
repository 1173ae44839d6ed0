import DirMarkers.Text.Lines

/-!
Path names in their shortest spelling: empty components and single dots are dropped, a double dot
is kept, since it may not cancel the component in front of it when that is a link.
-/

namespace DirMarkers

/-- Where a path starts. Exactly two slashes in front are kept apart from one. -/
inductive Anchor where
  | relative
  | slash
  | doubleSlash
deriving DecidableEq, Repr

def Anchor.text : Anchor → String
  | .relative => ""
  | .slash => "/"
  | .doubleSlash => "//"

/-- A path name: its anchor, and the components behind it. -/
structure PathName where
  anchor : Anchor
  parts : List String
deriving DecidableEq, Repr

namespace PathName

def anchorOf : List Char → Anchor
  | '/' :: '/' :: '/' :: _ => .slash
  | '/' :: '/' :: _ => .doubleSlash
  | '/' :: _ => .slash
  | _ => .relative

def partsOf (s : String) : List String :=
  (Text.split '/' s).filter fun part => part != "" && part != "."

def ofText (s : String) : PathName :=
  ⟨anchorOf s.toList, partsOf s⟩

/-- The text of a path name; the empty relative path is written as a dot. -/
def text (p : PathName) : String :=
  if p.anchor = .relative && p.parts = [] then "."
  else p.anchor.text ++ "/".intercalate p.parts

/-- The entry of a directory that has the given name. -/
def child (p : PathName) (name : String) : PathName :=
  { p with parts := p.parts ++ [name] }

/-- Goes on from a path as a text says, which starts anew when the text has an anchor. -/
def join (p : PathName) (s : String) : PathName :=
  match anchorOf s.toList with
  | .relative => { p with parts := p.parts ++ partsOf s }
  | anchor => ⟨anchor, partsOf s⟩

/-- The last component of a path, or nothing. -/
def name (p : PathName) : String :=
  p.parts.getLast?.getD ""

/-- The last component of an entry is its name, by the last of an append. -/
@[simp] theorem name_child (p : PathName) (s : String)
    : (p.child s).name = s := by
  simp [name, child]

end PathName

end DirMarkers
