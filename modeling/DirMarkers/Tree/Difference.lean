import DirMarkers.Tree.Node

/-!
The difference between two trees: what has to be written and removed so that one becomes the other,
where files come and go and directories stay.
-/

namespace DirMarkers

/-- A change to a tree. -/
inductive Change where
  | write (location : Location) (content : ByteArray)
  | remove (location : Location)

def Change.location : Change → Location
  | .write location _ | .remove location => location

namespace Node

/-- The files among some entries that have no counterpart among others. -/
def newFiles (entries old : Entries) (here : Location) : List Change :=
  entries.filterMap fun (name, node) =>
    match Entries.find? old name, node with
    | none, .file content => some (.write (here ++ [name]) content)
    | _, _ => none

mutual

/-- The changes that lead from one node to another at the same location. -/
def changes (here : Location) : Node → Node → List Change
  | .dir entries, .dir after => entryChanges here after entries ++ newFiles after entries here
  | .file before, .file after => if before = after then [] else [.write here after]
  | _, _ => []

/-- The changes to some entries of a directory that lead to those of another. -/
def entryChanges (here : Location) (after : Entries) : List (String × Node) → List Change
  | [] => []
  | (name, node) :: rest =>
    let place := here ++ [name]
    let first := match Entries.find? after name with
      | some other => changes place node other
      | none => [.remove place]
    first ++ entryChanges here after rest

end

end Node

end DirMarkers
