/-!
Directory trees. A node is a file, a symbolic link or a directory; the entries of a directory are
kept in the order of their names.
-/

namespace DirMarkers

/-- A node of a directory tree. -/
inductive Node where
  | file (content : ByteArray)
  | link (target : String)
  | dir (entries : List (String × Node))
deriving Inhabited

abbrev Entries := List (String × Node)

/-- The names that lead from the top of a tree to a node. -/
abbrev Location := List String

namespace Entries

def find? (entries : Entries) (name : String) : Option Node :=
  entries.lookup name

/-- Adds an entry in its place, or replaces the one of that name. -/
def put (name : String) (node : Node) : Entries → Entries
  | [] => [(name, node)]
  | (other, it) :: rest =>
    if name < other then (name, node) :: (other, it) :: rest
    else if name = other then (name, node) :: rest
    else (other, it) :: put name node rest

def erase (entries : Entries) (name : String) : Entries :=
  entries.filter (·.1 != name)

end Entries

namespace Node

def isDir : Node → Bool
  | .dir _ => true
  | _ => false

def isFile : Node → Bool
  | .file _ => true
  | _ => false

/-- The entries of a directory; a node of another kind has none. -/
def entries : Node → Entries
  | .dir entries => entries
  | _ => []

/-- The node at a location; links are not followed. -/
def get? : Node → Location → Option Node
  | node, [] => some node
  | .dir entries, name :: rest =>
    match Entries.find? entries name with
    | some child => child.get? rest
    | none => none
  | _, _ :: _ => none

/-- Puts a node at a location, and directories on the way to it where nothing is. A file or a link
on the way stays, and the tree with it.
-/
def put (new : Node) : Node → Location → Node
  | _, [] => new
  | .dir entries, name :: rest =>
    let child := (Entries.find? entries name).getD (.dir [])
    .dir (Entries.put name (put new child rest) entries)
  | other, _ :: _ => other

/-- Removes the node at a location, with all that is below it. -/
def erase : Node → Location → Node
  | .dir entries, [name] => .dir (Entries.erase entries name)
  | .dir entries, name :: rest =>
    match Entries.find? entries name with
    | some child => .dir (Entries.put name (child.erase rest) entries)
    | none => .dir entries
  | other, _ => other

end Node

end DirMarkers
