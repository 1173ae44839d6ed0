import DirMarkers.Tree.Resolve

/-!
System calls on a tree, each on components that are resolved from a directory. Reading leaves the
tree alone; writing and removing give back the changed tree.
-/

namespace DirMarkers

namespace Arrival

/-- The failure of a call that needs a node where the resolution of its path ended. -/
def node : Arrival → Except Errno (Location × Node)
  | .found location node => .ok (location, node)
  | .missing .. => .error .notFound
  | .blocked _ => .error .notDirectory
  | .refused errno => .error errno

/-- The place where writing to a path puts its file: over the file there, or as a new entry. A
path that ends with a slash names no place for a file.
-/
def place : Arrival → Except Errno Location
  | .found location (.file _) => .ok location
  | .found _ _ => .error .isDirectory
  | .missing location name [] => .ok (location ++ [name])
  | .missing _ _ [""] => .error .isDirectory
  | .missing .. => .error .notFound
  | .blocked [""] => .error .isDirectory
  | .blocked _ => .error .notDirectory
  | .refused errno => .error errno

end Arrival

namespace Tree

/-- A call on a path with the given text, which may not be too long. -/
def call {α : Type} (path : String) (act : Except Errno α) : Except Errno α :=
  if isTooLong path then .error .nameTooLong else act

/-- The node that a path leads to; a link in last place is followed. -/
def stat (top : Node) (here : Location) (path : List String)
    : Except Errno (Location × Node) :=
  (resolve top .follow here path).node

/-- The node that a path leads to, which may be a link. -/
def linkStat (top : Node) (here : Location) (path : List String)
    : Except Errno (Location × Node) :=
  (resolve top .keep here path).node

def list (top : Node) (here : Location) (path : List String) : Except Errno Entries :=
  match stat top here path with
  | .ok (_, .dir entries) => .ok entries
  | .ok _ => .error .notDirectory
  | .error errno => .error errno

def read (top : Node) (here : Location) (path : List String) : Except Errno ByteArray :=
  match stat top here path with
  | .ok (_, .file content) => .ok content
  | .ok _ => .error .isDirectory
  | .error errno => .error errno

/-- Writes a file, through a link when the path ends with one. -/
def write (top : Node) (here : Location) (path : List String) (content : ByteArray)
    : Except Errno Node :=
  match (resolve top .fill here path).place with
  | .ok location => .ok (Node.put (.file content) top location)
  | .error errno => .error errno

def remove (top : Node) (here : Location) (path : List String) : Except Errno Node :=
  match linkStat top here path with
  | .ok (_, .dir _) => .error .isDirectory
  | .ok (location, _) => .ok (top.erase location)
  | .error errno => .error errno

end Tree

end DirMarkers
