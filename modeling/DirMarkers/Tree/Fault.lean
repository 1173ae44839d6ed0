import DirMarkers.PathName
import DirMarkers.Tree.Access

/-!
Calls that may fail for reasons outside the tree, such as missing permissions or a broken disk. A
fault is known by its call and path, and makes the call fail before it looks at the tree.
-/

namespace DirMarkers

/-- The calls that a run makes. -/
inductive Call where
  | list
  | read
  | write
  | remove
deriving DecidableEq, Repr

/-- Which calls fail, and why. -/
abbrev Faults := Call → PathName → Option Errno

namespace Faults

def none : Faults :=
  fun _ _ => Option.none

/-- The calls of a list fail; the first entry for a call and path counts. -/
def ofList (faults : List ((Call × PathName) × Errno)) : Faults :=
  fun call path => faults.lookup (call, path)

/-- Makes a call, unless a fault forbids it. -/
def attempt {α : Type} (faults : Faults) (call : Call) (path : PathName)
    (act : List String → Except Errno α) : Except SystemError α :=
  match faults call path with
  | some errno => .error ⟨errno, path.text⟩
  | Option.none =>
    match Tree.call path.text (act path.parts) with
    | .ok a => .ok a
    | .error errno => .error ⟨errno, path.text⟩

def list (faults : Faults) (top : Node) (path : PathName) : Except SystemError Entries :=
  faults.attempt .list path (Tree.list top [])

def read (faults : Faults) (top : Node) (path : PathName) : Except SystemError ByteArray :=
  faults.attempt .read path (Tree.read top [])

def write (faults : Faults) (top : Node) (path : PathName) (content : ByteArray)
    : Except SystemError Node :=
  faults.attempt .write path fun parts => Tree.write top [] parts content

def remove (faults : Faults) (top : Node) (path : PathName) : Except SystemError Node :=
  faults.attempt .remove path (Tree.remove top [])

end Faults

end DirMarkers
