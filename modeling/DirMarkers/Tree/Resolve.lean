import DirMarkers.SystemError
import DirMarkers.Text.Lines
import DirMarkers.Tree.Node

/-!
Path resolution. A path is followed component by component from a directory of the tree; a link on
the way is replaced by the path it holds, at most forty times.
-/

namespace DirMarkers

/-- Where the resolution of a path ends. -/
inductive Arrival where
  /-- At a node. -/
  | found (location : Location) (node : Node)
  /-- In a directory that has no such entry, with the components that were still to follow. -/
  | missing (location : Location) (name : String) (rest : List String)
  /-- At something that is no directory, with the components that were still to follow. -/
  | blocked (rest : List String)
  /-- Nowhere, for another reason. -/
  | refused (errno : Errno)

/-- How far a path goes without following a link. -/
inductive Progress where
  | arrived (arrival : Arrival)
  /-- To a link of a directory, with the components that follow it. -/
  | atLink (location : Location) (target : String) (rest : List String)

/-- What becomes of a link in last place. -/
inductive LastLink where
  /-- It is followed. -/
  | follow
  /-- It is where the path ends. -/
  | keep
  /-- It is followed to where a file is to be put, so no slash may stand behind it. -/
  | fill
deriving DecidableEq, Repr

namespace Tree

/-- The longest name of an entry, in bytes. -/
def nameLimit : Nat :=
  255

/-- The longest text of a path, in bytes. -/
def pathLimit : Nat :=
  4095

/-- Whether the text of a path is too long for a call. -/
def isTooLong (path : String) : Bool :=
  pathLimit < path.utf8ByteSize

/-- How many links are followed on the way along one path. -/
def linkLimit : Nat :=
  40

/-- The components of the text of a path. A slash at the end is kept as an empty component: what
comes in front of it has to be a directory.
-/
def steps (path : String) : List String :=
  let pieces := Text.split '/' path
  let names := pieces.filter (· != "")
  if names ≠ [] ∧ pieces.getLast? = some "" then names ++ [""] else names

/-- The place from which the text of a path starts: the top for an absolute path. -/
def startOf (here : Location) (path : String) : Location :=
  if path.toList.head? = some '/' then [] else here

/-- Where a path has come to: a node, and the names that lead to it from the top, the last one
first.
-/
structure Place where
  trail : List String
  node : Node

namespace Place

/-- The names that lead from the top to a place. -/
def location (place : Place) : Location :=
  place.trail.reverse

def child (place : Place) (name : String) (node : Node) : Place :=
  ⟨name :: place.trail, node⟩

/-- The directory around a place; the top is around itself. -/
def parent (top : Node) (place : Place) : Place :=
  match top.get? place.trail.tail.reverse with
  | some node => ⟨place.trail.tail, node⟩
  | none => place

end Place

/-- Follows components up to the first link, unless that is in last place and `last` ends the path
there.
-/
def advance (top : Node) (last : LastLink) (place : Place) : List String → Progress
  | [] => .arrived (.found place.location place.node)
  | step :: rest =>
    match place.node with
    | .dir entries =>
      if step = "" ∨ step = "." then advance top last place rest
      else if step = ".." then advance top last (place.parent top) rest
      else if nameLimit < step.utf8ByteSize then .arrived (.refused .nameTooLong)
      else
        match Entries.find? entries step with
        | none => .arrived (.missing place.location step rest)
        | some (.link target) =>
          if last = .keep ∧ rest = [] then
            .arrived (.found (place.location ++ [step]) (.link target))
          else if last = .fill ∧ rest = [""] then .arrived (.refused .isDirectory)
          else .atLink place.location target rest
        | some node => advance top last (place.child step node) rest
    | _ => .arrived (.blocked (step :: rest))

def resolveWithin (top : Node) (last : LastLink) (links : Nat) (here : Location)
    (path : List String) : Arrival :=
  match top.get? here with
  | none => .refused .notFound
  | some node =>
    match advance top last ⟨here.reverse, node⟩ path, links with
    | .arrived arrival, _ => arrival
    | .atLink .., 0 => .refused .linkLoop
    | .atLink location target rest, links + 1 =>
      resolveWithin top last links (startOf location target) (steps target ++ rest)

/-- Resolves components from a directory of the tree. -/
def resolve (top : Node) (last : LastLink) (here : Location) (path : List String) : Arrival :=
  resolveWithin top last linkLimit here path

end Tree

end DirMarkers
