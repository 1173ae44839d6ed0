import DirMarkers.PathName
import DirMarkers.Tree.Resolve

/-!
Canonical paths. Every link of a path is replaced by where it leads, and every double dot takes
back the component in front of it; components that do not exist are kept as they are. Where links
lead in a circle, the rest of the text is kept behind the link that closes it, unless it starts with
a slash: then it is a path of its own.
-/

namespace DirMarkers.Tree

/-- What is left to do for a canonical path. -/
inductive Task where
  /-- Go along a component, which may be empty. -/
  | step (name : String)
  /-- The link at a place was followed to where the path is now. -/
  | leave (link : Location)
deriving DecidableEq, Repr

namespace Task

def ofText (text : String) : List Task :=
  (Text.split '/' text).map .step

def name? : Task → Option String
  | .step name => some name
  | .leave _ => none

/-- The texts that are left along the links that are being followed, the last link first. -/
def texts (tasks : List Task) : List String :=
  (tasks.splitOnP (·.name?.isNone)).map fun tasks => "/".intercalate (tasks.filterMap name?)

end Task

/-- Where a canonical path has come to, and the links followed on the way: where each of them
leads, unless that is still being found out.
-/
structure Canonical where
  here : Location
  followed : List (Location × Option Location)
deriving DecidableEq, Repr

/-- Goes along a component without looking at the tree. -/
def textStep (here : Location) (name : String) : Location :=
  if name = "" || name = "." then here
  else if name = ".." then here.dropLast
  else here ++ [name]

def pathOf (location : Location) : PathName :=
  ⟨.slash, location⟩

/-- A text behind another one, which starts anew with a slash in front. -/
def joinText (before text : String) : String :=
  if text.toList.head? = some '/' then text else before ++ "/" ++ text

/-- The path of a text, in which every double dot takes back the component in front of it. -/
def plainPath (text : String) : PathName :=
  ⟨PathName.anchorOf text.toList, (Text.split '/' text).foldl textStep []⟩

/-- The node at a location, if a path may be as long as that. -/
def nodeAt (top : Node) (location : Location) : Option Node :=
  if isTooLong (pathOf location).text then none else top.get? location

/-- What tasks come to: a path, or a link that was not met before with its target and the tasks
that are left.
-/
inductive Course where
  | ended (path : PathName)
  | atLink (c : Canonical) (target : String) (rest : List Task)

/-- Does tasks up to the first link that was not met before. A link that is still being followed
ends the path.
-/
def canonicalAlong (top : Node) (c : Canonical) : List Task → Course
  | [] => .ended (pathOf c.here)
  | .leave link :: rest =>
    canonicalAlong top { c with followed := (link, some c.here) :: c.followed } rest
  | .step name :: rest =>
    let next := textStep c.here name
    if name = "" || name = "." || name = ".." then canonicalAlong top { c with here := next } rest
    else
      match nodeAt top next with
      | some (.link target) =>
        match c.followed.lookup next with
        | some (some place) => canonicalAlong top { c with here := place } rest
        | some none => .ended (plainPath ((Task.texts rest).foldl joinText (pathOf next).text))
        | none =>
          .atLink { c with followed := (next, none) :: c.followed } target (.leave next :: rest)
      | _ => canonicalAlong top { c with here := next } rest

def canonicalWithin (top : Node) (links : Nat) (c : Canonical) (tasks : List Task) : PathName :=
  match canonicalAlong top c tasks, links with
  | .ended path, _ => path
  | .atLink c .., 0 => pathOf c.here
  | .atLink c target rest, links + 1 =>
    canonicalWithin top links { c with here := startOf c.here target } (Task.ofText target ++ rest)

mutual

def linkCount : Node → Nat
  | .file _ => 0
  | .link _ => 1
  | .dir entries => linkCounts entries

/-- The number of links among some entries and below them. -/
def linkCounts : List (String × Node) → Nat
  | [] => 0
  | (_, node) :: rest => linkCount node + linkCounts rest

end

/-- The canonical path of a text, which starts from `here` unless it is absolute. -/
def canonical (top : Node) (here : Location) (path : String) : PathName :=
  canonicalWithin top (linkCount top) ⟨startOf here path, []⟩ (Task.ofText path)

end DirMarkers.Tree
