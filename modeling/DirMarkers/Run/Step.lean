import DirMarkers.Journal
import DirMarkers.Tree.Fault

/-!
Steps of a run. A step changes the tree, says what happened, and gives an answer; a crash in its
place ends the run there.
-/

namespace DirMarkers

/-- What ends a run early. -/
inductive Crash where
  /-- The mode is none of the known ones. -/
  | unknownMode (name : String)
  /-- A path holds the character that ends every path. -/
  | nulInPath
deriving DecidableEq, Repr

def Crash.message : Crash → String
  | .unknownMode name => "Unknown mode: " ++ name
  | .nulInPath => "embedded null byte"

/-- The state of the disk and the events after a step, with the answer of the step unless it ended
the run.
-/
structure Step (α : Type) where
  answer : Except Crash α
  tree : Node
  journal : Journal

namespace Step

/-- The step that does nothing and gives an answer. -/
def pure {α : Type} (answer : α) (tree : Node) : Step α :=
  ⟨.ok answer, tree, []⟩

/-- A step after which another one follows, unless it ended the run. -/
def bind {α β : Type} (first : Step α) (next : α → Node → Step β) : Step β :=
  match first.answer with
  | .error crash => ⟨.error crash, first.tree, first.journal⟩
  | .ok answer =>
    let last := next answer first.tree
    ⟨last.answer, last.tree, first.journal ++ last.journal⟩

def map {α β : Type} (f : α → β) (step : Step α) : Step β :=
  ⟨step.answer.map f, step.tree, step.journal⟩

def after {α : Type} (journal : Journal) (step : Step α) : Step α :=
  ⟨step.answer, step.tree, journal ++ step.journal⟩

end Step

/-- Whether a text holds the character that ends every path, so that it can be no part of one. -/
def holdsNul (text : String) : Bool :=
  text.toList.contains '\x00'

/-- Why a call on a path cannot even be made. A fault comes before that. -/
def Faults.crash? (faults : Faults) (call : Call) (path : PathName) : Option Crash :=
  if (faults call path).isNone && holdsNul path.text then some .nulInPath else Option.none

end DirMarkers
