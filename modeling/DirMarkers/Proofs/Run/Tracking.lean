import DirMarkers.Proofs.Run.Notable
import DirMarkers.Proofs.Run.Project

/-!
Steps that keep to their journal. The tree after such a step is the tree before it with the
journal's changes made to it, and differs from it in markers only.
-/

namespace DirMarkers

/-- Makes the change to a tree that an event tells of. -/
def Event.replay (config : Config) (location : Location) (tree : Node) : Event → Node
  | .created dir =>
    Node.put (.file config.markerContent.toUTF8) tree (location ++ dir ++ [config.markerName])
  | .removed dir => tree.erase (location ++ dir ++ [config.markerName])
  | _ => tree

/-- Makes the changes to a tree that a journal tells of. -/
def Journal.replay (config : Config) (location : Location) (journal : Journal) (tree : Node)
    : Node :=
  journal.foldl (Event.replay config location) tree

theorem Journal.replay_append (config : Config) (location : Location) (first next : Journal)
    (tree : Node)
    : Journal.replay config location (first ++ next) tree
      = next.replay config location (first.replay config location tree) :=
  List.foldl_append

theorem Event.replay_of_unchanged (config : Config) (location : Location) {event : Event}
    (unchanged : event.changed? = none) (tree : Node)
    : event.replay config location tree = tree := by
  cases event <;> first | rfl | cases unchanged

theorem Journal.replay_of_unchanged (config : Config) (location : Location) {journal : Journal}
    (unchanged : journal.changed = []) (tree : Node)
    : journal.replay config location tree = tree := by
  induction journal generalizing tree with
  | nil => rfl
  | cons event rest ih =>
      rw [Journal.changed, List.filterMap_cons] at unchanged
      cases change : event.changed? with
      | some dir => simp [change] at unchanged
      | none =>
          rw [change] at unchanged
          rw [Journal.replay, List.foldl_cons, Event.replay_of_unchanged config location change]
          exact ih unchanged tree

-----------------------------------------------------------------------------------------
-- Steps that keep to their journal
-----------------------------------------------------------------------------------------

/-- A step gives an answer, tells of the expected events, and changes the tree as they say. -/
structure Tracks (config : Config) (location : Location) (tree : Node) {α : Type}
    (step : Step α) (answer : α) (expected : Journal)
    : Prop where
  answer : step.answer = .ok answer
  journal : step.journal.notable = expected
  replayed : step.tree = expected.replay config location tree
  wellFormed : step.tree.WellFormed
  alike : Node.AlikeBut config.markerName tree step.tree
  frame
    : ∀ other,
        (∀ dir ∈ expected.changed, other ≠ location ++ dir ++ [config.markerName])
        → step.tree.kindAt other = tree.kindAt other

namespace Tracks

variable {config : Config} {location : Location} {tree : Node} {α β : Type} {step : Step α}
  {answer : α} {expected : Journal}

/-- A step that leaves the tree alone keeps to any journal without changes. -/
theorem still (wellFormed : tree.WellFormed) (answer : α) {journal : Journal}
    (told : journal.notable = expected) (unchanged : expected.changed = [])
    : Tracks config location tree ⟨.ok answer, tree, journal⟩ answer expected where
  answer := rfl
  journal := told
  replayed := (Journal.replay_of_unchanged config location unchanged tree).symm
  wellFormed := wellFormed
  alike := .refl _ tree
  frame := fun _ _ => rfl

/-- A step that changes one marker keeps to the event that tells of it. -/
theorem change {dir : DirPath} {changed : Node} {event : Event} (told : event.changed? = some dir)
    (replayed : event.replay config location tree = changed) (wellFormed : changed.WellFormed)
    (alike : Node.AlikeBut config.markerName tree changed)
    (kept : ∀ other, other ≠ location ++ dir ++ [config.markerName]
      → changed.kindAt other = tree.kindAt other)
    : Tracks config location tree ⟨.ok (), changed, [event]⟩ () [event] where
  answer := rfl
  journal := by cases event <;> first | rfl | cases told
  replayed := replayed.symm
  wellFormed := wellFormed
  alike := alike
  frame := fun other outside => kept other (outside dir (by simp [Journal.changed, told]))

/-- A summary of the step is one of the expected events. -/
theorem summary (h : Tracks config location tree step answer expected) (marker : String)
    : step.journal.summary marker = expected.summary marker := by
  rw [← Journal.summary_notable, h.journal]

theorem map (h : Tracks config location tree step answer expected) (f : α → β)
    : Tracks config location tree (step.map f) (f answer) expected where
  answer := by rw [Step.map, h.answer]; rfl
  journal := h.journal
  replayed := h.replayed
  wellFormed := h.wellFormed
  alike := h.alike
  frame := h.frame

/-- What happens before a step may only be told of. -/
theorem after (h : Tracks config location tree step answer expected) {before told : Journal}
    (notable : before.notable = told) (unchanged : told.changed = [])
    : Tracks config location tree (step.after before) answer (told ++ expected) where
  answer := h.answer
  journal := by rw [Step.after, Journal.notable_append, notable, h.journal]
  replayed := by
    rw [Journal.replay_append, Journal.replay_of_unchanged config location unchanged]
    exact h.replayed
  wellFormed := h.wellFormed
  alike := h.alike
  frame := by
    rw [Journal.changed_append, unchanged, List.nil_append]
    exact h.frame

/-- Two steps keep to the journals of both. -/
theorem bind (h : Tracks config location tree step answer expected) {next : α → Node → Step β}
    {last : β} {more : Journal}
    (then_ : Tracks config location step.tree (next answer step.tree) last more)
    : Tracks config location tree (step.bind next) last (expected ++ more) where
  answer := by rw [Step.bind, h.answer]; exact then_.answer
  journal := by
    rw [Step.bind, h.answer]
    simp only [Journal.notable_append, h.journal, then_.journal]
  replayed := by
    rw [Step.bind, h.answer, Journal.replay_append, ← h.replayed]
    exact then_.replayed
  wellFormed := by rw [Step.bind, h.answer]; exact then_.wellFormed
  alike := by rw [Step.bind, h.answer]; exact h.alike.trans then_.alike
  frame := by
    intro other outside
    rw [Journal.changed_append] at outside
    rw [Step.bind, h.answer]
    calc (next answer step.tree).tree.kindAt other
        = step.tree.kindAt other :=
          then_.frame other fun dir member => outside dir (List.mem_append_right _ member)
      _ = tree.kindAt other :=
          h.frame other fun dir member => outside dir (List.mem_append_left _ member)

end Tracks

end DirMarkers
