import DirMarkers.Proofs.Run.Coherence
import DirMarkers.Proofs.Run.Telling

/-!
The record of a walk, whatever calls do on the way. Directories are entered from the top down and
told of from the bottom up, each at most once.
-/

namespace DirMarkers

/-- The directory that an event enters. -/
def Event.entered? : Event → Option DirPath
  | .entered dir => some dir
  | _ => none

/-- What a view sees of two steps it sees of the first and then of the second one, unless the first
one ended the run.
-/
theorem Step.filterMap_bind_sublist {α β γ : Type} {view : Event → Option γ} {first : Step α}
    {next : α → Node → Step β} {before after : List γ}
    (hf : (first.journal.filterMap view).Sublist before)
    (hn : ∀ answer, ((next answer first.tree).journal.filterMap view).Sublist after)
    : ((first.bind next).journal.filterMap view).Sublist (before ++ after) := by
  rw [bind]
  cases first.answer with
  | error crash => exact hf.trans (List.sublist_append_left before after)
  | ok answer =>
      rw [List.filterMap_append]
      exact hf.append (hn answer)

/-- Traces tell of no directory. -/
theorem Journal.told_of_traces {journal : Journal} (traces : journal.notable = [])
    : journal.filterMap Event.dir? = [] := by
  rw [← filterMap_notable Event.dir? ?_ journal, traces]
  · rfl
  · intro event trace
    rwa [Event.isNotable_eq, Option.isSome_eq_false_iff, Option.isNone_iff_eq_none] at trace

namespace Walk

/-- What is told before it is decided whether a directory is skipped is that it is, if so. -/
theorem told_skip? (config : Config) (rules : List Rule) (path : PathName) (dir : DirPath)
    : (skip? config rules path dir).2.filterMap Event.dir?
      = if (skip? config rules path dir).1 then [dir] else [] := by
  have matched := Journal.told_of_traces (notable_matchEvents rules dir.text true)
  rw [skip?]
  split
  · rfl
  · split
    · rw [List.filterMap_append, matched]
      rfl
    · exact matched

/-- When a directory is judged, it is told of at most once, and no other one is told of. -/
theorem told_conclude {config : Config} {faults : Faults} (rules : List Rule) (path : PathName)
    (dir : DirPath) (files : List String) (allEmpty : Bool) (tree : Node)
    : ((conclude config faults rules path dir files allEmpty tree).journal.filterMap
        Event.dir?).Sublist [dir] := by
  have judged : (files.flatMap (fileEvents config rules dir)).filterMap Event.dir? = [] :=
    Journal.told_of_traces (Journal.notable_flatMap _ _ fun name _ => notable_fileEvents ..)
  rw [conclude]
  simp only [Step.after, Step.map, List.filterMap_append, judged, List.nil_append]
  rcases settle_journal config faults path dir _ _ tree with none | ⟨event, one, about, _⟩
  · rw [none]
    exact List.nil_sublist _
  · rw [one, List.filterMap_cons, Event.dir?_of_marker? about]
    exact List.Sublist.refl _

theorem entered_of_entersNone {journal : Journal} (silent : EntersNone journal)
    : journal.filterMap Event.entered? = [] := by
  refine List.filterMap_eq_nil_iff.mpr fun event member => ?_
  cases event with
  | entered dir => exact absurd member (silent dir)
  | _ => rfl

section

variable {config : Config} {faults : Faults} {tables : Ignore.Tables}

/-- A view of a walk over some entries sees what it sees of the walks over each of them. -/
theorem visitAll_sublist {view : Event → Option DirPath} {order : Node → DirPath → List DirPath}
    {entries : List (String × Node)} {path : PathName}
    (each : ∀ entry ∈ entries, ∀ dir tree,
      ((visit config faults tables entry.2 (path.child entry.1) dir tree).journal.filterMap
        view).Sublist (order entry.2 dir))
    (dir : DirPath) (tree : Node)
    : ((visitAll config faults tables entries path dir tree).journal.filterMap view).Sublist
        (entries.flatMap fun entry => order entry.2 (dir.child entry.1)) := by
  induction entries generalizing tree with
  | nil => exact List.nil_sublist _
  | cons entry rest ih =>
      rw [visitAll, List.flatMap_cons]
      refine Step.filterMap_bind_sublist (each entry List.mem_cons_self _ tree) fun _ => ?_
      exact ih (fun other member => each other (List.mem_cons_of_mem _ member)) _

/-- A walk tells of the directories of a tree from the bottom up, of each at most once, by induction
on the tree.
-/
theorem visit_told (node : Node) (path : PathName) (dir : DirPath) (tree : Node)
    : ((visit config faults tables node path dir tree).journal.filterMap Event.dir?).Sublist
        (postOrder node dir) := by
  induction node using Node.induction generalizing path dir tree with
  | file _ => exact List.nil_sublist _
  | link _ => exact List.nil_sublist _
  | dir entries ih =>
      have before := told_skip? config (tables.inForce dir) path dir
      rw [postOrder_dir, visit]
      cases skips : skip? config (tables.inForce dir) path dir with
      | mk skipped events =>
          rw [skips] at before
          cases skipped with
          | true =>
              simp only [Step.after, Step.pure, List.append_nil, if_true, List.filterMap_cons,
                Event.dir?, Event.marker?, before]
              exact List.sublist_append_right _ _
          | false =>
              simp only [Step.after, List.cons_append, List.filterMap_cons, Event.dir?,
                Event.marker?, List.filterMap_append, before, Bool.false_eq_true, if_false,
                List.nil_append]
              split
              · exact List.nil_sublist _
              · exact List.sublist_append_right _ _
              · refine Step.filterMap_bind_sublist ?_ fun _ => told_conclude ..
                exact visitAll_sublist (fun entry member => ih entry member _) dir tree

/-- A walk enters the directories of a tree from the top down, each at most once. -/
theorem visit_entered (node : Node) (path : PathName) (dir : DirPath) (tree : Node)
    : ((visit config faults tables node path dir tree).journal.filterMap Event.entered?).Sublist
        (preOrder node dir) := by
  induction node using Node.induction generalizing path dir tree with
  | file _ => exact List.nil_sublist _
  | link _ => exact List.nil_sublist _
  | dir entries ih =>
      have before := entered_of_entersNone
        (skip?_entersNone config (tables.inForce dir) path dir)
      rw [preOrder_dir, visit]
      simp only [Step.after, List.cons_append, List.filterMap_cons, Event.entered?,
        List.filterMap_append, before, List.nil_append]
      refine List.Sublist.cons_cons dir ?_
      split
      · exact List.nil_sublist _
      · split
        · exact List.nil_sublist _
        · exact List.nil_sublist _
        · rw [← List.append_nil (entries.flatMap _)]
          refine Step.filterMap_bind_sublist ?_ fun answer => ?_
          · exact visitAll_sublist (fun entry member => ih entry member _) dir tree
          · rw [entered_of_entersNone (conclude_entersNone _ _ _ _ _ _)]

end

end Walk

end DirMarkers
