import DirMarkers.Proofs.Run.Completion
import DirMarkers.Proofs.Walk.Origin
import Mathlib.Data.List.Nodup

/-!
The record of the walk of a run: what a run tells of each directory after the ignore files are read,
once, and where the walk had come to when it was told.
-/

namespace DirMarkers

open Walk (Comes Tells Shuts Settles skip?)

/-- What the walk of a run tells of one directory. -/
def Journal.verdict (dir : DirPath) (journal : Journal) : Journal :=
  (journal.about dir).filter fun event => !event.isReading

-----------------------------------------------------------------------------------------
-- The two parts of a journal
-----------------------------------------------------------------------------------------

section

variable (config : Config) (faults : Faults) (tree : Node)

/-- What happens in the walk of a run. -/
def record : Journal :=
  (Walk.walk config faults (tables config faults tree) config.root .root tree).journal

theorem run_journal
    : (run config faults tree).journal
      = .loading :: (Loading.load config faults tree config.root).journal ++ [.walking]
        ++ record config faults tree :=
  rfl

/-- A view that passes over what is told while ignore files are read sees the walk alone. -/
theorem run_filterMap {α : Type} (view : Event → Option α)
    (passes : ∀ event : Event, event.isReading = true → view event = none)
    (loading : view .loading = none) (walking : view .walking = none)
    : (run config faults tree).journal.filterMap view
      = (record config faults tree).filterMap view := by
  have read : (Loading.load config faults tree config.root).journal.filterMap view = [] :=
    List.filterMap_eq_nil_iff.mpr fun event member =>
      passes event (Loading.load_reading config faults tree config.root event member)
  simp [run_journal, loading, walking, read]

end

/-- All but the errors of a summary is told in the walk. -/
theorem run_summary (config : Config) (faults : Faults) (tree : Node) (marker : String)
    : (run config faults tree).journal.summary marker
      = { (record config faults tree).summary marker with
          errors := ((run config faults tree).journal.summary marker).errors } := by
  have created := run_filterMap config faults tree (Event.createdMarker? marker)
    (fun event reading => by cases event <;> first | rfl | cases reading) rfl rfl
  have removed := run_filterMap config faults tree (Event.removedMarker? marker)
    (fun event reading => by cases event <;> first | rfl | cases reading) rfl rfl
  have skipped := run_filterMap config faults tree Event.skipped?
    (fun event reading => by cases event <;> first | rfl | cases reading) rfl rfl
  have mismatched := run_filterMap config faults tree Event.mismatched?
    (fun event reading => by cases event <;> first | rfl | cases reading) rfl rfl
  simp only [Journal.summary, created, removed, skipped, mismatched]

section

variable {config : Config} {faults : Faults} {tree : Node} {location : Location}

theorem mem_record {event : Event} (member : event ∈ record config faults tree)
    : ∃ place, Tells config faults (tables config faults tree) tree place event :=
  Walk.mem_walk member

/-- What is told of a directory in a walk is not told while ignore files are read. -/
theorem not_reading_of_mem_record {event : Event} (member : event ∈ record config faults tree)
    (told : event.dir?.isSome)
    : event.isReading = false := by
  obtain ⟨place, tells⟩ := mem_record member
  cases tells with
  | entering came => rfl
  | failing came kept failed => rfl
  | deciding came member =>
      rcases Walk.mem_skip? member with ⟨rule, path, isDir, rfl⟩ | ⟨_, skipped⟩
      · rfl
      · cases event <;> first | rfl | cases skipped
  | judging came kept listed below member =>
      have about := Walk.marker?_settle (Walk.mem_conclude member told)
      cases event <;> first | rfl | cases about

/-- What a run tells of a directory after ignore files are read is told in the walk. -/
theorem run_verdict (dir : DirPath)
    : (run config faults tree).journal.verdict dir = (record config faults tree).about dir := by
  have read : (((Loading.load config faults tree config.root).journal.about dir).filter
      fun event => !event.isReading) = [] := by
    refine List.filter_eq_nil_iff.mpr fun event member => ?_
    rw [Loading.load_reading config faults tree config.root event (Journal.mem_about.mp member).1]
    exact Bool.false_ne_true
  have walked : (((record config faults tree).about dir).filter fun event => !event.isReading)
      = (record config faults tree).about dir := by
    refine List.filter_eq_self.mpr fun event member => ?_
    obtain ⟨member, told⟩ := Journal.mem_about.mp member
    rw [not_reading_of_mem_record member (told ▸ rfl)]
    rfl
  rw [Journal.verdict, run_journal, ← List.singleton_append]
  simp only [Journal.about_append, List.filter_append, read, walked]
  rfl

theorem count_entered (dir : DirPath)
    : (run config faults tree).journal.count (.entered dir)
      = ((record config faults tree).filterMap Event.entered?).count dir := by
  rw [← run_filterMap config faults tree Event.entered?
    (fun event reading => by cases event <;> first | rfl | cases reading) rfl rfl,
    List.count_filterMap, List.count]
  refine List.countP_congr fun event _ => ?_
  cases event <;> simp [Event.entered?]

/-- What is told of a directory is told while ignore files are read, or in the walk. -/
theorem mem_run {event : Event} (told : event.dir?.isSome)
    : event ∈ (run config faults tree).journal
      ↔ event ∈ (Loading.load config faults tree config.root).journal
        ∨ event ∈ record config faults tree := by
  rw [run_journal]
  cases event <;> first | cases told; done | simp

/-- A directory that a walk does not come to is not entered, and nothing is told of it. -/
theorem never_entered {dir : DirPath}
    (never : ¬ ∃ entries now, Comes config faults (tables config faults tree) tree dir entries now)
    : (run config faults tree).journal.count (.entered dir) = 0
      ∧ (run config faults tree).journal.verdict dir = [] := by
  rw [count_entered, run_verdict, List.count_eq_zero]
  refine ⟨fun member => never ?_, Journal.about_eq_nil fun event member told => never ?_⟩
  · obtain ⟨event, member, enters⟩ := List.mem_filterMap.mp member
    obtain ⟨place, tells⟩ := mem_record member
    cases event <;> first | cases enters; done | skip
    exact Option.some.inj enters ▸ tells.entered
  · obtain ⟨place, tells⟩ := mem_record member
    exact (tells.comes told).2

variable (rooted : Rooted config.root location tree)

include rooted

-----------------------------------------------------------------------------------------
-- Once only
-----------------------------------------------------------------------------------------

/-- What a walk tells of, it tells of from the bottom up. -/
theorem record_ordered
    : ((record config faults tree).filterMap Event.dir?).Pairwise Walk.Precedes :=
  (Walk.postOrder_ordered (rooted.wellFormed.at rooted.get?_dirAt) .root).sublist
    (Walk.visit_told ..)

/-- What a walk tells of, it tells of once. -/
theorem record_nodup : ((record config faults tree).filterMap Event.dir?).Nodup :=
  (record_ordered rooted).imp Walk.Precedes.ne

/-- A walk tells of directories of the tree alone. -/
theorem kindAt_of_told {event : Event} (member : event ∈ record config faults tree) {dir : DirPath}
    (told : event.dir? = some dir)
    : tree.kindAt (location ++ dir) = some .dir := by
  obtain ⟨place, tells⟩ := mem_record member
  obtain ⟨_, entries, now, came⟩ := tells.comes told
  exact Node.kindAt_eq_dir.mpr ⟨entries, came.original rooted⟩

/-- Whatever a walk tells of is a directory whose names are ones of entries. -/
theorem names_of_told {event : Event} (member : event ∈ record config faults tree) {dir : DirPath}
    (told : event.dir? = some dir)
    : ∀ name ∈ dir, IsEntryName name := fun name inside =>
  rooted.wellFormed.names (kindAt_of_told rooted member told) name
    (List.mem_append_right location inside)

/-- If a walk tells something of a directory, it tells nothing else of it. -/
theorem run_verdict_eq {event : Event} (member : event ∈ record config faults tree) {dir : DirPath}
    (told : event.dir? = some dir)
    : (run config faults tree).journal.verdict dir = [event] := by
  rw [run_verdict]
  exact Journal.about_eq_singleton (record_nodup rooted) member told

/-- A walk settles the marker of a directory once, and knows the same each time it is asked. -/
theorem Walk.Settles.unique {dir : DirPath} {isEmpty hasMarker others has : Bool} {now then_ : Node}
    (settles : Settles config faults tree dir isEmpty hasMarker now)
    (again : Settles config faults tree dir others has then_)
    : others = isEmpty ∧ has = hasMarker ∧ then_ = now := by
  cases settles with
  | intro came _ listed below =>
      cases again with
      | intro also _ relisted rest =>
          obtain ⟨rfl, rfl⟩ := came.unique rooted also
          obtain rfl := Except.ok.inj (listed.symm.trans relisted)
          obtain rfl := Except.ok.inj (below.symm.trans rest)
          exact ⟨rfl, rfl, rfl⟩

/-- What a walk tells of a directory whose marker it settles is told when it does. -/
theorem Walk.Settles.told {dir : DirPath} {isEmpty hasMarker : Bool} {now : Node}
    (settles : Settles config faults tree dir isEmpty hasMarker now) {event : Event}
    (member : event ∈ record config faults tree) (told : event.dir? = some dir)
    : event ∈ (Marker.settle config faults (config.root.under dir) dir isEmpty hasMarker
        now).journal := by
  cases settles with
  | intro came kept listed below =>
      obtain ⟨place, tells⟩ := mem_record member
      obtain ⟨rfl, _⟩ := tells.comes told
      cases tells with
      | entering _ => cases told
      | deciding _ decided =>
          rcases Walk.mem_skip? decided with ⟨rule, path, isDir, rfl⟩ | ⟨skips, _⟩
          · cases told
          · cases kept.symm.trans skips
      | failing also _ failed =>
          obtain ⟨_, rfl⟩ := came.unique rooted also
          cases listed.symm.trans failed
      | judging also _ relisted rest judged =>
          obtain ⟨rfl, rfl⟩ := came.unique rooted also
          obtain rfl := Except.ok.inj (listed.symm.trans relisted)
          obtain rfl := Except.ok.inj (below.symm.trans rest)
          exact Walk.mem_conclude judged (told ▸ rfl)

-----------------------------------------------------------------------------------------
-- What is told of each directory
-----------------------------------------------------------------------------------------

section

variable (safe : config.IsSafe)

include safe

/-- A directory that a walk comes to is entered once. -/
theorem Walk.Comes.entered {dir : DirPath} {entries : Entries} {now : Node}
    (came : Comes config faults (tables config faults tree) tree dir entries now)
    : (run config faults tree).journal.count (.entered dir) = 1 := by
  have wellFormed := rooted.wellFormed.at rooted.get?_dirAt
  obtain ⟨_, _, inside⟩ := came.infix safe rooted
  have nodup : ((record config faults tree).filterMap Event.entered?).Nodup := by
    refine .sublist (visit_entered ..) ?_
    refine (preOrder_ordered wellFormed .root).imp fun {first next} smaller same => ?_
    exact List.lt_irrefl next (same ▸ smaller)
  rw [count_entered]
  refine List.count_eq_one_of_mem nodup (List.mem_filterMap.mpr ⟨.entered dir, ?_, rfl⟩)
  refine inside.subset ?_
  rw [visit]
  exact List.mem_cons_self

/-- A directory that a walk skips when it has come to it is told to be skipped. -/
theorem Walk.Comes.skipped {dir : DirPath} {entries : Entries} {now : Node}
    (came : Comes config faults (tables config faults tree) tree dir entries now)
    (skips : (skip? config ((tables config faults tree).inForce dir) (config.root.under dir)
      dir).1 = true)
    : ∃ event ∈ record config faults tree, event.skipped? = some dir := by
  obtain ⟨_, _, inside⟩ := came.infix safe rooted
  have told := told_skip? config ((tables config faults tree).inForce dir)
    (config.root.under dir) dir
  rw [if_pos skips] at told
  obtain ⟨event, member, about⟩ := List.mem_filterMap.mp (told ▸ List.mem_singleton_self dir)
  refine ⟨event, inside.subset ?_, ?_⟩
  · simp only [visit, Step.after, List.cons_append, List.mem_cons, List.mem_append]
    exact .inr (.inl member)
  · rcases mem_skip? member with ⟨rule, path, isDir, rfl⟩ | ⟨_, skipped⟩
    · cases about
    · exact skipped

/-- What keeps a run out of a directory is told. -/
theorem Walk.Shuts.told {dir : DirPath}
    (shut : Shuts config faults (tables config faults tree) tree dir)
    : dir.text ∈ ((run config faults tree).journal.summary config.markerName).skipped
      ∨ ∃ error, .unlistable dir error ∈ (run config faults tree).journal := by
  obtain ⟨entries, now, came, skips | ⟨kept, error, failed⟩⟩ := shut
  · obtain ⟨event, member, skipped⟩ := came.skipped rooted safe skips
    have member := (mem_run (Event.dir?_of_skipped? skipped ▸ rfl)).mpr (.inr member)
    exact .inl (List.mem_map_of_mem (List.mem_filterMap.mpr ⟨event, member, skipped⟩))
  · exact .inr ⟨error, (Fails.listing came kept failed).told safe rooted⟩

/-- Where a walk comes to and goes on from, it settles the marker in the end. -/
theorem Walk.Comes.settles {dir : DirPath} {entries listing : Entries} {now : Node}
    (came : Comes config faults (tables config faults tree) tree dir entries now)
    (kept : (skip? config ((tables config faults tree).inForce dir) (config.root.under dir)
      dir).1 = false)
    (listed : faults.list now (config.root.under dir) = .ok listing)
    : ∃ isEmpty hasMarker then_, Settles config faults tree dir isEmpty hasMarker then_ := by
  obtain ⟨inOrder, nulFree, _⟩ := came.infix safe rooted
  obtain ⟨orderly, children⟩ := Node.wellFormed_dir.mp inOrder
  obtain ⟨allEmpty, ended⟩ := visitAll_completes faults (tables config faults tree)
    (fun entry present dir' tree' => visit_completes safe faults (tables config faults tree)
      (children entry present) (nulFree.child (orderly.names entry present).1) dir' tree') dir now
  exact ⟨_, _, _, .intro came kept listed ended⟩

/-- What a run tells of a directory whose marker it settles is told when it does. -/
theorem Walk.Settles.verdict {dir : DirPath} {isEmpty hasMarker : Bool} {now : Node}
    (settles : Settles config faults tree dir isEmpty hasMarker now)
    : (run config faults tree).journal.verdict dir
      = (Marker.settle config faults (config.root.under dir) dir isEmpty hasMarker
          now).journal := by
  rcases settle_journal config faults (config.root.under dir) dir isEmpty hasMarker now
    with none | ⟨event, one, about, _⟩
  · rw [run_verdict, none]
    refine Journal.about_eq_nil fun event member told => ?_
    have happened := settles.told rooted member told
    rw [none] at happened
    cases happened
  · obtain ⟨_, inside⟩ := settles.infix safe rooted
    rw [one]
    refine run_verdict_eq rooted (inside.subset ?_) (Event.dir?_of_marker? about)
    rw [one]
    exact List.mem_singleton_self event

end

end

end DirMarkers
