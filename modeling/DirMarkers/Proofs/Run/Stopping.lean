import DirMarkers.Proofs.Run.Agreement
import DirMarkers.Proofs.Run.Outcome

/-!
The stops of a run decide what it reaches, what its walk answers, and what it skips. Two runs with
the same stops therefore agree about all of this.
-/

namespace DirMarkers

open Walk (Stop Finding Reached Arrives Answers IsStop)

/-- What a walk answers for a directory that it finds to be so: all that it does not judge counts as
empty.
-/
def Walk.Finding.answer : Finding → Bool
  | .judged isEmpty => isEmpty
  | _ => true

/-- Whether a walk that finds a directory to be so skips it. -/
def Walk.Finding.isSkip : Finding → Bool
  | .excluded | .ignored => true
  | _ => false

/-- A walk is kept from a directory that it skips, or that it is refused to list. -/
theorem Walk.of_barrier? {config : Config} {faults : Faults} {tables : Ignore.Tables}
    {dir : DirPath} {finding : Finding} (barred : barrier? config faults tables dir = some finding)
    : finding.isSkip = true
      ∨ ∃ error, finding = .unlistable error
        ∧ faults.refusal? .list (config.root.under dir) = some error := by
  rw [barrier?] at barred
  split at barred
  · cases barred
    exact .inl rfl
  · split at barred
    · cases barred
      exact .inl rfl
    · obtain ⟨error, refused, rfl⟩ := Option.map_eq_some_iff.mp barred
      exact .inr ⟨error, rfl, refused⟩

/-- What keeps a walk from a directory has the answer that it is empty. -/
theorem Walk.answer_of_barrier? {config : Config} {faults : Faults} {tables : Ignore.Tables}
    {dir : DirPath} {finding : Finding} (barred : barrier? config faults tables dir = some finding)
    : finding.answer = true := by
  rcases of_barrier? barred with skips | ⟨error, rfl, _⟩
  · cases finding <;> first | rfl | cases skips
  · rfl

/-- A walk skips the directories that are excluded or ignored. -/
theorem Walk.isSkip_findingAt (config : Config) (faults : Faults) (tables : Ignore.Tables)
    (dir : DirPath) (entries : Entries)
    : (findingAt config faults tables dir entries).isSkip = true
      ↔ (dir ≠ .root ∧ config.excludes (dir.getLast?.getD "") = true)
        ∨ Ignore.isIgnored (tables.inForce dir) dir.text true = true := by
  rw [findingAt, barrier?]
  split
  · next excluded => exact iff_of_true rfl (.inl excluded)
  · next kept =>
    split
    · next ignored => exact iff_of_true rfl (.inr ignored)
    · next notIgnored =>
      refine iff_of_false ?_ (not_or.mpr ⟨kept, notIgnored⟩)
      cases faults.refusal? .list (config.root.under dir) <;> exact Bool.false_ne_true

/-- Whatever a walk finds a directory to be, it answers whether the directory is vacant. -/
theorem Walk.answer_findingAt (config : Config) (faults : Faults) (tables : Ignore.Tables)
    (dir : DirPath) (entries : Entries)
    : (findingAt config faults tables dir entries).answer
      = isVacant config faults tables (.dir entries) dir := by
  cases barred : barrier? config faults tables dir with
  | some finding =>
      rw [findingAt, isVacant, barred]
      exact answer_of_barrier? barred
  | none =>
      rw [findingAt, barred]
      rfl

section

variable {config : Config} {faults : Faults} {location : Location} {tree : Node}
  (project : Project config location tree)

include project

/-- The stops of a run are those of its walk. -/
theorem mem_stops {stop : Stop}
    : stop ∈ stops config faults tree
      ↔ IsStop config faults (tables config faults tree) location tree stop := by
  rw [stops, Walk.mem_survey project _ project.dirAt_root fun _ => .root]
  exact and_iff_right List.nil_prefix

/-- A run stops wherever its walk arrives, with what it finds the directory to be. -/
theorem stop_of_arrives {dir : DirPath} {entries : Entries}
    (arrives : Arrives config faults (tables config faults tree) location tree dir)
    (there : tree.get? (location ++ dir) = some (.dir entries))
    : ⟨dir, Walk.findingAt config faults (tables config faults tree) dir entries⟩
        ∈ stops config faults tree :=
  (mem_stops project).mpr ⟨arrives, entries, there, rfl⟩

/-- A directory is reached if and only if it is judged at a stop. -/
theorem reached_iff_judged {dir : DirPath}
    : Reached config faults (tables config faults tree) location tree dir
      ↔ ∃ isEmpty, ⟨dir, .judged isEmpty⟩ ∈ stops config faults tree := by
  constructor
  · intro reached
    obtain ⟨entries, there⟩ := Node.kindAt_eq_dir.mp (reached.isDir project)
    have stopped := stop_of_arrives project reached.arrives there
    rw [Walk.findingAt, reached.unbarred project] at stopped
    exact ⟨_, stopped⟩
  · intro h
    obtain ⟨isEmpty, stopped⟩ := h
    obtain ⟨arrives, entries, there, found⟩ := (mem_stops project).mp stopped
    refine arrives.reached project ?_
    cases barred : Walk.barrier? config faults (tables config faults tree) dir with
    | none => rfl
    | some finding =>
        -- A barrier is no judgement.
        have judged := Walk.judged?_of_barrier? barred
        rw [Walk.findingAt, barred, Option.getD_some] at found
        subst found
        cases judged

/-- A directory that a walk skips is not reached. -/
theorem not_reached_of_isSkip {stop : Stop} (stopped : stop ∈ stops config faults tree)
    (skips : stop.finding.isSkip = true)
    : ¬ Reached config faults (tables config faults tree) location tree stop.dir := by
  intro reached
  obtain ⟨_, entries, _, found⟩ := (mem_stops project).mp stopped
  rw [found, Walk.findingAt, reached.unbarred project] at skips
  cases skips

/-- A marker is changed only in a reached directory. -/
theorem reached_of_changed {dir : DirPath}
    (changed : dir ∈ (course config faults tree location).changed)
    : Reached config faults (tables config faults tree) location tree dir := by
  obtain ⟨event, happened, change⟩ := List.mem_filterMap.mp changed
  have about := Event.marker?_of_changed? change
  obtain ⟨⟨place, finding⟩, stopped, told⟩ := course_marker happened about
  obtain ⟨rfl, _, isEmpty, rfl, _⟩ := Stop.marker_journal told about
  exact (reached_iff_judged project).mpr ⟨isEmpty, stopped⟩

/-- What a walk answers for a directory is decided at its stop there. -/
theorem answers_iff_stop (known : config.HasKnownMode) {dir : DirPath} {isEmpty : Bool}
    : Answers config faults (tables config faults tree) tree dir isEmpty
      ↔ ∃ stop ∈ stops config faults tree, stop.dir = dir ∧ stop.finding.answer = isEmpty := by
  rw [Walk.answers_iff known project]
  constructor
  · intro h
    obtain ⟨arrives, entries, there, vacant⟩ := h
    refine ⟨_, stop_of_arrives project arrives there, rfl, ?_⟩
    rw [Walk.answer_findingAt, vacant]
  · intro h
    obtain ⟨stop, stopped, rfl, answer⟩ := h
    obtain ⟨arrives, entries, there, found⟩ := (mem_stops project).mp stopped
    refine ⟨arrives, entries, there, ?_⟩
    rw [← answer, found, Walk.answer_findingAt]

/-- The directories that a run skips, in the order of its stops. -/
theorem run_skipped (faults : Faults) (known : config.HasKnownMode)
    : (run config faults tree).journal.filterMap Event.skipped?
      = (stops config faults tree).flatMap Stop.skipped := by
  have skipped := run_acting_skipped faults project config.mode config.dryRun known
  have loading : (Loading.load config faults tree config.root).journal.notable.filterMap
      Event.skipped? = [] := by
    refine List.filterMap_eq_nil_iff.mpr fun event member => ?_
    have reading := Loading.load_reading config faults tree config.root event
      (List.mem_filter.mp member).1
    cases event <;> first | rfl | cases reading
  rw [loading, List.nil_append] at skipped
  exact skipped

/-- A run skips the directories that it stops at to skip them. -/
theorem mem_run_skipped (known : config.HasKnownMode) {dir : DirPath}
    : dir ∈ (run config faults tree).journal.filterMap Event.skipped?
      ↔ ∃ stop ∈ stops config faults tree, stop.dir = dir ∧ stop.finding.isSkip = true := by
  have own (stop : Stop) : dir ∈ stop.skipped ↔ stop.dir = dir ∧ stop.finding.isSkip = true := by
    obtain ⟨place, finding⟩ := stop
    cases finding <;> simp [Stop.skipped, Walk.Finding.isSkip, eq_comm]
  rw [run_skipped project faults known, List.mem_flatMap]
  exact exists_congr fun stop => and_congr_right fun _ => own stop

end

end DirMarkers
