import DirMarkers.Proofs.Run.Recording
import DirMarkers.Proofs.Walk.Finding

/-!
The log of a run and its summary. Both are views of one journal, and from the level of information
upwards they tell the same in the same order: no outcome is logged and not recorded, or recorded
under another text.
-/

namespace DirMarkers

open Walk (Settles Shows)

-----------------------------------------------------------------------------------------
-- The messages of a level
-----------------------------------------------------------------------------------------

/-- The messages of one level among the lines of a log that are for information or weigh more. -/
def Journal.messages (marker : String) (level : Level) (journal : Journal) : List String :=
  ((LogLine.above .info (journal.log marker)).filter fun line => line.level = level).map
    LogLine.message

/-- The messages of a level are those of the events of that level. -/
theorem Journal.messages_eq (marker : String) {level : Level}
    (shown : Level.info.rank ≤ level.rank) (journal : Journal)
    : journal.messages marker level
      = (journal.filter fun event => event.level = level).map (Event.message marker) := by
  rw [messages, LogLine.above, log, List.filter_filter, List.filter_map, List.map_map]
  refine congrArg₂ List.map rfl (List.filter_congr fun event _ => ?_)
  simp only [Function.comp, Event.logLine]
  by_cases same : event.level = level
  · simp [same, shown]
  · simp [same]

-----------------------------------------------------------------------------------------
-- Several views of one list
-----------------------------------------------------------------------------------------

/-- A list is put together from two others, each of which keeps its order. -/
inductive Interleaves {α : Type} : List α → List α → List α → Prop
  | nil : Interleaves [] [] []
  | first {item : α} {first next whole : List α} (rest : Interleaves first next whole)
    : Interleaves (item :: first) next (item :: whole)
  | next {item : α} {first next whole : List α} (rest : Interleaves first next whole)
    : Interleaves first (item :: next) (item :: whole)

section

variable {α β γ : Type} {items : List α} {chosen : α → Bool} {say : α → γ}

/-- What is said of the chosen items is put together from what two views see, if each chosen item
is seen by one of them, as what is said of it, and no other item is seen.
-/
theorem Interleaves.of_views {left right : α → Option γ}
    (each : ∀ item ∈ items, chosen item = true
      → left item = some (say item) ∧ right item = none
        ∨ left item = none ∧ right item = some (say item))
    (passes : ∀ item ∈ items, chosen item = false → left item = none ∧ right item = none)
    : Interleaves (items.filterMap left) (items.filterMap right)
        ((items.filter chosen).map say) := by
  induction items with
  | nil => exact .nil
  | cons item rest ih =>
      have later := ih (fun other member => each other (List.mem_cons_of_mem _ member))
        (fun other member => passes other (List.mem_cons_of_mem _ member))
      cases here : chosen item with
      | false =>
          obtain ⟨noLeft, noRight⟩ := passes item List.mem_cons_self here
          simpa [here, noLeft, noRight] using later
      | true =>
          rcases each item List.mem_cons_self here with ⟨seen, passed⟩ | ⟨passed, seen⟩
          · simpa [here, seen, passed] using later.first
          · simpa [here, seen, passed] using later.next

/-- A view of a list goes along with what is said of the chosen items, if it sees exactly these. -/
theorem forall₂_view {Fits : β → γ → Prop} {view : α → Option β}
    (each : ∀ item ∈ items, chosen item = true
      → ∃ seen, view item = some seen ∧ Fits seen (say item))
    (passes : ∀ item ∈ items, chosen item = false → view item = none)
    : List.Forall₂ Fits (items.filterMap view) ((items.filter chosen).map say) := by
  induction items with
  | nil => exact .nil
  | cons item rest ih =>
      have later := ih (fun other member => each other (List.mem_cons_of_mem _ member))
        (fun other member => passes other (List.mem_cons_of_mem _ member))
      cases here : chosen item with
      | false => simpa [here, passes item List.mem_cons_self here] using later
      | true =>
          obtain ⟨seen, sees, fits⟩ := each item List.mem_cons_self here
          simpa [here, sees] using And.intro fits later

end

-----------------------------------------------------------------------------------------
-- What is told for information
-----------------------------------------------------------------------------------------

/-- What is told for information of a directory that is empty or not: a finding of a check, what
was changed, or what would have been in a dry run.
-/
inductive Marker.Reports (config : Config) (dir : DirPath) (isEmpty : Bool) : Event → Prop
  | missing (check : config.mode = .check) (empty : isEmpty = true)
    : Reports config dir isEmpty (.markerMissing dir)
  | spare (check : config.mode = .check) (full : isEmpty = false)
    : Reports config dir isEmpty (.markerSpare dir)
  | created (acts : config.mode ≠ .check) (real : config.dryRun = false)
    : Reports config dir isEmpty (.created dir)
  | removed (acts : config.mode ≠ .check) (real : config.dryRun = false)
    : Reports config dir isEmpty (.removed dir)
  | wouldCreate (acts : config.mode ≠ .check) (dry : config.dryRun = true)
    : Reports config dir isEmpty (.wouldCreate dir)
  | wouldRemove (acts : config.mode ≠ .check) (dry : config.dryRun = true)
    : Reports config dir isEmpty (.wouldRemove dir)

section

variable {config : Config} {faults : Faults} {tree : Node} {event : Event}

/-- What a check does about a marker is to report, and no other mode does. -/
theorem Marker.of_duty_report {mode : Mode} {isEmpty hasMarker : Bool} {task : Duty}
    (due : duty mode isEmpty hasMarker = .ok task)
    : match task with
      | .leave => True
      | .create | .remove => mode ≠ .check
      | .reportMissing => mode = .check ∧ isEmpty = true
      | .reportSpare => mode = .check ∧ isEmpty = false := by
  cases mode with
  | unknown name => cases due
  | _ => cases isEmpty <;> cases hasMarker <;> cases due <;> simp

/-- A change of a marker is told of for information when it is made, or announced in a dry run. -/
theorem Marker.info_of_change {dry : Bool} {crash? : Option Crash}
    {changed : Except SystemError Node} {would done : Event} {failed : SystemError → Event}
    (member : event ∈ (if dry then (⟨.ok (), tree, [would]⟩ : Step Unit)
      else
        match crash?, changed with
        | some crash, _ => ⟨.error crash, tree, []⟩
        | none, .ok tree => ⟨.ok (), tree, [done]⟩
        | none, .error error => ⟨.ok (), tree, [failed error]⟩).journal)
    (told : event.level = .info) (warns : ∀ error, (failed error).level = .warning)
    : event = if dry then would else done := by
  cases dry with
  | true => exact List.mem_singleton.mp member
  | false =>
      rw [if_neg Bool.false_ne_true] at member
      split at member
      · cases member
      · exact List.mem_singleton.mp member
      · obtain rfl := List.mem_singleton.mp member
        cases told.symm.trans (warns _)

theorem Marker.info_of_create {path : PathName} {dir : DirPath}
    (member : event ∈ (create config faults path dir tree).journal) (told : event.level = .info)
    : event = if config.dryRun then .wouldCreate dir else .created dir :=
  info_of_change member told fun _ => rfl

theorem Marker.info_of_remove {path : PathName} {dir : DirPath}
    (member : event ∈ (remove config faults path dir tree).journal) (told : event.level = .info)
    : event = if config.dryRun then .wouldRemove dir else .removed dir :=
  info_of_change member told fun _ => rfl

/-- What is told for information when a marker is settled, by cases on what is to be done. -/
theorem Marker.reports_of_settle {path : PathName} {dir : DirPath} {isEmpty hasMarker : Bool}
    (member : event ∈ (settle config faults path dir isEmpty hasMarker tree).journal)
    (told : event.level = .info)
    : Reports config dir isEmpty event := by
  rw [settle] at member
  cases due : duty config.mode isEmpty hasMarker with
  | error crash =>
      rw [due] at member
      cases member
  | ok task =>
      rw [due] at member
      have acts := of_duty_report due
      cases task with
      | leave => cases member
      | reportMissing =>
          obtain rfl := List.mem_singleton.mp member
          exact .missing acts.1 acts.2
      | reportSpare =>
          obtain rfl := List.mem_singleton.mp member
          exact .spare acts.1 acts.2
      | create =>
          rw [info_of_create member told]
          split
          · next dry => exact .wouldCreate acts dry
          · next real => exact .created acts (Bool.eq_false_iff.mpr real)
      | remove =>
          rw [info_of_remove member told]
          split
          · next dry => exact .wouldRemove acts dry
          · next real => exact .removed acts (Bool.eq_false_iff.mpr real)

/-- What is told for information in a run is told when a walk settles a marker. -/
theorem mem_run_info (member : event ∈ (run config faults tree).journal)
    (told : event.level = .info)
    : ∃ dir isEmpty hasMarker now, Settles config faults tree dir isEmpty hasMarker now
      ∧ Marker.Reports config dir isEmpty event := by
  have named : event.dir?.isSome := by cases event <;> first | rfl | cases told
  rcases (mem_run named).mp member with read | walked
  · have reading := Loading.load_reading config faults tree config.root event read
    cases event <;> first | cases told; done | cases reading
  · obtain ⟨dir, tells⟩ := mem_record walked
    cases tells with
    | entering _ => cases told
    | failing _ _ _ => cases told
    | deciding _ decided =>
        rcases Walk.mem_skip? decided with ⟨rule, path, isDir, rfl⟩ | ⟨_, skipped⟩
        · cases told
        · cases event <;> first | cases told; done | cases skipped
    | judging came kept listed below judged =>
        have settled := Walk.mem_conclude judged named
        exact ⟨dir, _, _, _, .intro came kept listed below, Marker.reports_of_settle settled told⟩

end

-----------------------------------------------------------------------------------------
-- The log and the summary
-----------------------------------------------------------------------------------------

section

variable (config : Config) (faults : Faults) (tree : Node)

/-- What a check says of a mismatched directory: whether it is empty or not, which is whether it
shows no file in the tree.
-/
def Finds (dir : DirPath) (message : String) : Prop :=
  ∃ location, Rooted config.root location tree
    ∧ (¬ Shows config faults (tables config faults tree) location tree dir
        ∧ message = dir.text ++ " - empty directory without " ++ config.markerName
      ∨ Shows config faults (tables config faults tree) location tree dir
        ∧ message = dir.text ++ " - non-empty directory with " ++ config.markerName)

/-- What a dry run says of a marker: that it would have been created or removed. -/
def Announces (message : String) : Prop :=
  ∃ dir : DirPath,
    message = "[DRY-RUN] Would create " ++ dir.entryText config.markerName
      ∨ message = "[DRY-RUN] Would remove " ++ dir.entryText config.markerName

/-- The messages of a run, from the level of information upwards, tell the same as its summary. -/
structure SameStory (messages : Level → List String) (summary : Summary) : Prop where
  warnings : messages .warning = summary.errors
  changes
    : config.mode ≠ .check → config.dryRun = false
      → Interleaves (summary.created.map ("Created " ++ ·)) (summary.removed.map ("Removed " ++ ·))
          (messages .info)
  findings
    : config.mode = .check
      → ∃ dirs : List DirPath, summary.mismatched = dirs.map DirPath.text
          ∧ List.Forall₂ (Finds config faults tree) dirs (messages .info)
  rehearsal
    : config.dryRun = true
      → summary.created = [] ∧ summary.removed = []
        ∧ (config.mode ≠ .check → ∀ message ∈ messages .info, Announces config message)

end

section

variable {config : Config} {faults : Faults} {tree : Node}

/-- The warnings of a run are the errors of its summary. -/
theorem run_warnings
    : (run config faults tree).journal.messages config.markerName .warning
      = ((run config faults tree).journal.summary config.markerName).errors := by
  rw [Journal.messages_eq config.markerName (by decide), Journal.summary_errors]
  rfl

/-- A run that acts tells of what it changed, in the order of its summary. -/
theorem run_changes (acts : config.mode ≠ .check) (real : config.dryRun = false)
    : Interleaves
        (((run config faults tree).journal.summary config.markerName).created.map ("Created " ++ ·))
        (((run config faults tree).journal.summary config.markerName).removed.map ("Removed " ++ ·))
        ((run config faults tree).journal.messages config.markerName .info) := by
  rw [Journal.messages_eq config.markerName (by decide)]
  simp only [Journal.summary, List.map_filterMap]
  refine Interleaves.of_views (fun event member chosen => ?_) fun event _ passed => ?_
  · obtain ⟨dir, isEmpty, _, _, _, reports⟩ := mem_run_info member (of_decide_eq_true chosen)
    cases reports with
    | missing check _ => exact absurd check acts
    | spare check _ => exact absurd check acts
    | wouldCreate _ dry => cases real.symm.trans dry
    | wouldRemove _ dry => cases real.symm.trans dry
    | created _ _ => exact .inl ⟨rfl, rfl⟩
    | removed _ _ => exact .inr ⟨rfl, rfl⟩
  · cases event <;> first | exact ⟨rfl, rfl⟩ | cases passed

/-- A check tells of each mismatched directory once, in the order of its summary. -/
theorem run_findings (wellFormed : tree.WellFormed) (check : config.mode = .check)
    : List.Forall₂ (Finds config faults tree)
        ((run config faults tree).journal.filterMap Event.mismatched?)
        ((run config faults tree).journal.messages config.markerName .info) := by
  rw [Journal.messages_eq config.markerName (by decide)]
  refine forall₂_view (fun event member chosen => ?_) fun event _ passed => ?_
  · obtain ⟨dir, isEmpty, _, _, settles, reports⟩ :=
      mem_run_info member (of_decide_eq_true chosen)
    obtain ⟨location, rooted, shows⟩ := settles.isEmpty_iff (.inr check) wellFormed
    cases reports with
    | missing _ empty =>
        have bare := fun shown => Bool.false_ne_true ((shows.mpr shown).symm.trans empty)
        exact ⟨dir, rfl, location, rooted, .inl ⟨bare, rfl⟩⟩
    | spare _ full => exact ⟨dir, rfl, location, rooted, .inr ⟨shows.mp full, rfl⟩⟩
    | created acts _ => exact absurd check acts
    | removed acts _ => exact absurd check acts
    | wouldCreate acts _ => exact absurd check acts
    | wouldRemove acts _ => exact absurd check acts
  · cases event <;> first | rfl | cases passed

/-- A dry run changes no marker. -/
theorem run_unchanged_of_dry (dry : config.dryRun = true)
    : (run config faults tree).journal.changed = [] := by
  refine List.filterMap_eq_nil_iff.mpr fun event member => ?_
  cases changed : event.changed? with
  | none => rfl
  | some dir =>
      have told : event.level = .info := by cases event <;> first | rfl | cases changed
      obtain ⟨_, _, _, _, _, reports⟩ := mem_run_info member told
      cases reports with
      | created _ real => cases dry.symm.trans real
      | removed _ real => cases dry.symm.trans real
      | _ => cases changed

/-- What a dry run tells for information announces what it would do. -/
theorem run_announces (acts : config.mode ≠ .check) (dry : config.dryRun = true)
    : ∀ message ∈ (run config faults tree).journal.messages config.markerName .info,
        Announces config message := by
  intro message member
  rw [Journal.messages_eq config.markerName (by decide)] at member
  obtain ⟨event, chosen, rfl⟩ := List.mem_map.mp member
  obtain ⟨member, told⟩ := List.mem_filter.mp chosen
  obtain ⟨dir, _, _, _, _, reports⟩ := mem_run_info member (of_decide_eq_true told)
  cases reports with
  | missing check _ => exact absurd check acts
  | spare check _ => exact absurd check acts
  | created _ real => cases dry.symm.trans real
  | removed _ real => cases dry.symm.trans real
  | wouldCreate _ _ => exact ⟨dir, .inl rfl⟩
  | wouldRemove _ _ => exact ⟨dir, .inr rfl⟩

/-- The log of a run and its summary tell the same story, in every mode and whatever calls fail. -/
theorem run_tells_one_story (wellFormed : tree.WellFormed) (config : Config) (faults : Faults)
    : SameStory config faults tree
        (fun level => (run config faults tree).journal.messages config.markerName level)
        ((run config faults tree).journal.summary config.markerName) where
  warnings := run_warnings
  changes := run_changes
  findings check := ⟨_, rfl, run_findings wellFormed check⟩
  rehearsal dry := by
    have still : (run config faults tree).journal.changed = [] := run_unchanged_of_dry dry
    have unchanged := Journal.summary_of_unchanged config.markerName still
    exact ⟨unchanged.1, unchanged.2, fun acts => run_announces acts dry⟩

/-- A check of the small project finds two directories, and tells of both. -/
theorem run_tells_one_story_small
    : ∃ dirs : List DirPath, dirs.map DirPath.text = ["bare", "full"]
        ∧ List.Forall₂ (Finds (smallConfig.acting .check false) .none smallTree) dirs
          ["bare - empty directory without .gitkeep", "full - non-empty directory with .gitkeep"] := by
  have wellFormed : smallTree.WellFormed := by decide
  have story := run_tells_one_story wellFormed (smallConfig.acting .check false) .none
  obtain ⟨dirs, mismatched, finds⟩ := story.findings rfl
  exact ⟨dirs, mismatched.symm, finds⟩

end

end DirMarkers
