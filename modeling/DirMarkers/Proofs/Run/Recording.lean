import DirMarkers.Proofs.Run.Outcome
import DirMarkers.Proofs.Run.Partition

/-!
The errors of a run. They are the failures that it meets, each once: first the ignore files that
could not be read, from the top down, and then what failed in the walk, from the bottom up.
-/

namespace DirMarkers

open Walk (Settles Precedes preOrder preOrder_dir preOrder_ordered)

/-- The ignore file that an event tells to be unreadable: its directory and its kind. -/
def Event.read? : Event → Option (DirPath × Ignore.Source)
  | .unreadable dir source _ _ => some (dir, source)
  | _ => none

namespace Loading

/-- One ignore file is read before another one: its directory comes first from the top down, or it
is the one for content in the same directory.
-/
def Before (first next : DirPath × Ignore.Source) : Prop :=
  first.1 < next.1 ∨ first.1 = next.1 ∧ first.2 = .content ∧ next.2 = .marker

theorem Before.ne {first next : DirPath × Ignore.Source} (h : Before first next)
    : first ≠ next := by
  rintro rfl
  rcases h with smaller | ⟨_, content, marker⟩
  · exact List.lt_irrefl _ smaller
  · cases content.symm.trans marker

/-- The ignore files of a tree, in the order in which they are read. -/
def files (node : Node) (dir : DirPath) : List (DirPath × Ignore.Source) :=
  (preOrder node dir).flatMap fun place => [(place, .content), (place, .marker)]

theorem files_dir (entries : Entries) (dir : DirPath)
    : files (.dir entries) dir
      = [(dir, .content), (dir, .marker)]
        ++ entries.flatMap fun entry => files entry.2 (dir.child entry.1) := by
  rw [files, preOrder_dir, List.flatMap_cons, List.flatMap_assoc]
  rfl

theorem files_ordered {node : Node} (wellFormed : node.WellFormed) (dir : DirPath)
    : (files node dir).Pairwise Before := by
  refine List.pairwise_flatMap.mpr ⟨fun place _ => ?_, ?_⟩
  · exact List.pairwise_pair.mpr (.inr ⟨rfl, rfl, rfl⟩)
  · refine (preOrder_ordered wellFormed dir).imp fun {first next} smaller => ?_
    intro file own other theirs
    simp only [List.mem_cons, List.not_mem_nil, or_false] at own theirs
    refine .inl ?_
    rcases own with rfl | rfl <;> rcases theirs with rfl | rfl <;> exact smaller

-----------------------------------------------------------------------------------------
-- Ignore files are told of in the order in which they are read
-----------------------------------------------------------------------------------------

section

variable (config : Config) (faults : Faults) (top : Node)

theorem readRules_reads (path : PathName) (dir : DirPath) (source : Ignore.Source)
    : ((readRules faults top path dir source).2.filterMap Event.read?).Sublist [(dir, source)] := by
  simp only [readRules]
  split
  · split
    · exact List.nil_sublist _
    · exact List.Sublist.refl _
  · split
    · exact List.Sublist.refl _
    · exact List.nil_sublist _
    · exact List.nil_sublist _

theorem loadFiles_reads (path : PathName) (dir : DirPath)
    : ((loadFiles config faults top path dir).journal.filterMap Event.read?).Sublist
        [(dir, .content), (dir, .marker)] := by
  simp only [loadFiles, List.filterMap_append]
  refine (readRules_reads faults top path dir .content).append ?_
  split
  · exact readRules_reads faults top path dir .marker
  · exact List.nil_sublist _

theorem loadEntries_reads {entries : List (String × Node)} {path : PathName}
    (each : ∀ entry ∈ entries, ∀ dir,
      ((loadDir config faults top entry.2 (path.child entry.1) dir).journal.filterMap
        Event.read?).Sublist (files entry.2 dir))
    (dir : DirPath)
    : ((loadEntries config faults top entries path dir).journal.filterMap Event.read?).Sublist
        (entries.flatMap fun entry => files entry.2 (dir.child entry.1)) := by
  induction entries with
  | nil => exact List.nil_sublist _
  | cons entry rest ih =>
      rw [loadEntries, List.flatMap_cons, journal_append, List.filterMap_append]
      refine List.Sublist.append ?_ (ih fun other member => each other (.tail _ member))
      split
      · exact List.nil_sublist _
      · exact each entry List.mem_cons_self _

theorem loadDir_reads (node : Node) (path : PathName) (dir : DirPath)
    : ((loadDir config faults top node path dir).journal.filterMap Event.read?).Sublist
        (files node dir) := by
  induction node using Node.induction generalizing path dir with
  | file _ => exact List.nil_sublist _
  | link _ => exact List.nil_sublist _
  | dir entries ih =>
      have here := loadFiles_reads config faults top path dir
      rw [loadDir, files_dir]
      split
      · rw [journal_append, List.filterMap_append]
        exact here.append (List.nil_sublist _)
      · rw [journal_append, List.filterMap_append]
        exact here.append (loadEntries_reads config faults top
          (fun entry member => ih entry member _) dir)

end

section

variable {config : Config} {faults : Faults} {start : Node}

-----------------------------------------------------------------------------------------
-- What is told to have failed has failed
-----------------------------------------------------------------------------------------

/-- What is told of an ignore file is why its text could not be had. -/
theorem readFailure?_of_mem {path : PathName} {dir place : DirPath} {source kind : Ignore.Source}
    {file : PathName} {cause : ReadFailure}
    (member : .unreadable place kind file cause ∈ (readRules faults start path dir source).2)
    : place = dir ∧ kind = source ∧ file = path.child source.fileName
      ∧ readFailure? faults start (path.child source.fileName) = some cause := by
  simp only [readRules] at member
  rw [readFailure?]
  cases read : faults.read start (path.child source.fileName) with
  | error error =>
      rw [read] at member
      dsimp only at member ⊢
      split at member
      · cases member
      · next present =>
        cases List.mem_singleton.mp member
        exact ⟨rfl, rfl, rfl, if_neg present⟩
  | ok content =>
      rw [read] at member
      dsimp only at member ⊢
      rw [Ignore.parse] at member
      cases decoded : Text.Utf8.decode content with
      | error fault =>
          rw [decoded] at member
          cases List.mem_singleton.mp member
          exact ⟨rfl, rfl, rfl, rfl⟩
      | ok text =>
          rw [decoded] at member
          dsimp only at member
          split at member
          · next failed => cases failed
          · cases member
          · cases List.mem_singleton.mp member

/-- An ignore file that is told to be unreadable is one of a visited directory, and counts. -/
theorem fails_of_mem_load (wellFormed : start.WellFormed) {event : Event}
    (member : event ∈ (load config faults start config.root).journal) (failed : event.isFailure)
    : Fails config faults start event := by
  have reading := load_reading config faults start config.root event member
  cases event with
  | unreadable dir source file cause =>
      have told := Journal.mem_about.mpr ⟨member, rfl⟩
      rw [load_about wellFormed dir] at told
      split at told
      · next visited =>
        obtain ⟨here, _⟩ := Journal.mem_about.mp told
        simp only [loadFiles, List.mem_append] at here
        rcases here with content | marker
        · obtain ⟨_, rfl, rfl, why⟩ := readFailure?_of_mem content
          exact .reading visited (.inl rfl) why
        · split at marker
          · next respected =>
            obtain ⟨_, rfl, rfl, why⟩ := readFailure?_of_mem marker
            exact .reading visited (.inr respected) why
          · cases marker
      · cases told
  | _ => first | (cases failed; done) | cases reading

end

end Loading

section

variable {config : Config} {faults : Faults} {start : Node} {location : Location}

/-- What is told to have failed when a marker is settled is what was to be done. -/
theorem Marker.settle_failed (named : IsEntryName config.markerName) {path : PathName}
    {dir : DirPath} {isEmpty hasMarker : Bool} {tree : Node} {event : Event}
    (member : event ∈ (settle config faults path dir isEmpty hasMarker tree).journal)
    (failed : event.isFailure)
    : ∃ error, config.dryRun = false
      ∧ (event = .createFailed dir error ∧ duty config.mode isEmpty hasMarker = .ok .create
          ∧ faults.write tree (path.child config.markerName) config.markerContent.toUTF8
            = .error error
        ∨ event = .removeFailed dir error ∧ duty config.mode isEmpty hasMarker = .ok .remove
          ∧ faults.remove tree (path.child config.markerName) = .error error) := by
  rw [settle] at member
  cases due : duty config.mode isEmpty hasMarker with
  | error crash =>
      rw [due] at member
      cases member
  | ok deed =>
      rw [due] at member
      cases deed with
      | leave => cases member
      | reportMissing =>
          rw [List.mem_singleton.mp member] at failed
          cases failed
      | reportSpare =>
          rw [List.mem_singleton.mp member] at failed
          cases failed
      | create =>
          simp only [perform, create, PathName.join_entry path named] at member
          split at member
          · rw [List.mem_singleton.mp member] at failed
            cases failed
          · next real =>
            split at member
            · cases member
            · rw [List.mem_singleton.mp member] at failed
              cases failed
            · next error _ refused =>
              exact ⟨error, Bool.not_eq_true _ ▸ real,
                .inl ⟨List.mem_singleton.mp member, rfl, refused⟩⟩
      | remove =>
          simp only [perform, remove, PathName.join_entry path named] at member
          split at member
          · rw [List.mem_singleton.mp member] at failed
            cases failed
          · next real =>
            split at member
            · cases member
            · rw [List.mem_singleton.mp member] at failed
              cases failed
            · next error _ refused =>
              exact ⟨error, Bool.not_eq_true _ ▸ real,
                .inr ⟨List.mem_singleton.mp member, rfl, refused⟩⟩

/-- What a walk tells to have failed has failed. -/
theorem fails_of_mem_record (named : IsEntryName config.markerName) {event : Event}
    (member : event ∈ record config faults start) (failed : event.isFailure)
    : Fails config faults start event := by
  obtain ⟨place, tells⟩ := mem_record member
  cases tells with
  | entering came => cases failed
  | failing came kept refused => exact .listing came kept refused
  | deciding came decided =>
      rcases Walk.mem_skip? decided with ⟨rule, path, isDir, rfl⟩ | ⟨_, skipped⟩
      · cases failed
      · cases event <;> first | cases skipped; done | cases failed
  | judging came kept listed below judged =>
      have told : event.dir?.isSome := by cases event <;> first | rfl | cases failed
      have settles := Settles.intro came kept listed below
      obtain ⟨error, real, ⟨rfl, due, refused⟩ | ⟨rfl, due, refused⟩⟩ :=
        Marker.settle_failed named (Walk.mem_conclude judged told) failed
      · exact .creating settles due real refused
      · exact .removing settles due real refused

variable (safe : config.IsSafe) (rooted : Rooted config.root location start)

include safe rooted

/-- A run meets the failures that are told while ignore files are read or in the walk. -/
theorem fails_iff {event : Event}
    : Fails config faults start event
      ↔ event.isFailure ∧ (event ∈ (Loading.load config faults start config.root).journal
        ∨ event ∈ record config faults start) := by
  constructor
  · intro fails
    have failed : event.isFailure := decide_eq_true fails.weighs
    have told : event.dir?.isSome := by cases event <;> first | rfl | cases failed
    exact ⟨failed, (mem_run told).mp (fails.told safe rooted)⟩
  · rintro ⟨failed, reading | walked⟩
    · exact Loading.fails_of_mem_load rooted.wellFormed reading failed
    · exact fails_of_mem_record safe.marker walked failed

/-- The failures that are told while ignore files are read are those of reading. -/
theorem mem_load_failures {event : Event}
    : event ∈ (Loading.load config faults start config.root).journal.filter Event.isFailure
      ↔ Fails config faults start event ∧ event.isReading = true := by
  rw [List.mem_filter, fails_iff safe rooted]
  constructor
  · rintro ⟨member, failed⟩
    exact ⟨⟨failed, .inl member⟩, Loading.load_reading config faults start config.root _ member⟩
  · rintro ⟨⟨failed, reading | walked⟩, isReading⟩
    · exact ⟨reading, failed⟩
    · have told : event.dir?.isSome := by cases event <;> first | rfl | cases failed
      cases isReading.symm.trans (not_reading_of_mem_record walked told)

/-- The failures that are told in the walk are the others. -/
theorem mem_record_failures {event : Event}
    : event ∈ (record config faults start).filter Event.isFailure
      ↔ Fails config faults start event ∧ event.isReading = false := by
  rw [List.mem_filter, fails_iff safe rooted]
  constructor
  · rintro ⟨member, failed⟩
    have told : event.dir?.isSome := by cases event <;> first | rfl | cases failed
    exact ⟨⟨failed, .inr member⟩, not_reading_of_mem_record member told⟩
  · rintro ⟨⟨failed, reading | walked⟩, notReading⟩
    · have isReading := Loading.load_reading config faults start config.root event reading
      cases isReading.symm.trans notReading
    · exact ⟨walked, failed⟩

end

-----------------------------------------------------------------------------------------
-- Whole runs
-----------------------------------------------------------------------------------------

/-- The errors of a summary are the messages of the failures that a journal tells of. -/
theorem Journal.summary_errors (marker : String) (journal : Journal)
    : (journal.summary marker).errors
      = (journal.filter Event.isFailure).map (Event.message marker) := by
  have seen : (journal.summary marker).errors = journal.filterMap (Event.failure? marker) := rfl
  rw [seen, ← List.filterMap_eq_map, List.filterMap_filter]
  refine List.filterMap_congr fun event _ => ?_
  simp [Event.failure?_eq, Event.isFailure]

/-- One ignore file that could not be read comes before another one. -/
def Event.ReadsBefore (first next : Event) : Prop :=
  ∃ file other, first.read? = some file ∧ next.read? = some other ∧ Loading.Before file other

/-- One directory that is told of comes before another one, from the bottom up. -/
def Event.TellsBefore (first next : Event) : Prop :=
  ∃ dir other, first.dir? = some dir ∧ next.dir? = some other ∧ Precedes dir other

theorem Event.ReadsBefore.ne {first next : Event} (h : first.ReadsBefore next) : first ≠ next := by
  obtain ⟨file, other, own, theirs, before⟩ := h
  rintro rfl
  exact before.ne (Option.some.inj (own.symm.trans theirs))

theorem Event.TellsBefore.ne {first next : Event} (h : first.TellsBefore next) : first ≠ next := by
  obtain ⟨dir, other, own, theirs, before⟩ := h
  rintro rfl
  exact before.ne (Option.some.inj (own.symm.trans theirs))

section

variable {config : Config} {faults : Faults} {tree : Node} {location : Location}
  (rooted : Rooted config.root location tree)

include rooted

/-- Ignore files that could not be read are told of in the order in which they are read. -/
theorem load_failures_ordered
    : ((Loading.load config faults tree config.root).journal.filter Event.isFailure).Pairwise
        Event.ReadsBefore := by
  have wellFormed := rooted.wellFormed.at rooted.get?_dirAt
  have reads : ((Loading.load config faults tree config.root).journal.filterMap
      Event.read?).Pairwise Loading.Before := by
    refine .sublist ?_ (Loading.files_ordered wellFormed .root)
    rw [Loading.load, Loading.journal_append, List.filterMap_append]
    have own := Loading.loadDir_reads config faults tree (Loading.dirAt tree config.root)
      config.root .root
    exact (List.append_nil _).symm ▸ own
  refine (List.pairwise_filterMap.mp reads).sublist List.filter_sublist |>.imp_of_mem ?_
  intro first next firstIn nextIn before
  have file {event : Event} (member : event ∈
      (Loading.load config faults tree config.root).journal.filter Event.isFailure)
      : ∃ file, event.read? = some file := by
    obtain ⟨told, failed⟩ := List.mem_filter.mp member
    have reading := Loading.load_reading config faults tree config.root event told
    cases event <;> first | exact ⟨_, rfl⟩ | (cases failed; done) | cases reading
  obtain ⟨own, isOwn⟩ := file firstIn
  obtain ⟨theirs, isTheirs⟩ := file nextIn
  exact ⟨own, theirs, isOwn, isTheirs, before own isOwn theirs isTheirs⟩

/-- What failed in a walk is told of from the bottom up. -/
theorem record_failures_ordered
    : ((record config faults tree).filter Event.isFailure).Pairwise Event.TellsBefore := by
  have told : ((record config faults tree).filterMap Event.dir?).Pairwise Precedes :=
    record_ordered rooted
  refine (List.pairwise_filterMap.mp told).sublist List.filter_sublist |>.imp_of_mem ?_
  intro first next firstIn nextIn before
  have place {event : Event} (failed : event.isFailure) : ∃ dir, event.dir? = some dir := by
    cases event <;> first | exact ⟨_, rfl⟩ | cases failed
  obtain ⟨own, isOwn⟩ := place (List.mem_filter.mp firstIn).2
  obtain ⟨theirs, isTheirs⟩ := place (List.mem_filter.mp nextIn).2
  exact ⟨own, theirs, isOwn, isTheirs, before own isOwn theirs isTheirs⟩

end

/-- The errors of a run are the failures that it meets, each of them once: those of reading ignore
files from the top down, and then those of the walk from the bottom up. A run failed if and only if
it met one.
-/
theorem run_records {config : Config} {location : Location} {tree : Node} (safe : config.IsSafe)
    (rooted : Rooted config.root location tree) (faults : Faults)
    : (∃ isEmpty, (run config faults tree).answer = .ok isEmpty)
      ∧ (∃ reading walking : Journal,
        ((run config faults tree).journal.summary config.markerName).errors
            = (reading ++ walking).map (Event.message config.markerName)
          ∧ (reading ++ walking).Nodup
          ∧ reading.Pairwise Event.ReadsBefore
          ∧ walking.Pairwise Event.TellsBefore
          ∧ (∀ event, event ∈ reading ↔ Fails config faults tree event ∧ event.isReading = true)
          ∧ ∀ event, event ∈ walking ↔ Fails config faults tree event ∧ event.isReading = false)
      ∧ (((run config faults tree).journal.summary config.markerName).failed = true
        ↔ ∃ event, Fails config faults tree event) := by
  have wellFormed := rooted.wellFormed.at rooted.get?_dirAt
  have nulFree := rooted.leads.noNul rooted.wellFormed
  have ends := Walk.visit_completes safe faults (tables config faults tree) wellFormed nulFree .root
    tree
  have errors := Journal.summary_errors config.markerName (run config faults tree).journal
  have walked : (run config faults tree).journal.filter Event.isFailure
      = (Loading.load config faults tree config.root).journal.filter Event.isFailure
        ++ (record config faults tree).filter Event.isFailure := by
    simp [run_journal, Event.isFailure, Event.level]
  have reads : ((Loading.load config faults tree config.root).journal.filter
      Event.isFailure).Pairwise Event.ReadsBefore := load_failures_ordered rooted
  have tells : ((record config faults tree).filter Event.isFailure).Pairwise Event.TellsBefore :=
    record_failures_ordered rooted
  refine ⟨ends, ⟨_, _, walked ▸ errors, ?_, reads, tells,
    fun _ => mem_load_failures safe rooted, fun _ => mem_record_failures safe rooted⟩, ?_⟩
  · refine List.nodup_append.mpr
      ⟨reads.imp Event.ReadsBefore.ne, tells.imp Event.TellsBefore.ne, ?_⟩
    rintro event first _ next rfl
    have isReading := ((mem_load_failures safe rooted).mp first).2
    cases isReading.symm.trans ((mem_record_failures safe rooted).mp next).2
  · rw [Summary.failed, errors, walked, Bool.not_eq_true', List.isEmpty_eq_false_iff_exists_mem]
    constructor
    · rintro ⟨_, member⟩
      obtain ⟨event, told, _⟩ := List.mem_map.mp member
      rcases List.mem_append.mp told with first | next
      · exact ⟨event, ((mem_load_failures safe rooted).mp first).1⟩
      · exact ⟨event, ((mem_record_failures safe rooted).mp next).1⟩
    · rintro ⟨event, fails⟩
      obtain ⟨failed, told⟩ := (fails_iff safe rooted).mp fails
      refine ⟨_, List.mem_map_of_mem (a := event) ?_⟩
      rw [← List.filter_append]
      exact List.mem_filter.mpr ⟨List.mem_append.mpr told, failed⟩

/-- One ignore file may not be read, one directory may not be listed, and nothing may be written. -/
def Faults.sealed : Faults :=
  fun call path =>
    match call with
    | .read => if path.text = "/p/.gitignore" then some .accessDenied else Option.none
    | .list => if path.name = "shut" then some .accessDenied else Option.none
    | .write => some .accessDenied
    | .remove => Option.none

/-- Four failures, in order: one of reading, and then three of the walk. -/
theorem run_records_mixed
    : ((run mixedConfig .sealed mixedTree).journal.summary ".gitkeep").errors
        = ["Failed to read /p/.gitignore: [Errno 13] Permission denied: '/p/.gitignore'",
          "Failed to create bare/.gitkeep: [Errno 13] Permission denied: '/p/bare/.gitkeep'",
          "Cannot read directory /p/shut: [Errno 13] Permission denied: '/p/shut'",
          "Failed to create .gitkeep: [Errno 13] Permission denied: '/p/.gitkeep'"]
      ∧ ∃ event, Fails mixedConfig .sealed mixedTree event := by
  have rooted : Rooted mixedConfig.root ["p"] mixedTree := .of_stat (by decide) rfl
  have safe : mixedConfig.IsSafe := ⟨.of_normal rfl, by decide⟩
  obtain ⟨_, _, failed⟩ := run_records safe rooted .sealed
  exact ⟨rfl, failed.mp rfl⟩

end DirMarkers
