import DirMarkers.Proofs.Run.Record

/-!
What becomes of each directory in a run. Whatever calls do, a directory is named at most once in a
summary, and each has exactly one fate: it is below one that the run keeps out of, or is skipped,
or cannot be listed, or its marker is settled.
-/

namespace DirMarkers

open Walk (Comes Settles skip?)

/-- The directories that a summary names, in all its lists but that of the errors. -/
def Summary.directories (summary : Summary) : List DirPath :=
  (summary.created ++ summary.removed).map (fun file => (DirPath.ofText file).dropLast)
    ++ (summary.mismatched ++ summary.skipped).map DirPath.ofText

/-- What becomes of a directory in a run. -/
inductive Fate where
  /-- It is below a directory that the run keeps out of. -/
  | hidden
  | skipped
  | unlistable
  /-- Its marker is settled. -/
  | settled
deriving DecidableEq

/-- A directory has a fate in a run. One that is hidden is not entered and nothing is told of
it; any other is entered once, and what is told of it is this fate alone.
-/
def Fate.Of (config : Config) (faults : Faults) (tree : Node) (dir : DirPath)
    (fate : Fate) : Prop :=
  let journal := (run config faults tree).journal
  match fate with
  | .hidden =>
    journal.count (.entered dir) = 0 ∧ journal.verdict dir = []
      ∧ ∃ above below, below ≠ [] ∧ dir = above ++ below
        ∧ (above.text ∈ (journal.summary config.markerName).skipped
          ∨ ∃ error, .unlistable above error ∈ journal)
  | .skipped =>
    journal.count (.entered dir) = 1
      ∧ (∃ event, journal.verdict dir = [event] ∧ event.skipped? = some dir)
      ∧ (journal.summary config.markerName).skipped.count dir.text = 1
  | .unlistable =>
    journal.count (.entered dir) = 1
      ∧ ∃ error, journal.verdict dir = [.unlistable dir error]
        ∧ (Event.unlistable dir error).message config.markerName
          ∈ (journal.summary config.markerName).errors
  | .settled =>
    journal.count (.entered dir) = 1
      ∧ ∃ isEmpty hasMarker now,
        journal.verdict dir
          = (Marker.settle config faults (config.root.under dir) dir isEmpty hasMarker now).journal
        ∧ ∀ others has then_, Settles config faults tree dir others has then_
          ↔ others = isEmpty ∧ has = hasMarker ∧ then_ = now

/-- How fates are told apart: by how often the directory is entered, and by whether it is told to
be skipped or to be unlistable.
-/
def Fate.sign : Fate → Nat × Bool × Bool
  | .hidden => (0, false, false)
  | .skipped => (1, true, false)
  | .unlistable => (1, false, true)
  | .settled => (1, false, false)

def Event.isUnlistable : Event → Bool
  | .unlistable .. => true
  | _ => false

theorem Fate.Of.sign_eq {config : Config} {faults : Faults} {tree : Node} {dir : DirPath}
    {fate : Fate} (h : fate.Of config faults tree dir)
    : ((run config faults tree).journal.count (.entered dir),
        ((run config faults tree).journal.verdict dir).any (·.skipped?.isSome),
        ((run config faults tree).journal.verdict dir).any Event.isUnlistable) = fate.sign := by
  cases fate with
  | hidden =>
      obtain ⟨never, silent, _⟩ := h
      rw [never, silent]
      rfl
  | skipped =>
      obtain ⟨once, ⟨event, told, skipped⟩, _⟩ := h
      rw [once, told]
      cases event <;> first | rfl | cases skipped
  | unlistable =>
      obtain ⟨once, error, told, _⟩ := h
      rw [once, told]
      rfl
  | settled =>
      obtain ⟨once, isEmpty, hasMarker, now, told, _⟩ := h
      rw [once, told]
      rcases Walk.settle_journal config faults (config.root.under dir) dir isEmpty hasMarker now
        with none | ⟨event, one, about, _⟩
      · rw [none]
        rfl
      · rw [one]
        cases event <;> first | rfl | cases about

/-- A directory has at most one fate, since the signs of two fates differ. -/
theorem Fate.Of.unique {config : Config} {faults : Faults} {tree : Node} {dir : DirPath}
    {first second : Fate} (hf : first.Of config faults tree dir)
    (hs : second.Of config faults tree dir)
    : first = second := by
  have same := hf.sign_eq.symm.trans hs.sign_eq
  cases first <;> cases second <;> first | rfl | cases same

-----------------------------------------------------------------------------------------
-- What a summary names
-----------------------------------------------------------------------------------------

/-- The views of a journal that give the lists of a summary, that of the errors apart. -/
def Event.named : List (Event → Option DirPath) :=
  [Event.created?, Event.removed?, Event.mismatched?, Event.skipped?]

theorem Event.dir?_of_named {view : Event → Option DirPath} (member : view ∈ Event.named)
    {event : Event} {dir : DirPath} (seen : view event = some dir)
    : event.dir? = some dir := by
  simp only [Event.named, List.mem_cons, List.not_mem_nil, or_false] at member
  rcases member with rfl | rfl | rfl | rfl
  all_goals cases event <;> first | exact seen | cases seen

/-- No event is seen by two of the views. -/
theorem Event.named_apart
    : Event.named.Pairwise fun view other =>
        ∀ event dir, view event = some dir → other event = none := by
  simp only [Event.named, List.pairwise_cons, List.mem_cons, List.not_mem_nil, or_false,
    forall_eq_or_imp, forall_eq, false_imp_iff, implies_true, List.Pairwise.nil, and_true]
  refine ⟨⟨?_, ?_, ?_⟩, ⟨?_, ?_⟩, ?_⟩
  all_goals intro event dir seen; cases event <;> first | rfl | cases seen

namespace Journal

/-- A view of directories that are told of sees them in the order in which they are told of. -/
theorem pairwise_filterMap {relation : DirPath → DirPath → Prop} {journal : Journal}
    (ordered : (journal.filterMap Event.dir?).Pairwise relation) {view : Event → Option DirPath}
    (about : ∀ event dir, view event = some dir → event.dir? = some dir)
    : (journal.filterMap view).Pairwise relation := by
  refine List.pairwise_filterMap.mpr ((List.pairwise_filterMap.mp ordered).imp ?_)
  intro first next related dir seen other also
  exact related dir (about first dir seen) other (about next other also)

/-- Views that see no event twice see no directory twice if a journal tells of none twice. -/
theorem nodup_flatMap {journal : Journal} (nodup : (journal.filterMap Event.dir?).Nodup)
    {views : List (Event → Option DirPath)}
    (about : ∀ view ∈ views, ∀ event dir, view event = some dir → event.dir? = some dir)
    (apart : views.Pairwise fun view other =>
      ∀ event dir, view event = some dir → other event = none)
    : (views.flatMap fun view => journal.filterMap view).Nodup := by
  refine List.nodup_flatMap.mpr
    ⟨fun view member => pairwise_filterMap nodup (about view member), ?_⟩
  refine apart.imp_of_mem ?_
  intro view other viewIn otherIn differ dir seen also
  obtain ⟨first, firstIn, seen⟩ := List.mem_filterMap.mp seen
  obtain ⟨second, secondIn, also⟩ := List.mem_filterMap.mp also
  have told := about other otherIn second dir also
  have only := about_eq_singleton nodup firstIn (about view viewIn first dir seen)
  have same := List.mem_singleton.mp (only ▸ mem_about.mpr ⟨secondIn, told⟩)
  rw [same, differ first dir seen] at also
  cases also

/-- Texts of directories that an entry can be in name these directories. -/
theorem read_spelled {journal : Journal}
    (names : ∀ event ∈ journal, ∀ dir, event.dir? = some dir → ∀ name ∈ dir, IsEntryName name)
    {view : Event → Option DirPath} (member : view ∈ Event.named) {spell : DirPath → String}
    {read : String → DirPath}
    (back : ∀ dir : DirPath, (∀ name ∈ dir, IsEntryName name) → read (spell dir) = dir)
    : ((journal.filterMap view).map spell).map read = journal.filterMap view := by
  rw [List.map_map]
  refine (List.map_congr_left fun dir seen => ?_).trans (List.map_id _)
  obtain ⟨event, happened, seen⟩ := List.mem_filterMap.mp seen
  exact back dir (names event happened dir (Event.dir?_of_named member seen))

theorem summary_directories {marker : String} (named : IsEntryName marker) {journal : Journal}
    (names : ∀ event ∈ journal, ∀ dir, event.dir? = some dir → ∀ name ∈ dir, IsEntryName name)
    : (journal.summary marker).directories
      = Event.named.flatMap fun view => journal.filterMap view := by
  have file (dir : DirPath) (above : ∀ name ∈ dir, IsEntryName name)
      : (DirPath.ofText (dir.entryText marker)).dropLast = dir := by
    rw [DirPath.ofText_entryText above named, List.dropLast_concat]
  rw [Summary.directories, List.map_append, List.map_append, summary_created, summary_removed,
    read_spelled names (by simp [Event.named]) file,
    read_spelled names (by simp [Event.named]) file, summary,
    read_spelled names (by simp [Event.named]) fun dir => DirPath.ofText_text,
    read_spelled names (by simp [Event.named]) fun dir => DirPath.ofText_text]
  simp [Event.named, List.append_assoc]

end Journal

-----------------------------------------------------------------------------------------
-- Each directory has a fate
-----------------------------------------------------------------------------------------

section

variable {config : Config} {faults : Faults} {tree : Node} {location : Location}
  (rooted : Rooted config.root location tree)

include rooted

/-- No directory is skipped twice. -/
theorem skipped_nodup (marker : String)
    : ((run config faults tree).journal.summary marker).skipped.Nodup := by
  rw [run_summary]
  refine List.Nodup.of_map DirPath.ofText ?_
  have named : Event.skipped? ∈ Event.named := by simp [Event.named]
  have names : ∀ event ∈ record config faults tree, ∀ dir, event.dir? = some dir →
      ∀ name ∈ dir, IsEntryName name :=
    fun event member dir told => names_of_told rooted member told
  rw [Journal.summary, Journal.read_spelled names named fun dir => DirPath.ofText_text]
  exact Journal.pairwise_filterMap (record_nodup rooted) fun _ _ => Event.dir?_of_skipped?

variable (safe : config.IsSafe)

include safe

/-- A directory has a fate, whether or not the walk comes to it. -/
theorem exists_fate {dir : DirPath} (isDir : tree.kindAt (location ++ dir) = some .dir)
    : ∃ fate, Fate.Of config faults tree dir fate := by
  rcases Walk.comes_or_shut rooted isDir with ⟨above, below, some, rfl, shut⟩ | came
  · have never : ¬ ∃ entries now, Comes config faults (tables config faults tree) tree
        (above ++ below) entries now :=
      fun ⟨_, _, came⟩ => came.not_shut rooted some shut
    obtain ⟨silent, untold⟩ := never_entered never
    exact ⟨.hidden, silent, untold, above, below, some, rfl, shut.told rooted safe⟩
  · obtain ⟨entries, now, came⟩ := came
    have once := came.entered rooted safe
    cases kept : (skip? config ((tables config faults tree).inForce dir) (config.root.under dir)
        dir).1 with
    | true =>
        obtain ⟨event, member, skipped⟩ := came.skipped rooted safe kept
        have verdict := run_verdict_eq rooted member (Event.dir?_of_skipped? skipped)
        refine ⟨.skipped, once, ⟨event, verdict, skipped⟩, ?_⟩
        refine List.count_eq_one_of_mem (skipped_nodup rooted _) ?_
        rw [run_summary]
        exact List.mem_map_of_mem (List.mem_filterMap.mpr ⟨event, member, skipped⟩)
    | false =>
        cases listed : faults.list now (config.root.under dir) with
        | error error =>
            have happened := (Fails.listing came kept listed).told safe rooted
            have member := ((mem_run rfl).mp happened).resolve_left fun reading => by
              cases Loading.load_reading config faults tree config.root _ reading
            exact ⟨.unlistable, once, error, run_verdict_eq rooted member rfl,
              List.mem_filterMap.mpr ⟨_, happened, rfl⟩⟩
        | ok listing =>
            obtain ⟨isEmpty, hasMarker, then_, settles⟩ := came.settles rooted safe kept listed
            refine ⟨.settled, once, isEmpty, hasMarker, then_, settles.verdict rooted safe, ?_⟩
            refine fun others has last => ⟨fun again => settles.unique rooted again, ?_⟩
            rintro ⟨rfl, rfl, rfl⟩
            exact settles

end

-----------------------------------------------------------------------------------------
-- Whole runs
-----------------------------------------------------------------------------------------

section

variable {config : Config} {faults : Faults} {tree : Node} {location : Location}
  (marker : IsEntryName config.markerName) (rooted : Rooted config.root location tree)

include marker rooted

theorem run_directories
    : ((run config faults tree).journal.summary config.markerName).directories
      = Event.named.flatMap fun view => (record config faults tree).filterMap view := by
  rw [← Journal.summary_directories marker fun event member dir told =>
    names_of_told rooted member told, run_summary]
  rfl

/-- A directory that a summary names is told of in the walk. -/
theorem told_of_mem_directories {dir : DirPath}
    (member : dir ∈ ((run config faults tree).journal.summary config.markerName).directories)
    : ∃ event ∈ record config faults tree, event.dir? = some dir := by
  rw [run_directories marker rooted] at member
  obtain ⟨view, named, seen⟩ := List.mem_flatMap.mp member
  obtain ⟨event, happened, seen⟩ := List.mem_filterMap.mp seen
  exact ⟨event, happened, Event.dir?_of_named named seen⟩

end

/-- Every directory has exactly one fate in a run, whatever calls do and wherever links lead. No
directory is named twice in the summary, each that is named is one of the tree, none of them is
below one that was skipped; and with a known mode the run ends, and each directory of the tree has
one of four fates and no other.
-/
theorem run_partitions {config : Config} {tree : Node} {location : Location}
    (marker : IsEntryName config.markerName) (rooted : Rooted config.root location tree)
    (faults : Faults)
    : ((run config faults tree).journal.summary config.markerName).directories.Nodup
      ∧ (∀ dir ∈ ((run config faults tree).journal.summary config.markerName).directories,
        tree.kindAt (location ++ dir) = some .dir)
      ∧ (∀ above below : DirPath, below ≠ []
        → above.text ∈ ((run config faults tree).journal.summary config.markerName).skipped
        → above ++ below
          ∉ ((run config faults tree).journal.summary config.markerName).directories)
      ∧ (config.HasKnownMode
        → (∃ isEmpty, (run config faults tree).answer = .ok isEmpty)
          ∧ ∀ dir, tree.kindAt (location ++ dir) = some .dir
            → ∃! fate, Fate.Of config faults tree dir fate) := by
  refine ⟨?_, fun dir named => ?_, fun above below some skipped named => ?_, fun known => ?_⟩
  · rw [run_directories marker rooted]
    exact Journal.nodup_flatMap (record_nodup rooted)
      (fun view member _ _ seen => Event.dir?_of_named member seen) Event.named_apart
  · obtain ⟨event, member, told⟩ := told_of_mem_directories marker rooted named
    exact kindAt_of_told rooted member told
  · obtain ⟨event, member, told⟩ := told_of_mem_directories marker rooted named
    rw [run_summary] at skipped
    obtain ⟨dir, also, same⟩ := List.mem_map.mp skipped
    obtain ⟨other, happened, kept⟩ := List.mem_filterMap.mp also
    have names := names_of_told rooted member told
    -- The texts are the same, so the directories are.
    obtain rfl : dir = above := by
      refine DirPath.text_inj ?_ (fun name inside => names name ?_) same
      · exact names_of_told rooted happened (Event.dir?_of_skipped? kept)
      · exact List.mem_append_left below inside
    obtain ⟨_, skips⟩ := mem_record happened
    obtain ⟨entries, now, came, shut⟩ := skips.skipped kept
    obtain ⟨_, tells⟩ := mem_record member
    obtain ⟨_, _, _, deeper⟩ := tells.comes told
    exact deeper.not_shut rooted some ⟨entries, now, came, .inl shut⟩
  · have safe : config.IsSafe := ⟨known, marker⟩
    have wellFormed := rooted.wellFormed.at rooted.get?_dirAt
    have nulFree := rooted.leads.noNul rooted.wellFormed
    refine ⟨?_, fun dir isDir => ?_⟩
    · exact Walk.visit_completes safe faults (tables config faults tree) wellFormed nulFree .root
        tree
    · obtain ⟨fate, of⟩ := exists_fate rooted safe isDir
      exact ⟨fate, of, fun other also => also.unique of⟩

/-- One directory to be excluded with another one below it, one that cannot be listed, one that is
empty, and a link that leads back up.
-/
def mixedTree : Node :=
  .dir [("p", .dir [
    ("bare", .dir []),
    ("cold", .dir [("deep", .dir [])]),
    ("loop", .link ".."),
    ("shut", .dir [])
  ])]

def mixedConfig : Config where
  root := ⟨.slash, ["p"]⟩
  excludeDirs := ["cold"]

/-- One directory may not be listed. -/
def Faults.shut : Faults :=
  fun call path => if call = .list ∧ path.name = "shut" then some .accessDenied else Option.none

/-- All four fates at once: `cold` is skipped and `cold/deep` is hidden, `shut` is unlistable,
and the markers of `bare` and of the root are settled.
-/
theorem run_partitions_mixed
    : ((run mixedConfig .shut mixedTree).journal.summary ".gitkeep").directories
        = [["bare"], [], ["cold"]]
      ∧ ([["bare"], [], ["cold"]] : List DirPath).Nodup
      ∧ (∃ isEmpty, (run mixedConfig .shut mixedTree).answer = .ok isEmpty)
      ∧ ∀ dir ∈ ([[], ["bare"], ["cold"], ["cold", "deep"], ["shut"]] : List DirPath),
        ∃! fate, Fate.Of mixedConfig .shut mixedTree dir fate := by
  have rooted : Rooted mixedConfig.root ["p"] mixedTree := .of_stat (by decide) rfl
  have marker : IsEntryName mixedConfig.markerName := by decide
  have named : ((run mixedConfig .shut mixedTree).journal.summary ".gitkeep").directories
      = [["bare"], [], ["cold"]] := by decide
  obtain ⟨nodup, _, _, whole⟩ := run_partitions marker rooted .shut
  obtain ⟨ends, each⟩ := whole (.of_normal rfl)
  refine ⟨named, named ▸ nodup, ends, fun dir member => ?_⟩
  simp only [List.mem_cons, List.not_mem_nil, or_false] at member
  rcases member with rfl | rfl | rfl | rfl | rfl
  all_goals exact each _ rfl

end DirMarkers
