import DirMarkers.Proofs.Run.Notable
import DirMarkers.Proofs.Run.Reading

/-!
What a journal tells of one directory. While ignore files are read, a visited directory is told of
once, by what happens when its own files are read, and no other directory is told of.
-/

namespace DirMarkers

/-- The directory that a notable event is about. -/
def Event.dir? : Event → Option DirPath
  | .unreadable dir .. | .excluded dir | .ignored dir | .unlistable dir _ => some dir
  | event => event.marker?

theorem Event.isNotable_eq (event : Event) : event.isNotable = event.dir?.isSome := by
  cases event <;> rfl

theorem Event.dir?_of_marker? {event : Event} {dir : DirPath} (about : event.marker? = some dir)
    : event.dir? = some dir := by
  cases event <;> first | exact about | cases about

theorem Event.dir?_of_skipped? {event : Event} {dir : DirPath} (skipped : event.skipped? = some dir)
    : event.dir? = some dir := by
  cases event <;> first | exact skipped | cases skipped

namespace Journal

/-- What a journal tells of one directory. -/
def about (dir : DirPath) (journal : Journal) : Journal :=
  journal.filter fun event => event.dir? = some dir

@[simp] theorem about_nil (dir : DirPath) : about dir [] = [] := rfl

@[simp] theorem about_append (dir : DirPath) (first next : Journal)
    : about dir (first ++ next) = about dir first ++ about dir next :=
  List.filter_append first next

theorem mem_about {dir : DirPath} {journal : Journal} {event : Event}
    : event ∈ about dir journal ↔ event ∈ journal ∧ event.dir? = some dir := by
  rw [about, List.mem_filter, decide_eq_true_iff]

/-- What is told of a directory is notable. -/
theorem about_notable (dir : DirPath) (journal : Journal)
    : journal.notable.about dir = journal.about dir := by
  rw [about, notable, List.filter_filter]
  refine List.filter_congr fun event _ => ?_
  rw [Event.isNotable_eq]
  cases event.dir? with
  | none => rfl
  | some other => simp

/-- A journal whose events are all about another directory tells nothing of this one. -/
theorem about_eq_nil {dir : DirPath} {journal : Journal}
    (elsewhere : ∀ event ∈ journal, event.dir? ≠ some dir)
    : journal.about dir = [] := by
  refine List.filter_eq_nil_iff.mpr fun event member told => ?_
  exact elsewhere event member (of_decide_eq_true told)

/-- If a journal tells of no directory twice, what it tells of one is a single event. -/
theorem about_eq_singleton {journal : Journal} (nodup : (journal.filterMap Event.dir?).Nodup)
    {dir : DirPath} {event : Event} (member : event ∈ journal) (told : event.dir? = some dir)
    : journal.about dir = [event] := by
  obtain ⟨before, after, rfl⟩ := List.append_of_mem member
  simp only [List.filterMap_append, List.filterMap_cons, told] at nodup
  obtain ⟨_, rest, apart⟩ := List.nodup_append.mp nodup
  have earlier : about dir before = [] := by
    refine about_eq_nil fun other here again => ?_
    exact apart dir (List.mem_filterMap.mpr ⟨other, here, again⟩) dir List.mem_cons_self rfl
  have later : about dir after = [] := by
    refine about_eq_nil fun other here again => ?_
    exact (List.nodup_cons.mp rest).1 (List.mem_filterMap.mpr ⟨other, here, again⟩)
  have own : about dir [event] = [event] := List.filter_eq_self.mpr fun other only => by
    rw [List.mem_singleton.mp only]
    exact decide_eq_true told
  rw [List.append_cons, about_append, about_append, earlier, later, own]
  rfl

end Journal

namespace Loading

@[simp] theorem journal_append (first next : Loaded)
    : (first ++ next).journal = first.journal ++ next.journal :=
  rfl

/-- Reading an ignore file tells of its own directory only. -/
theorem readRules_elsewhere (faults : Faults) (top : Node) (path : PathName) {dir other : DirPath}
    (apart : other ≠ dir) (source : Ignore.Source)
    : ∀ event ∈ (readRules faults top path dir source).2, event.dir? ≠ some other := by
  intro event member
  have own : event.dir? = some dir ∨ event.dir? = none := by
    simp only [readRules] at member
    split at member
    · split at member
      · cases member
      · rw [List.mem_singleton.mp member]
        exact .inl rfl
    · split at member
      · rw [List.mem_singleton.mp member]
        exact .inl rfl
      · cases member
      · rw [List.mem_singleton.mp member]
        exact .inr rfl
  rcases own with here | nowhere
  · rw [here]
    exact fun same => apart (Option.some.inj same).symm
  · rw [nowhere]
    exact (Option.some_ne_none other).symm

section

variable (config : Config) (faults : Faults) (tree : Node)

/-- What is told of a directory when its ignore files are read. -/
def told (dir : DirPath) : Journal :=
  (loadFiles config faults tree (config.root.under dir) dir).journal.about dir

end

section

variable {config : Config} {faults : Faults} {tree : Node} {dir other : DirPath}

theorem loadFiles_elsewhere (apart : other ≠ dir)
    : (loadFiles config faults tree (config.root.under dir) dir).journal.about other = [] := by
  refine Journal.about_eq_nil fun event member => ?_
  rw [loadFiles] at member
  rcases List.mem_append.mp member with content | marker
  · exact readRules_elsewhere faults tree _ apart .content event content
  · split at marker
    · exact readRules_elsewhere faults tree _ apart .marker event marker
    · cases marker

/-- Entries of one directory that lead to the same place have the same name. -/
theorem eq_of_child_prefix {first second : String} (hf : dir.child first <+: other)
    (hs : dir.child second <+: other)
    : first = second := by
  have same : dir.child first = dir.child second :=
    (List.prefix_of_prefix_length_le hf hs (by simp [DirPath.child])).eq_of_length
      (by simp [DirPath.child])
  exact (List.append_singleton_inj.mp same).2

open Classical in
/-- Some entries tell of a directory what the one that leads to it does, since no two entries lead
to the same place.
-/
theorem loadEntries_about {entries : List (String × Node)}
    (increasing : entries.Pairwise (·.1 < ·.1))
    (each : ∀ entry ∈ entries, config.excludes entry.1 = false
      → (loadDir config faults tree entry.2 (config.root.under (dir.child entry.1))
          (dir.child entry.1)).journal.about other
        = if dir.child entry.1 <+: other ∧ Visits config faults tree other then
            told config faults tree other
          else [])
    : (loadEntries config faults tree entries (config.root.under dir) dir).journal.about other
      = if (∃ entry ∈ entries, dir.child entry.1 <+: other) ∧ Visits config faults tree other then
          told config faults tree other
        else [] := by
  induction entries with
  | nil => simp [loadEntries, Loaded.nothing]
  | cons entry rest ih =>
      obtain ⟨larger, tail⟩ := List.pairwise_cons.mp increasing
      have later := ih tail fun entry member => each entry (List.mem_cons_of_mem _ member)
      have first := each entry List.mem_cons_self
      rw [loadEntries, journal_append, Journal.about_append, PathName.child_under, later]
      by_cases leads : dir.child entry.1 <+: other ∧ Visits config faults tree other
      · obtain ⟨below, visited⟩ := leads
        obtain ⟨under, rfl⟩ := below
        have kept := (visits_child_iff.mp visited.above).2.1
        -- A later entry has a larger name, so it leads elsewhere.
        have alone : ¬ ∃ later ∈ rest, dir.child later.1 <+: dir.child entry.1 ++ under := by
          intro h
          obtain ⟨later, member, also⟩ := h
          have same := eq_of_child_prefix also (List.prefix_append _ _)
          exact String.lt_irrefl entry.1 (same ▸ larger later member)
        rw [kept, if_neg Bool.false_ne_true, first kept, if_pos ⟨List.prefix_append _ _, visited⟩,
          if_neg fun h => alone h.1, List.append_nil,
          if_pos ⟨⟨entry, List.mem_cons_self, List.prefix_append _ _⟩, visited⟩]
      · have silent : (if config.excludes entry.1 = true then Loaded.nothing
            else loadDir config faults tree entry.2 (config.root.under (dir.child entry.1))
              (dir.child entry.1)).journal.about other = [] := by
          split
          · rfl
          · next kept => rw [first (Bool.not_eq_true _ ▸ kept), if_neg leads]
        rw [silent, List.nil_append]
        refine if_congr ?_ rfl rfl
        refine and_congr_left fun visited => ?_
        rw [List.exists_mem_cons_iff, or_iff_right fun below => leads ⟨below, visited⟩]

/-- Nothing is visited at or below what is no directory. -/
theorem Stands.not_visits_below {node : Node} (h : Stands config faults tree node dir)
    (noDir : node.kind ≠ .dir)
    : ¬ (dir <+: other ∧ Visits config faults tree other) := by
  intro visits
  obtain ⟨⟨below, rfl⟩, visited⟩ := visits
  exact noDir (h.visited.mp visited.above)

/-- A directory that is visited further down is at or below one of the entries that are listed. -/
theorem exists_entry_of_visits (visits : Visits config faults tree other) (leads : dir <+: other)
    (apart : other ≠ dir)
    : ∃ listing, faults.list tree (config.root.under dir) = .ok listing
      ∧ ∃ entry ∈ listing, dir.child entry.1 <+: other := by
  obtain ⟨under, rfl⟩ := leads
  cases under with
  | nil => exact absurd (List.append_nil dir) apart
  | cons name rest =>
      rw [List.append_cons] at visits ⊢
      obtain ⟨_, _, listing, inside, listed, isDir⟩ := visits_child_iff.mp visits.above
      exact ⟨listing, listed, _, Entries.mem_of_find? isDir, List.prefix_append _ _⟩

theorem not_child_prefix (dir : DirPath) (name : String) : ¬ dir.child name <+: dir := by
  intro longer
  have shorter := longer.length_le
  rw [DirPath.child, List.length_append, List.length_singleton] at shorter
  omega

open Classical in
/-- Reading a directory and all below it tells of each visited directory there what its own files
give. Witness: induction on the tree; the subdirectories that are visited are among the entries.
-/
theorem loadDir_about (wellFormed : tree.WellFormed) (node : Node) {dir : DirPath}
    (stands : Stands config faults tree node dir) (other : DirPath)
    : (loadDir config faults tree node (config.root.under dir) dir).journal.about other
      = if dir <+: other ∧ Visits config faults tree other then told config faults tree other
        else [] := by
  induction node using Node.induction generalizing dir with
  | file _ =>
      rw [if_neg (stands.not_visits_below nofun)]
      rfl
  | link _ =>
      rw [if_neg (stands.not_visits_below nofun)]
      rfl
  | dir entries ih =>
      have visited : Visits config faults tree dir := stands.visited.mpr rfl
      rw [loadDir]
      cases listed : faults.list tree (config.root.under dir) with
      | error error =>
          have last : Journal.about other [.notDescended dir error] = [] := rfl
          rw [journal_append, Journal.about_append, last, List.append_nil]
          by_cases here : other = dir
          · subst here
            rw [if_pos ⟨List.prefix_refl _, visited⟩]
            rfl
          · rw [loadFiles_elsewhere here, if_neg]
            intro h
            obtain ⟨_, found, _⟩ := exists_entry_of_visits h.2 h.1 here
            cases listed.symm.trans found
      | ok listing =>
          obtain rfl : entries = listing := Node.dir.inj (stands.entries rfl listed)
          have orderly := orderly_of_listed wellFormed listed
          have children := loadEntries_about orderly.increasing
            fun entry member kept => ih entry member (stands.child wellFormed listed member kept)
          rw [journal_append, Journal.about_append, children]
          by_cases here : other = dir
          · subst here
            have outside : ¬ ∃ entry ∈ entries, other.child entry.1 <+: other :=
              fun h => not_child_prefix other _ h.choose_spec.2
            rw [if_neg fun h => outside h.1, List.append_nil, if_pos ⟨List.prefix_refl _, visited⟩]
            rfl
          · rw [loadFiles_elsewhere here, List.nil_append]
            refine if_congr (and_congr_left fun visits => ⟨fun h => ?_, fun leads => ?_⟩) rfl rfl
            · obtain ⟨entry, _, longer⟩ := h
              exact (List.prefix_append _ _).trans longer
            · obtain ⟨listing, again, inside⟩ := exists_entry_of_visits visits leads here
              obtain rfl := Except.ok.inj (listed.symm.trans again)
              exact inside

open Classical in
/-- While ignore files are read, a directory is told of if it is visited. -/
theorem load_about (wellFormed : tree.WellFormed) (other : DirPath)
    : (load config faults tree config.root).journal.about other
      = if Visits config faults tree other then told config faults tree other else [] := by
  have stands : Stands config faults tree (dirAt tree config.root) .root := .root wellFormed
  have start := loadDir_about wellFormed _ stands other
  rw [PathName.under_root] at start
  rw [load, journal_append, Journal.about_append, start]
  simp [DirPath.root, Journal.about, Event.dir?, Event.marker?]

end

end Loading

end DirMarkers
