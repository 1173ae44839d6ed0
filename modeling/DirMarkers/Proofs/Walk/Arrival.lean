import DirMarkers.Proofs.Run.Coherence
import DirMarkers.Proofs.Walk.Passage
import DirMarkers.Proofs.Walk.Reach

/-!
Where a walk arrives, told without the walk: in the root, and in every subdirectory of a directory
that is reached. These are the stops of the survey and the directories that are entered.
-/

namespace DirMarkers.Walk

section

variable (config : Config) (faults : Faults) (tables : Ignore.Tables) (location : Location)
  (tree : Node)

/-- A walk arrives in the root, and in the subdirectories of each reached directory. -/
inductive Arrives : DirPath → Prop
  | root : Arrives .root
  | child {dir : DirPath} {name : String}
    (above : Reached config faults tables location tree dir)
    (isDir : tree.kindAt (location ++ dir.child name) = some .dir)
    : Arrives (dir.child name)

/-- What a walk finds a directory with some entries to be. -/
def findingAt (dir : DirPath) (entries : Entries) : Finding :=
  (barrier? config faults tables dir).getD
    (.judged (isVacant config faults tables (.dir entries) dir))

/-- A walk stops where it arrives, with what it finds the directory to be. -/
def IsStop (stop : Stop) : Prop :=
  Arrives config faults tables location tree stop.dir
    ∧ ∃ entries, tree.get? (location ++ stop.dir) = some (.dir entries)
      ∧ stop.finding = findingAt config faults tables stop.dir entries

end

variable {config : Config} {faults : Faults} {tables : Ignore.Tables} {location : Location}

section

variable {tree : Node} {dir : DirPath}

/-- A walk arrives in what is reached. -/
theorem Reached.arrives (h : Reached config faults tables location tree dir)
    : Arrives config faults tables location tree dir := by
  cases h with
  | root _ => exact .root
  | child above isDir _ _ => exact .child above isDir

/-- A walk arrives in each subdirectory of what is reached. -/
theorem Reached.arrives_child {name : String} {node : Node}
    (h : Reached config faults tables location tree dir)
    (there : tree.get? (location ++ dir.child name) = some node) (isDir : node.kind = .dir)
    : Arrives config faults tables location tree (dir.child name) := by
  refine .child h ?_
  rw [Node.kindAt, there, ← isDir]
  rfl

namespace Arrives

/-- A walk arrives in directories of the tree. -/
theorem isDir (h : Arrives config faults tables location tree dir)
    (project : Project config location tree)
    : tree.kindAt (location ++ dir) = some .dir := by
  cases h with
  | root => simpa [DirPath.root] using project.rooted.leads.ends
  | child _ isDir => exact isDir

/-- Where a walk arrives, it reaches what it is not kept from. -/
theorem reached (h : Arrives config faults tables location tree dir)
    (project : Project config location tree)
    (unbarred : barrier? config faults tables dir = none)
    : Reached config faults tables location tree dir := by
  cases h with
  | root => exact .root_of_unbarred project unbarred
  | child above isDir =>
      obtain ⟨entries, there⟩ := Node.kindAt_eq_dir.mp isDir
      exact above.of_unbarred project there rfl unbarred

/-- Every directory above the one where a walk arrives is reached. -/
theorem above {name : String} {rest : List String}
    (h : Arrives config faults tables location tree (dir ++ name :: rest))
    : Reached config faults tables location tree dir := by
  generalize whole : dir ++ name :: rest = place at h
  cases h with
  | root => cases List.append_ne_nil_of_right_ne_nil dir (by simp) whole
  | @child parent last above _ =>
      rcases List.eq_nil_or_concat (name :: rest) with none | ⟨init, other, split⟩
      · cases none
      · rw [split, List.concat_eq_append, ← List.append_assoc] at whole
        obtain ⟨rfl, _⟩ := List.append_singleton_inj.mp whole
        exact above.above

end Arrives

/-- What a directory is found to be says which stop it is. -/
theorem IsStop.eq {entries : Entries} {stop : Stop}
    (h : IsStop config faults tables location tree stop) (placed : stop.dir = dir)
    (there : tree.get? (location ++ dir) = some (.dir entries))
    : stop = ⟨dir, findingAt config faults tables dir entries⟩ := by
  obtain ⟨place, finding⟩ := stop
  obtain ⟨_, others, found, judged⟩ := h
  obtain rfl : place = dir := placed
  obtain rfl := Node.dir.inj (Option.some.inj (found.symm.trans there))
  exact congrArg (Stop.mk place) judged

end

-----------------------------------------------------------------------------------------
-- The stops of a survey
-----------------------------------------------------------------------------------------

section

variable {tree : Node} (project : Project config location tree)

include project

/-- Below a directory, a walk arrives at or below its entries only. -/
theorem Arrives.exists_entry {dir other : DirPath} {entries : Entries}
    (h : Arrives config faults tables location tree other)
    (there : tree.get? (location ++ dir) = some (.dir entries)) (leads : dir <+: other)
    (apart : other ≠ dir)
    : Reached config faults tables location tree dir
      ∧ ∃ entry ∈ entries, dir.child entry.1 <+: other := by
  obtain ⟨below, rfl⟩ := leads
  cases below with
  | nil => exact absurd (List.append_nil dir) apart
  | cons name rest =>
      have isDir := h.isDir project
      rw [← List.append_assoc, Node.kindAt_append there, Node.kindAt_cons] at isDir
      obtain ⟨child, found, _⟩ := Option.bind_eq_some_iff.mp isDir
      refine ⟨h.above, _, Entries.mem_of_find? found, ?_⟩
      rw [List.append_cons]
      exact List.prefix_append _ _

/-- There is no stop at or below a node that is no directory. -/
theorem not_isStop_below {node : Node} {dir : DirPath}
    (there : tree.get? (location ++ dir) = some node) (noDir : node.kind ≠ .dir) (stop : Stop)
    : ¬ (dir <+: stop.dir ∧ IsStop config faults tables location tree stop) := by
  intro stops
  obtain ⟨⟨below, placed⟩, arrives, _⟩ := stops
  have isDir := arrives.isDir project
  rw [← placed, ← List.append_assoc] at isDir
  have here := Node.dir_of_dir_below isDir
  rw [Node.kindAt, there] at here
  exact noDir (Option.some.inj here)

/-- The stops of a survey are those of the walk at or below the directory. Witness: induction on the
tree; a walk arrives nowhere below a directory that it is kept from.
-/
theorem mem_survey (node : Node) {dir : DirPath} (there : tree.get? (location ++ dir) = some node)
    (arrives : node.kind = .dir → Arrives config faults tables location tree dir) {stop : Stop}
    : stop ∈ survey config faults tables node dir
      ↔ dir <+: stop.dir ∧ IsStop config faults tables location tree stop := by
  induction node using Node.induction generalizing dir with
  | file _ =>
      exact iff_of_false (List.not_mem_nil) (not_isStop_below project there nofun stop)
  | link _ =>
      exact iff_of_false (List.not_mem_nil) (not_isStop_below project there nofun stop)
  | dir entries ih =>
      have here : IsStop config faults tables location tree
          ⟨dir, findingAt config faults tables dir entries⟩ :=
        ⟨arrives rfl, entries, there, rfl⟩
      rw [survey_dir]
      cases barred : barrier? config faults tables dir with
      | some finding =>
          have same : findingAt config faults tables dir entries = finding := by
            rw [findingAt, barred]
            rfl
          rw [← same, List.mem_singleton]
          constructor
          · rintro rfl
            exact ⟨List.prefix_refl _, here⟩
          · intro h
            obtain ⟨leads, isStop⟩ := h
            by_cases placed : stop.dir = dir
            · exact isStop.eq placed there
            · obtain ⟨reached, _⟩ := isStop.1.exists_entry project there leads placed
              cases (reached.unbarred project).symm.trans barred
      | none =>
          have same : findingAt config faults tables dir entries
              = .judged (isVacant config faults tables (.dir entries) dir) := by
            rw [findingAt, barred]
            rfl
          have reached := (arrives rfl).reached project barred
          have below (entry : String × Node) (member : entry ∈ entries)
              : stop ∈ survey config faults tables entry.2 (dir.child entry.1)
                ↔ dir.child entry.1 <+: stop.dir
                  ∧ IsStop config faults tables location tree stop := by
            have child := project.get?_child there member
            exact ih entry member child (reached.arrives_child child)
          rw [← same, List.mem_append, List.mem_flatMap, List.mem_singleton]
          constructor
          · rintro (⟨entry, member, inside⟩ | rfl)
            · obtain ⟨leads, isStop⟩ := (below entry member).mp inside
              exact ⟨(List.prefix_append dir [entry.1]).trans leads, isStop⟩
            · exact ⟨List.prefix_refl _, here⟩
          · intro h
            obtain ⟨leads, isStop⟩ := h
            by_cases placed : stop.dir = dir
            · exact .inr (isStop.eq placed there)
            · obtain ⟨_, entry, member, leads⟩ := isStop.1.exists_entry project there leads placed
              exact .inl ⟨entry, member, (below entry member).mpr ⟨leads, isStop⟩⟩

end

-----------------------------------------------------------------------------------------
-- Entered directories
-----------------------------------------------------------------------------------------

section

variable {tree start : Node} {dir other : DirPath}

/-- A step that enters no directory does not add to what is entered before it. -/
theorem entered_bind {α β : Type} {first : Step α} {next : α → Node → Step β}
    (silent : ∀ answer tree, EntersNone (next answer tree).journal)
    : .entered other ∈ (first.bind next).journal ↔ .entered other ∈ first.journal := by
  rw [Step.bind]
  cases first.answer with
  | error crash => rfl
  | ok answer =>
      rw [List.mem_append]
      exact or_iff_left (silent answer first.tree other)

/-- A visit enters its own directory, and what visits to the subdirectories enter if the directory
is judged.
-/
theorem entered_visit (project : Project config location tree) {entries : Entries}
    (there : tree.get? (location ++ dir) = some (.dir entries))
    : .entered other
        ∈ (visit config faults tables (.dir entries) (config.root.under dir) dir tree).journal
      ↔ other = dir
        ∨ barrier? config faults tables dir = none
          ∧ .entered other
            ∈ (visitAll config faults tables entries (config.root.under dir) dir tree).journal := by
  have isDir := Node.kindAt_eq_dir.mpr ⟨_, there⟩
  have silent := skip?_entersNone config (tables.inForce dir) (config.root.under dir) dir other
  have own (rest : Journal) (before : Journal) (silent : .entered other ∉ before)
      : .entered other ∈ .entered dir :: before ++ rest ↔ other = dir ∨ .entered other ∈ rest := by
    simp [silent]
  rw [unbarred_iff, visit]
  cases skips : skip? config (tables.inForce dir) (config.root.under dir) dir with
  | mk skipped before =>
      rw [skips] at silent
      simp only [Step.after, own _ before silent, project.crash?_dir isDir faults .list,
        project.rooted.list_eq there]
      refine or_congr_right ?_
      cases skipped with
      | true => simp [Step.pure]
      | false =>
          cases faults.refusal? .list (config.root.under dir) with
          | some error => simp [Step.pure]
          | none =>
              refine (entered_bind fun _ _ => conclude_entersNone _ _ _ _ _ _).trans ?_
              simp

end

section

variable (config : Config) (faults : Faults) (tables : Ignore.Tables) (location : Location)
  (start : Node)

/-- A visit to a node of the tree at the start enters the directories where the survey of the node
stops, wherever the running tree still has that node.
-/
def Enters (node : Node) : Prop :=
  ∀ {dir : DirPath} {tree : Node}, Project config location tree
    → tree.get? (location ++ dir) = some node → start.get? (location ++ dir) = some node
    → ∀ other,
      .entered other ∈ (visit config faults tables node (config.root.under dir) dir tree).journal
        ↔ other ∈ (survey config faults tables node dir).map Stop.dir

end

section

variable {start : Node} (known : config.HasKnownMode) (begun : Project config location start)

include known begun

/-- Visits to subdirectories enter what each of them enters. Witness: induction on the entries,
since what a visit changes leaves the later ones as they were.
-/
theorem visitAll_enters {entries : List (String × Node)} {dir : DirPath} {tree : Node}
    (increasing : entries.Pairwise (·.1 < ·.1))
    (each : ∀ entry ∈ entries, Enters config faults tables location start entry.2)
    (project : Project config location tree)
    (there : ∀ entry ∈ entries, tree.get? (location ++ dir.child entry.1) = some entry.2)
    (original : ∀ entry ∈ entries, start.get? (location ++ dir.child entry.1) = some entry.2)
    (other : DirPath)
    : .entered other
        ∈ (visitAll config faults tables entries (config.root.under dir) dir tree).journal
      ↔ other ∈ (surveyAll config faults tables entries dir).map Stop.dir := by
  induction entries generalizing tree with
  | nil => simp [visitAll, surveyAll, Step.pure]
  | cons entry rest ih =>
      obtain ⟨name, node⟩ := entry
      obtain ⟨larger, tail⟩ := List.pairwise_cons.mp increasing
      have here := there _ List.mem_cons_self
      have hereFirst := original _ List.mem_cons_self
      have first := visit_follows faults tables known begun node project here hereFirst
      have later := later_of_tracks project here first larger
        fun other member => there other (List.mem_cons_of_mem _ member)
      have entered := ih tail (fun other member => each other (List.mem_cons_of_mem _ member))
        (project.alike first.wellFormed first.alike) later
        fun other member => original other (List.mem_cons_of_mem _ member)
      rw [visitAll, PathName.child_under, Step.bind_of_answer first.answer, surveyAll,
        List.map_append, List.mem_append, ← entered,
        ← each _ List.mem_cons_self project here hereFirst]
      exact List.mem_append

/-- A visit enters the directories where the survey stops, by induction on the node. -/
theorem visit_enters (faults : Faults) (tables : Ignore.Tables) (node : Node)
    : Enters config faults tables location start node := by
  induction node using Node.induction with
  | file _ => exact fun _ _ _ _ => iff_of_false List.not_mem_nil List.not_mem_nil
  | link _ => exact fun _ _ _ _ => iff_of_false List.not_mem_nil List.not_mem_nil
  | dir entries ih =>
      intro dir tree project there original other
      have below := visitAll_enters known begun (project.wellFormed.orderly there).increasing ih
        project (fun _ => project.get?_child there) (fun _ => begun.get?_child original) other
      rw [entered_visit project there, below, survey]
      cases barrier? config faults tables dir with
      | some finding => simp
      | none => simp [or_comm]

end

-----------------------------------------------------------------------------------------
-- Answers
-----------------------------------------------------------------------------------------

section

variable (config : Config) (faults : Faults) (tables : Ignore.Tables) (start : Node)

/-- A walk that starts with one tree comes to a directory, and there it answers whether that is
empty.
-/
def Answers (dir : DirPath) (isEmpty : Bool) : Prop :=
  ∃ entries now, Comes config faults tables start dir entries now
    ∧ (visit config faults tables (.dir entries) (config.root.under dir) dir now).answer
      = .ok isEmpty

end

/-- A walk comes to the root. -/
theorem Comes.exists_root (config : Config) (faults : Faults) (tables : Ignore.Tables)
    (start : Node)
    : ∃ entries now, Comes config faults tables start .root entries now := by
  obtain ⟨entries, top⟩ := dirAt_eq_dir start config.root
  exact ⟨entries, start, .root top⟩

section

variable {start now : Node} {dir : DirPath} {entries : Entries} (known : config.HasKnownMode)
  (begun : Project config location start)

include known begun

/-- Where a walk comes to, it arrives, and the directory is still as it was at the start. Witness:
induction on the way there; what was visited before is in other directories.
-/
theorem Comes.found (came : Comes config faults tables start dir entries now)
    : Project config location now ∧ now.get? (location ++ dir) = some (.dir entries)
      ∧ start.get? (location ++ dir) = some (.dir entries)
      ∧ Arrives config faults tables location start dir := by
  induction came with
  | root isDir =>
      have there := begun.dirAt_root
      rw [isDir] at there
      exact ⟨begun, there, there, .root⟩
  | @child dir entries listing before after below name now above kept listed turn ih =>
      obtain ⟨project, there, original, arrives⟩ := ih
      subst turn
      have member : (name, Node.dir below) ∈ before ++ (name, Node.dir below) :: after := by simp
      have here := begun.get?_child original member
      have increasing := (project.wellFormed.orderly there).increasing
      obtain ⟨earlier, _, smaller⟩ := List.pairwise_append.mp increasing
      have tracks := visitAll_tracks earlier
        (fun entry _ => visit_follows faults tables known begun entry.2) project
        (fun _ inside => project.get?_child there (List.mem_append_left _ inside))
        (fun _ inside => begun.get?_child original (List.mem_append_left _ inside))
      refine ⟨project.alike tracks.wellFormed tracks.alike, ?_, here, ?_⟩
      · rw [get?_child_of_tracks project tracks, project.get?_child there member]
        intro stop stopped
        rw [surveyAll_eq] at stopped
        obtain ⟨entry, inside, stopped⟩ := List.mem_flatMap.mp stopped
        have wellFormed := project.wellFormed.at
          (project.get?_child there (List.mem_append_left _ inside))
        obtain ⟨under, placed, _⟩ := survey_below wellFormed stopped
        refine ⟨entry.1, placed ▸ List.prefix_append _ _, ?_⟩
        have less := smaller entry inside _ List.mem_cons_self
        rintro rfl
        exact String.lt_irrefl _ less
      · have allowed : faults.refusal? .list (config.root.under dir) = none := by
          rw [project.rooted.list_eq there] at listed
          cases refused : faults.refusal? .list (config.root.under dir) with
          | none => rfl
          | some error =>
              rw [refused] at listed
              cases listed
        have reached := arrives.reached begun (unbarred_iff.mpr ⟨kept, allowed⟩)
        exact .child reached (Node.kindAt_eq_dir.mpr ⟨_, here⟩)

/-- From a directory that it judges, a walk comes to each subdirectory. -/
theorem Comes.exists_child (came : Comes config faults tables start dir entries now)
    (unbarred : barrier? config faults tables dir = none) {name : String}
    (isDir : start.kindAt (location ++ dir.child name) = some .dir)
    : ∃ below later, Comes config faults tables start (dir.child name) below later := by
  obtain ⟨project, there, original, _⟩ := came.found known begun
  obtain ⟨kept, allowed⟩ := unbarred_iff.mp unbarred
  have listed := project.rooted.list_eq there faults
  rw [allowed] at listed
  obtain ⟨below, found⟩ := Node.kindAt_eq_dir.mp isDir
  rw [DirPath.child, ← List.append_assoc, Node.get?_entry original] at found
  obtain ⟨before, after, turn⟩ := List.append_of_mem (Entries.mem_of_find? found)
  exact ⟨below, _, came.child kept listed turn⟩

/-- A walk comes to what is reached, by induction on the directories that lead there. -/
theorem Reached.comes (h : Reached config faults tables location start dir)
    : ∃ entries now, Comes config faults tables start dir entries now := by
  induction h with
  | root _ => exact Comes.exists_root config faults tables start
  | child above isDir _ _ ih =>
      obtain ⟨entries, now, came⟩ := ih
      exact came.exists_child known begun (above.unbarred begun) isDir

/-- A walk comes to every directory where it arrives. -/
theorem Arrives.comes (h : Arrives config faults tables location start dir)
    : ∃ entries now, Comes config faults tables start dir entries now := by
  cases h with
  | root => exact Comes.exists_root config faults tables start
  | child above isDir =>
      obtain ⟨entries, now, came⟩ := above.comes known begun
      exact came.exists_child known begun (above.unbarred begun) isDir

/-- A walk answers where it arrives, and says whether the directory was vacant at the start. -/
theorem answers_iff {isEmpty : Bool}
    : Answers config faults tables start dir isEmpty
      ↔ Arrives config faults tables location start dir
        ∧ ∃ entries, start.get? (location ++ dir) = some (.dir entries)
          ∧ isVacant config faults tables (.dir entries) dir = isEmpty := by
  have answer {entries : Entries} {now : Node}
      (came : Comes config faults tables start dir entries now)
      : (visit config faults tables (.dir entries) (config.root.under dir) dir now).answer
        = .ok (isVacant config faults tables (.dir entries) dir) := by
    obtain ⟨project, there, original, _⟩ := came.found known begun
    exact (visit_follows faults tables known begun _ project there original).answer
  constructor
  · intro h
    obtain ⟨entries, now, came, ended⟩ := h
    obtain ⟨_, _, original, arrives⟩ := came.found known begun
    exact ⟨arrives, entries, original, Except.ok.inj ((answer came).symm.trans ended)⟩
  · intro h
    obtain ⟨arrives, entries, original, rfl⟩ := h
    obtain ⟨others, now, came⟩ := arrives.comes known begun
    obtain ⟨_, _, again, _⟩ := came.found known begun
    obtain rfl := Node.dir.inj (Option.some.inj (again.symm.trans original))
    exact ⟨_, now, came, answer came⟩

theorem answers_iff_of_arrives (arrives : Arrives config faults tables location start dir)
    (there : start.get? (location ++ dir) = some (.dir entries)) {isEmpty : Bool}
    : Answers config faults tables start dir isEmpty
      ↔ isVacant config faults tables (.dir entries) dir = isEmpty := by
  rw [answers_iff known begun, and_iff_right arrives]
  constructor
  · intro h
    obtain ⟨others, again, vacant⟩ := h
    obtain rfl := Node.dir.inj (Option.some.inj (again.symm.trans there))
    exact vacant
  · exact fun vacant => ⟨entries, there, vacant⟩

end

end DirMarkers.Walk
