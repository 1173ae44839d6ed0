import DirMarkers.Proofs.Run.Course
import DirMarkers.Proofs.Run.Reading
import DirMarkers.Proofs.Walk.Direct

/-!
Reading and walking go together. Every directory in which a walk asks for rules was visited when
ignore files were read, so a walk depends on the rules of visited directories only.
-/

namespace DirMarkers

open Loading (Visits Stands)

namespace Walk

/-- A walk asks for the rules of a directory that it enters, unless the directory is excluded. -/
structure Asks (config : Config) (journal : Journal) (dir : DirPath) : Prop where
  entered : .entered dir ∈ journal
  kept : dir = .root ∨ config.excludes (dir.getLast?.getD "") = false

/-- A step does the same for two tables. It leaves a tree without new directories and links, and it
asks for rules in visited directories only.
-/
structure Coheres (config : Config) (faults : Faults) (start : Node) {α : Type}
    (step other : Step α)
    : Prop where
  same : other = step
  within : step.tree.Within start
  asked : ∀ {dir}, Asks config step.journal dir → Visits config faults start dir

/-- No directory is entered in a journal. -/
def EntersNone (journal : Journal) : Prop :=
  ∀ dir, .entered dir ∉ journal

theorem EntersNone.append {first next : Journal} (hf : EntersNone first) (hn : EntersNone next)
    : EntersNone (first ++ next) := by
  intro dir member
  rcases List.mem_append.mp member with before | after
  · exact hf dir before
  · exact hn dir after

namespace Coheres

variable {config : Config} {faults : Faults} {start : Node} {α β : Type} {step other : Step α}

/-- A step that enters no directory only has to leave no new directories and links. -/
theorem still (within : step.tree.Within start) (silent : EntersNone step.journal)
    : Coheres config faults start step step where
  same := rfl
  within := within
  asked := fun asks => absurd asks.entered (silent _)

theorem map (h : Coheres config faults start step other) (f : α → β)
    : Coheres config faults start (step.map f) (other.map f) where
  same := congrArg (Step.map f) h.same
  within := h.within
  asked := h.asked

theorem after (h : Coheres config faults start step other) {before : Journal}
    (asked : ∀ {dir}, Asks config before dir → Visits config faults start dir)
    : Coheres config faults start (step.after before) (other.after before) where
  same := congrArg (Step.after before) h.same
  within := h.within
  asked := by
    intro dir asks
    rcases List.mem_append.mp asks.entered with first | later
    · exact asked ⟨first, asks.kept⟩
    · exact h.asked ⟨later, asks.kept⟩

/-- A step that follows another one may rely on the tree that the first one leaves. -/
theorem bind (h : Coheres config faults start step other) {next others : α → Node → Step β}
    (more : ∀ answer, Coheres config faults start (next answer step.tree) (others answer step.tree))
    : Coheres config faults start (step.bind next) (other.bind others) := by
  rw [h.same, Step.bind, Step.bind]
  cases step.answer with
  | error crash => exact ⟨rfl, h.within, h.asked⟩
  | ok answer =>
      refine ⟨?_, (more answer).within, ?_⟩
      · simp only [(more answer).same]
      · intro dir asks
        rcases List.mem_append.mp asks.entered with first | later
        · exact h.asked ⟨first, asks.kept⟩
        · exact (more answer).asked ⟨later, asks.kept⟩

end Coheres

-----------------------------------------------------------------------------------------
-- Steps that enter no directory
-----------------------------------------------------------------------------------------

theorem matchEvents_entersNone (rules : List Rule) (path : String) (isDir : Bool)
    : EntersNone (matchEvents rules path isDir) := by
  intro dir member
  obtain ⟨rule, _, same⟩ := List.mem_map.mp member
  cases same

theorem fileEvents_entersNone (config : Config) (rules : List Rule) (dir : DirPath) (name : String)
    : EntersNone (fileEvents config rules dir name) := by
  simp only [fileEvents]
  split
  · simp [EntersNone]
  · split
    · refine (matchEvents_entersNone _ _ _).append ?_
      simp [EntersNone]
    · exact matchEvents_entersNone _ _ _

theorem skip?_entersNone (config : Config) (rules : List Rule) (path : PathName) (dir : DirPath)
    : EntersNone (skip? config rules path dir).2 := by
  rw [skip?]
  split
  · simp [EntersNone]
  · split
    · refine (matchEvents_entersNone _ _ _).append ?_
      simp [EntersNone]
    · exact matchEvents_entersNone _ _ _

section

variable {config : Config} {faults : Faults} {start tree : Node}

/-- Settling a marker makes no directory and no link. -/
theorem settle_within (within : tree.Within start) (path : PathName) (dir : DirPath)
    (isEmpty hasMarker : Bool)
    : (Marker.settle config faults path dir isEmpty hasMarker tree).tree.Within start := by
  rw [Marker.settle]
  cases Marker.duty config.mode isEmpty hasMarker with
  | error crash => exact within
  | ok duty =>
      cases duty with
      | leave => exact within
      | reportMissing => exact within
      | reportSpare => exact within
      | create =>
          simp only [Marker.perform, Marker.create]
          split
          · exact within
          · split
            · exact within
            · next written => exact (Faults.within_write written).trans within
            · exact within
      | remove =>
          simp only [Marker.perform, Marker.remove]
          split
          · exact within
          · split
            · exact within
            · next removed => exact (Faults.within_remove removed).trans within
            · exact within

theorem settle_entersNone (path : PathName) (dir : DirPath) (isEmpty hasMarker : Bool)
    : EntersNone (Marker.settle config faults path dir isEmpty hasMarker tree).journal := by
  intro other member
  cases marker?_settle member

/-- A directory is judged without entering any. -/
theorem conclude_entersNone (rules : List Rule) (path : PathName) (dir : DirPath)
    (files : List String) (allEmpty : Bool) (tree : Node)
    : EntersNone (conclude config faults rules path dir files allEmpty tree).journal := by
  refine EntersNone.append ?_ (settle_entersNone path dir _ _)
  intro other member
  obtain ⟨name, _, inside⟩ := List.mem_flatMap.mp member
  exact fileEvents_entersNone config rules dir name other inside

theorem conclude_coheres (within : tree.Within start) (rules : List Rule) (path : PathName)
    (dir : DirPath) (files : List String) (allEmpty : Bool)
    : Coheres config faults start (conclude config faults rules path dir files allEmpty tree)
        (conclude config faults rules path dir files allEmpty tree) :=
  .still (settle_within within path dir _ _)
    (conclude_entersNone rules path dir files allEmpty tree)

-----------------------------------------------------------------------------------------
-- Visits
-----------------------------------------------------------------------------------------

/-- A listing coheres if what follows it does. What is listed by then was listed at the start. -/
theorem descend_coheres (within : tree.Within start) {dir : DirPath}
    {next others : Entries → Step Bool}
    (more : ∀ {first listing}, faults.list start (config.root.under dir) = .ok first
      → Coheres config faults start (next listing) (others listing))
    : Coheres config faults start (descend faults (config.root.under dir) dir tree next)
        (descend faults (config.root.under dir) dir tree others) := by
  cases safe : faults.crash? .list (config.root.under dir) with
  | some crash =>
      simp only [descend, safe]
      exact .still within (by simp [EntersNone])
  | none =>
      cases listed : faults.list tree (config.root.under dir) with
      | error error =>
          simp only [descend, safe, listed]
          exact .still within (by simp [EntersNone, Step.after, Step.pure])
      | ok listing =>
          obtain ⟨first, original⟩ := within.list listed
          simp only [descend, safe, listed]
          exact more original

variable {rulesOf others : DirPath → List Rule}

section

variable (config faults start rulesOf others)

/-- Visits to a node cohere, whatever files and links are gone by then. -/
def VisitsCohere (node : Node) (dir : DirPath) : Prop :=
  ∀ {tree : Node}, tree.Within start
    → Coheres config faults start
        (visitBy config faults rulesOf node (config.root.under dir) dir tree)
        (visitBy config faults others node (config.root.under dir) dir tree)

end

/-- Visits to subdirectories cohere if each of them does, by induction on the entries. -/
theorem visitAll_coheres {entries : List (String × Node)} {dir : DirPath}
    (each : ∀ entry ∈ entries,
      VisitsCohere config faults start rulesOf others entry.2 (dir.child entry.1))
    (within : tree.Within start)
    : Coheres config faults start
        (visitAllBy config faults rulesOf entries (config.root.under dir) dir tree)
        (visitAllBy config faults others entries (config.root.under dir) dir tree) := by
  induction entries generalizing tree with
  | nil => exact .still within (by simp [EntersNone, visitAllBy, Step.pure])
  | cons entry rest ih =>
      have first := each entry List.mem_cons_self within
      rw [visitAllBy, visitAllBy, PathName.child_under]
      refine first.bind fun isEmpty => .map ?_ _
      exact ih (fun other member => each other (List.mem_cons_of_mem _ member)) first.within

/-- No rule matters in an excluded directory. -/
theorem visit_excluded_coheres {entries : Entries} {dir : DirPath}
    (excluded : dir ≠ .root ∧ config.excludes (dir.getLast?.getD ""))
    : VisitsCohere config faults start rulesOf others (.dir entries) dir := by
  intro tree within
  have decided (rules : List Rule)
      : skip? config rules (config.root.under dir) dir = (true, [.excluded dir]) := by
    rw [skip?_under, if_pos excluded]
  rw [visitBy_skipped (decided _), visitBy_skipped (decided _)]
  refine .after (.still within (by simp [EntersNone, Step.pure])) ?_
  intro other asks
  have same : other = dir := by simpa using asks.entered
  rcases asks.kept with root | kept
  · exact absurd (same ▸ root) excluded.1
  · cases kept.symm.trans (same ▸ excluded.2)

/-- A visit to a directory that is not excluded asks for its rules. -/
theorem visit_kept_coheres {entries : Entries} {dir : DirPath}
    (visited : Visits config faults start dir) (agree : others dir = rulesOf dir)
    (each : ∀ {listing}, faults.list start (config.root.under dir) = .ok listing
      → ∀ entry ∈ entries,
        VisitsCohere config faults start rulesOf others entry.2 (dir.child entry.1))
    : VisitsCohere config faults start rulesOf others (.dir entries) dir := by
  intro tree within
  have silent := skip?_entersNone config (rulesOf dir) (config.root.under dir) dir
  rcases decided : skip? config (rulesOf dir) (config.root.under dir) dir
    with ⟨skipped, before⟩
  have alike := agree ▸ decided
  rw [decided] at silent
  have asked : ∀ {other}, Asks config (.entered dir :: before) other
      → Visits config faults start other := by
    intro other asks
    rcases List.mem_cons.mp asks.entered with same | later
    · cases same
      exact visited
    · exact absurd later (silent other)
  cases skipped with
  | true =>
      rw [visitBy_skipped decided, visitBy_skipped alike]
      exact .after (.still within (by simp [EntersNone, Step.pure])) asked
  | false =>
      rw [visitBy_kept decided, visitBy_kept alike, agree]
      refine (descend_coheres within fun original => ?_).after asked
      have below := visitAll_coheres (each original) within
      exact below.bind fun allEmpty => conclude_coheres below.within _ _ _ _ _

/-- A visit coheres for rules that agree in the visited directories. Witness: induction on the
node, which stands for its directory unless that is excluded.
-/
theorem visit_coheres (wellFormed : start.WellFormed)
    (agree : ∀ {dir}, Visits config faults start dir → others dir = rulesOf dir)
    (node : Node) {dir : DirPath}
    (stands : dir = .root ∨ config.excludes (dir.getLast?.getD "") = false
      → Stands config faults start node dir)
    : VisitsCohere config faults start rulesOf others node dir := by
  induction node using Node.induction generalizing dir with
  | file _ => exact fun within => .still within (by simp [EntersNone, visitBy, Step.pure])
  | link _ => exact fun within => .still within (by simp [EntersNone, visitBy, Step.pure])
  | dir entries ih =>
      by_cases excluded : dir ≠ .root ∧ config.excludes (dir.getLast?.getD "")
      · exact visit_excluded_coheres excluded
      · have kept : dir = .root ∨ config.excludes (dir.getLast?.getD "") = false := by
          simpa [Classical.or_iff_not_imp_left] using excluded
        have here := stands kept
        have visited := here.visited.mpr rfl
        refine visit_kept_coheres visited (agree visited) fun listed entry member => ?_
        refine ih entry member fun named => here.child wellFormed listed member ?_
        simpa [DirPath.child, DirPath.root] using named

end

end Walk

-----------------------------------------------------------------------------------------
-- A whole run
-----------------------------------------------------------------------------------------

section

variable {config : Config} {faults : Faults} {tree : Node}

/-- The walk of a run coheres with the walk that judges each directory by the ignore files from the
root down to it.
-/
theorem walk_coheres (wellFormed : tree.WellFormed)
    : Walk.Coheres config faults tree
        (Walk.walk config faults (tables config faults tree) config.root .root tree)
        (Walk.walkBy config faults (Loading.chain config faults tree) config.root .root tree) := by
  have same {dir : DirPath} (visited : Visits config faults tree dir)
      : Loading.chain config faults tree dir = (tables config faults tree).inForce dir :=
    (Loading.inForce_eq_chain wellFormed visited).symm
  have walked := Walk.visit_coheres wellFormed same (Loading.dirAt tree config.root)
    (fun _ => .root wellFormed) (.refl tree)
  rw [PathName.under_root] at walked
  rw [Walk.walk_eq_walkBy]
  exact walked

/-- What a run reads is what its walk goes by. A table has an entry for a directory if and only if
the directory is visited and its ignore file holds rules, which are the entry. A walk asks for rules
in a directory only if that directory and all above it were visited, and the rules in force there
are those of the ignore files from the root down to it. So the walk of a run is the one that judges
every directory and its files by just these rules.
-/
theorem run_coherent (wellFormed : tree.WellFormed)
    : (∀ source key rules,
        ((tables config faults tree).tableFor source).lookup key = some rules
          ↔ rules ≠ []
            ∧ ∃ dir text, key = dir.text ∧ Visits config faults tree dir
              ∧ Loading.ignoreText? config faults tree source dir = some text
              ∧ rules = Ignore.parseLines dir.text (Text.lines text))
      ∧ (∀ dir,
        Walk.Asks config
          (Walk.walk config faults (tables config faults tree) config.root .root tree).journal dir
          → (∀ above ∈ dir.ancestors, Visits config faults tree above)
            ∧ (tables config faults tree).inForce dir = Loading.chain config faults tree dir)
      ∧ Walk.walk config faults (tables config faults tree) config.root .root tree
        = Walk.walkBy config faults (Loading.chain config faults tree) config.root .root tree := by
  refine ⟨?_, ?_, (walk_coheres wellFormed).same.symm⟩
  · intro source key rules
    rw [tables, Loading.lookup_eq_some_iff wellFormed]
    constructor
    · intro h
      obtain ⟨dir, visited, isEntry⟩ := h
      obtain ⟨nonempty, text, name, found, same⟩ := Loading.isEntry_iff.mp isEntry
      exact ⟨nonempty, dir, text, name, visited, found, same⟩
    · intro h
      obtain ⟨nonempty, dir, text, name, visited, found, same⟩ := h
      exact ⟨dir, visited, Loading.isEntry_iff.mpr ⟨nonempty, text, name, found, same⟩⟩
  · intro dir asks
    have visited := (walk_coheres wellFormed).asked asks
    refine ⟨?_, Loading.inForce_eq_chain wellFormed visited⟩
    intro above member
    obtain ⟨below, rfl⟩ := DirPath.mem_ancestors.mp member
    exact visited.above

/-- A project with an ignore file at its root, and one for markers in a directory. -/
def ruledTree : Node :=
  .dir [("p", .dir [
    (".gitignore", .file "*.log\n".toUTF8),
    ("logs", .dir [(".gitkeepignore", .file "!last.log\n".toUTF8)])
  ])]

/-- In `logs`, the rule of the root is in force, and then the one of its own ignore file. -/
theorem run_coherent_ruled
    : ((tables smallConfig .none ruledTree).tableFor .marker).lookup "logs"
        = some (Ignore.parseLines "logs" ["!last.log"])
      ∧ (tables smallConfig .none ruledTree).inForce ["logs"]
        = Ignore.parseLines "." ["*.log"] ++ Ignore.parseLines "logs" ["!last.log"] := by
  have wellFormed : ruledTree.WellFormed := by decide
  obtain ⟨entries, chains, _⟩ := @run_coherent smallConfig .none ruledTree wellFormed
  constructor
  · refine (entries .marker _ _).mpr ⟨by decide +kernel, ["logs"], "!last.log\n", ?_⟩
    refine ⟨rfl, ?_, by decide +kernel, by decide +kernel⟩
    exact Loading.visits_child_iff.mpr ⟨.root, rfl, _, _, rfl, rfl⟩
  · have asks : Walk.Asks smallConfig (Walk.walk smallConfig .none
        (tables smallConfig .none ruledTree) smallConfig.root .root ruledTree).journal ["logs"] :=
      ⟨by decide +kernel, .inr rfl⟩
    rw [(chains ["logs"] asks).2]
    decide +kernel

end

end DirMarkers
