import DirMarkers.Ignore.Lines
import DirMarkers.Ignore.Memo
import DirMarkers.Proofs.Ignore.Chain
import DirMarkers.Proofs.Ignore.Tightening
import Mathlib.Data.List.Basic

/-!
Which rule has the last word. Of the directories from the root down to the one that is asked about,
the deepest one with a rule that speaks about the path decides; within it the marker rules come
before the content rules, and among those of one kind the last.
-/

namespace DirMarkers.Ignore

-----------------------------------------------------------------------------------------
-- Lists of rules
-----------------------------------------------------------------------------------------

/-- No rule of a list speaks about a path. -/
def Silent (rules : List Rule) (path : String) (isDir : Bool) : Prop :=
  ∀ rule ∈ rules, rule.applies path isDir = false

/-- A rule is the last one of a list that speaks about a path. -/
def IsLast (rules : List Rule) (path : String) (isDir : Bool) (rule : Rule) : Prop :=
  ∃ before after, rules = before ++ rule :: after ∧ rule.applies path isDir = true
    ∧ Silent after path isDir

section

variable {rules more : List Rule} {path : String} {isDir : Bool}

theorem decisive?_eq_none_iff : decisive? rules path isDir = none ↔ Silent rules path isDir := by
  simp only [decisive?, applying, List.getLast?_eq_none_iff, List.filter_eq_nil_iff,
    Bool.not_eq_true, Silent]

theorem decisive?_append (rules more : List Rule) (path : String) (isDir : Bool)
    : decisive? (rules ++ more) path isDir
      = (decisive? more path isDir).or (decisive? rules path isDir) := by
  rw [decisive?, applying, List.filter_append, List.getLast?_append]
  rfl

/-- The decisive rule of a list is the last one that speaks about the path. -/
theorem decisive?_eq_some_iff {rule : Rule}
    : decisive? rules path isDir = some rule ↔ IsLast rules path isDir rule := by
  constructor
  · intro decides
    obtain ⟨front, speaking⟩ := List.getLast?_eq_some_iff.mp decides
    obtain ⟨_, rest, rfl, _, last⟩ := List.filter_eq_append_iff.mp speaking
    obtain ⟨between, after, rfl, _, applies, none⟩ := List.filter_eq_cons_iff.mp last
    refine ⟨_, after, (List.append_assoc ..).symm, applies, decisive?_eq_none_iff.mp ?_⟩
    rw [decisive?, applying, none, List.getLast?_nil]
  · rintro ⟨before, after, rfl, applies, silent⟩
    rw [decisive?_append, decisive?_cons, decisive?_eq_none_iff.mpr silent, if_pos applies]
    rfl

/-- Of lists one after another, the last one that is not silent decides. -/
theorem decisive?_flatMap {α : Type} (items : List α) (rules : α → List Rule) (path : String)
    (isDir : Bool)
    : decisive? (items.flatMap rules) path isDir
      = items.reverse.findSome? fun item => decisive? (rules item) path isDir := by
  induction items with
  | nil => rfl
  | cons item rest ih =>
      rw [List.flatMap_cons, decisive?_append, ih, List.reverse_cons, List.findSome?_append]
      simp

end

-----------------------------------------------------------------------------------------
-- Directories
-----------------------------------------------------------------------------------------

/-- A rule of a directory decides about a path in another one: the directory is the deepest on the
way down to that one with a rule that speaks about the path, and the rule is the last one of its
marker rules that does, or of its content rules if none of the marker rules does.
-/
structure Decides (tables : Tables) (dir path : String) (isDir : Bool) (above : String)
    (rule : Rule) : Prop where
  encloses : DirPath.Encloses above dir
  deepest
    : ∀ other, DirPath.Encloses other dir → DirPath.Encloses above other → other ≠ above
        → Silent (tables.content.rulesAt other) path isDir
          ∧ Silent (tables.marker.rulesAt other) path isDir
  last
    : IsLast (tables.marker.rulesAt above) path isDir rule
      ∨ Silent (tables.marker.rulesAt above) path isDir
        ∧ IsLast (tables.content.rulesAt above) path isDir rule

section

variable {tables : Tables} {dir path : String} {isDir : Bool}

theorem silent_level_iff {above : String}
    : decisive? (tables.level above) path isDir = none
      ↔ Silent (tables.content.rulesAt above) path isDir
        ∧ Silent (tables.marker.rulesAt above) path isDir := by
  rw [decisive?_eq_none_iff]
  exact List.forall_mem_append

theorem decisive?_level_iff {above : String} {rule : Rule}
    : decisive? (tables.level above) path isDir = some rule
      ↔ IsLast (tables.marker.rulesAt above) path isDir rule
        ∨ Silent (tables.marker.rulesAt above) path isDir
          ∧ IsLast (tables.content.rulesAt above) path isDir rule := by
  rw [Tables.level, decisive?_append, Option.or_eq_some_iff, decisive?_eq_some_iff,
    decisive?_eq_none_iff, decisive?_eq_some_iff]

theorem Decides.decisive {above : String} {rule : Rule}
    (h : Decides tables dir path isDir above rule)
    : decisive? (tables.level above) path isDir = some rule :=
  decisive?_level_iff.mpr h.last

/-- A single directory and a single rule decide about a path. Witness: of two directories on the way
down, the upper one is only the deepest that speaks about the path if the lower one is silent.
-/
theorem Decides.unique {above other : String} {rule otherRule : Rule}
    (h : Decides tables dir path isDir above rule)
    (also : Decides tables dir path isDir other otherRule)
    : above = other ∧ rule = otherRule := by
  by_cases same : above = other
  · subst same
    exact ⟨rfl, Option.some.inj (h.decisive.symm.trans also.decisive)⟩
  rcases h.encloses.total also.encloses with lower | upper
  · have silent := silent_level_iff.mpr (h.deepest other also.encloses lower (Ne.symm same))
    cases silent.symm.trans also.decisive
  · have silent := silent_level_iff.mpr (also.deepest above h.encloses upper same)
    cases silent.symm.trans h.decisive

/-- The directory and the rule that decide about a path. -/
def decider? (tables : Tables) (dir path : String) (isDir : Bool) : Option (String × Rule) :=
  (DirPath.chain dir).reverse.findSome? fun above =>
    (decisive? (tables.level above) path isDir).map fun rule => (above, rule)

theorem decider?_eq_none_iff
    : decider? tables dir path isDir = none
      ↔ ∀ above, DirPath.Encloses above dir
        → Silent (tables.content.rulesAt above) path isDir
          ∧ Silent (tables.marker.rulesAt above) path isDir := by
  simp only [decider?, List.findSome?_eq_none_iff, Option.map_eq_none_iff, List.mem_reverse,
    DirPath.mem_chain_iff, silent_level_iff]

/-- What is found first, from the bottom up, decides: of the directories on the way down, each one
that the found one is above comes after it, and was passed over.
-/
theorem decides_of_decider? {above : String} {rule : Rule}
    (found : decider? tables dir path isDir = some (above, rule))
    : Decides tables dir path isDir above rule := by
  obtain ⟨deeper, first, upper, cut, here, passed⟩ := List.findSome?_eq_some_iff.mp found
  obtain ⟨decisive, speaks, pair⟩ := Option.map_eq_some_iff.mp here
  obtain ⟨same, rfl⟩ := Prod.mk.inj pair
  subst same
  have chain : DirPath.chain dir = upper.reverse ++ first :: deeper.reverse := by
    rw [← List.reverse_reverse (DirPath.chain dir), cut]
    simp
  refine ⟨DirPath.mem_chain_iff.mp (by simp [chain]), ?_, decisive?_level_iff.mp speaks⟩
  intro other encloses lower different
  have ordered := DirPath.chain_ordered dir
  have member := DirPath.mem_chain_iff.mpr encloses
  rw [chain] at ordered member
  rcases List.mem_append.mp member with earlier | later
  · have higher := (List.pairwise_append.mp ordered).2.2 other earlier first List.mem_cons_self
    exact absurd (higher.antisymm lower) different
  · have behind := (List.mem_cons.mp later).resolve_left different
    have silent := passed other (List.mem_reverse.mp behind)
    exact silent_level_iff.mp (Option.map_eq_none_iff.mp silent)

theorem decider?_eq_some_iff {above : String} {rule : Rule}
    : decider? tables dir path isDir = some (above, rule)
      ↔ Decides tables dir path isDir above rule := by
  refine ⟨decides_of_decider?, fun decides => ?_⟩
  cases found : decider? tables dir path isDir with
  | none =>
      have silent := silent_level_iff.mpr (decider?_eq_none_iff.mp found above decides.encloses)
      cases silent.symm.trans decides.decisive
  | some other =>
      obtain ⟨rfl, rfl⟩ := (decides_of_decider? found).unique decides
      rfl

theorem decisive?_chain (tables : Tables) (dir path : String) (isDir : Bool)
    : decisive? ((DirPath.chain dir).flatMap tables.level) path isDir
      = (decider? tables dir path isDir).map Prod.snd := by
  rw [decisive?_flatMap, decider?, List.map_findSome?]
  simp [Function.comp_def]

end

/-- Whether a path is ignored, by the rules that a memory answers with before it is asked for
anything else.
-/
def Tables.ignores (tables : Tables) (dir path : String) (isDir : Bool) : Bool :=
  isIgnored ((Memo.ofTables tables).ask (DirPath.ofText dir)).1 path isDir

theorem Tables.ignores_eq_isIgnored (tables : Tables) (dir path : String) (isDir : Bool)
    : tables.ignores dir path isDir
      = isIgnored ((DirPath.chain dir).flatMap tables.level) path isDir := by
  rw [ignores, Memo.ask_fst, ← tables.inForce_eq]
  rfl

theorem Tables.ignores_eq (tables : Tables) (dir path : String) (isDir : Bool)
    : tables.ignores dir path isDir = (decider? tables dir path isDir).any (!·.2.negated) := by
  rw [tables.ignores_eq_isIgnored, isIgnored, decisive?_chain]
  cases decider? tables dir path isDir <;> rfl

/-- The rule that decides about a path, if there is one, is the last that speaks about it in the
deepest directory with such a rule, of the marker rules before the content rules. The path is
ignored if that rule is there and is not negated. What other directories contribute does not matter.
-/
theorem Tables.ignores_of_deepest (tables : Tables) (dir path : String) (isDir : Bool)
    : (∃ decider : Option (String × Rule),
        (∀ above rule, decider = some (above, rule)
          ↔ Decides tables dir path isDir above rule)
        ∧ (decider = none
          ↔ ∀ above, DirPath.Encloses above dir
            → Silent (tables.content.rulesAt above) path isDir
              ∧ Silent (tables.marker.rulesAt above) path isDir)
        ∧ tables.ignores dir path isDir = decider.any (!·.2.negated))
      ∧ ∀ other : Tables,
        (∀ above, DirPath.Encloses above dir
          → other.content.rulesAt above = tables.content.rulesAt above
            ∧ other.marker.rulesAt above = tables.marker.rulesAt above)
        → other.ignores dir path isDir = tables.ignores dir path isDir := by
  refine ⟨⟨decider? tables dir path isDir, fun _ _ => decider?_eq_some_iff,
    decider?_eq_none_iff, tables.ignores_eq dir path isDir⟩, ?_⟩
  intro other same
  have levels : (DirPath.chain dir).flatMap other.level
      = (DirPath.chain dir).flatMap tables.level := by
    refine List.flatMap_congr fun above member => ?_
    obtain ⟨content, marker⟩ := same above (DirPath.mem_chain_iff.mp member)
    rw [level, level, content, marker]
  rw [other.ignores_eq_isIgnored, levels, tables.ignores_eq_isIgnored]

/-- Tables in which a directory takes back, in its marker rules, what its content rules and the root
say about a file.
-/
def Tables.layered : Tables where
  content := [(".", parseLines "." ["*.log"]), ("a", parseLines "a" ["x.log"]),
    ("a/b", parseLines "a/b" ["y.log"])]
  marker := [("a", parseLines "a" ["y.log", "!x.log", "/x.log"])]

/-- The last marker rule of the middle directory that speaks about the file decides, whatever a
directory says whose name begins in the same way.
-/
theorem Tables.ignores_of_deepest_layered
    : ∃ rule, Decides layered "a/b" "a/b/x.log" false "a" rule
      ∧ rule.source = "!x.log"
      ∧ layered.ignores "a/b" "a/b/x.log" false = !rule.negated
      ∧ (layered.set .marker "ab" (parseLines "ab" ["x.log"])).ignores "a/b" "a/b/x.log" false
        = layered.ignores "a/b" "a/b/x.log" false := by
  obtain ⟨⟨decider, decides, -, verdict⟩, others⟩ :=
    layered.ignores_of_deepest "a/b" "a/b/x.log" false
  have speaks : (decider? layered "a/b" "a/b/x.log" false).map (fun d => (d.1, d.2.source))
      = some ("a", "!x.log") := by
    decide +kernel
  obtain ⟨⟨above, rule⟩, found, pair⟩ := Option.map_eq_some_iff.mp speaks
  obtain ⟨rfl, source⟩ := Prod.mk.inj pair
  have last := decider?_eq_some_iff.mp found
  refine ⟨rule, last, source, ?_, others _ fun above encloses => ?_⟩
  · rw [verdict, (decides _ _).mpr last]
    rfl
  · have member := DirPath.mem_chain_iff.mpr encloses
    have chain : DirPath.chain "a/b" = [".", "a", "a/b"] := by decide +kernel
    rw [chain] at member
    have each : ∀ above ∈ [".", "a", "a/b"],
        (layered.set .marker "ab" (parseLines "ab" ["x.log"])).content.rulesAt above
            = layered.content.rulesAt above
          ∧ (layered.set .marker "ab" (parseLines "ab" ["x.log"])).marker.rulesAt above
            = layered.marker.rulesAt above := by
      decide +kernel
    exact each above member

end DirMarkers.Ignore
