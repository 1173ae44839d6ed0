import DirMarkers.Ignore.Lines
import DirMarkers.Ignore.Verdict

/-!
Rules that are added to others. The last rule that speaks about a path decides, so a rule that is
not negated, added anywhere, can turn the verdict on a path to ignoring it and never away from that.
-/

namespace DirMarkers.Ignore

/-- A list of rules tightens another one: it has the same rules in the same order, and among them
some more, none of which is negated.
-/
inductive Tightens : List Rule → List Rule → Prop
  | nil : Tightens [] []
  | keep {rules more : List Rule} (rule : Rule) (rest : Tightens rules more)
    : Tightens (rule :: rules) (rule :: more)
  | add {rules more : List Rule} {rule : Rule} (positive : rule.negated = false)
    (rest : Tightens rules more)
    : Tightens rules (rule :: more)

namespace Tightens

theorem refl (rules : List Rule) : Tightens rules rules := by
  induction rules with
  | nil => exact .nil
  | cons rule _ ih => exact .keep rule ih

theorem append {rules more next others : List Rule} (hf : Tightens rules more)
    (hn : Tightens next others)
    : Tightens (rules ++ next) (more ++ others) := by
  induction hf with
  | nil => exact hn
  | keep rule _ ih => exact .keep rule ih
  | add positive _ ih => exact .add positive ih

/-- What is put together from lists of rules is tightened by what is put together from tighter ones.
-/
theorem flatMap {α : Type} {items : List α} {rules more : α → List Rule}
    (each : ∀ item ∈ items, Tightens (rules item) (more item))
    : Tightens (items.flatMap rules) (items.flatMap more) := by
  induction items with
  | nil => exact .nil
  | cons item rest ih =>
      obtain ⟨first, others⟩ := List.forall_mem_cons.mp each
      exact first.append (ih others)

end Tightens

-----------------------------------------------------------------------------------------
-- Verdicts
-----------------------------------------------------------------------------------------

/-- A rule decides about a path if it speaks about it and no later one does. -/
theorem decisive?_cons (rule : Rule) (rules : List Rule) (path : String) (isDir : Bool)
    : decisive? (rule :: rules) path isDir
      = (decisive? rules path isDir).or (if rule.applies path isDir then some rule else none) := by
  rw [decisive?, applying, List.filter_cons]
  split
  · rw [List.getLast?_cons, decisive?, applying]
    cases (List.filter (·.applies path isDir) rules).getLast? <;> rfl
  · exact (Option.or_none).symm

/-- Among tighter rules the same rule decides about a path, or one that is not negated. -/
theorem Tightens.decisive? {rules more : List Rule} (h : Tightens rules more) (path : String)
    (isDir : Bool)
    : Ignore.decisive? more path isDir = Ignore.decisive? rules path isDir
      ∨ ∃ rule, Ignore.decisive? more path isDir = some rule ∧ rule.negated = false := by
  induction h with
  | nil => exact .inl rfl
  | keep rule _ ih =>
      rw [decisive?_cons, decisive?_cons]
      rcases ih with same | ⟨decides, found, positive⟩
      · exact .inl (by rw [same])
      · exact .inr ⟨decides, by rw [found]; rfl, positive⟩
  | @add rules more rule positive _ ih =>
      rw [decisive?_cons]
      rcases ih with same | ⟨decides, found, positive⟩
      · rw [same]
        cases Ignore.decisive? rules path isDir with
        | some decides => exact .inl rfl
        | none =>
            by_cases applies : rule.applies path isDir
            · exact .inr ⟨rule, by simp [applies], positive⟩
            · exact .inl (by simp [applies])
      · exact .inr ⟨decides, by rw [found]; rfl, positive⟩

/-- What some rules ignore, tighter rules ignore as well. -/
theorem Tightens.isIgnored {rules more : List Rule} (h : Tightens rules more) {path : String}
    {isDir : Bool} (ignored : Ignore.isIgnored rules path isDir = true)
    : Ignore.isIgnored more path isDir = true := by
  rw [Ignore.isIgnored] at ignored ⊢
  rcases h.decisive? path isDir with same | ⟨rule, found, positive⟩
  · rw [same]
    exact ignored
  · rw [found]
    simp [positive]

-----------------------------------------------------------------------------------------
-- Lines
-----------------------------------------------------------------------------------------

/-- Whether a line negates does not depend on the directory whose ignore file it is in. -/
theorem negated_of_parseLine {line baseDir other : String} {rule : Rule}
    (parsed : parseLine baseDir line = some rule)
    : ∃ again, parseLine other line = some again ∧ again.negated = rule.negated := by
  simp only [parseLine, Rule.compile] at parsed ⊢
  split at parsed
  · cases parsed
  · next counts =>
    rw [if_neg counts]
    split at parsed
    · cases parsed
    · next body =>
      rw [if_neg body]
      refine ⟨_, rfl, ?_⟩
      rw [← Option.some.inj parsed]

/-- A line among others that makes no negated rule tightens the rules of the others. -/
theorem parseLines_tightens {line : String} {other : String}
    (positive : ∀ rule, parseLine other line = some rule → rule.negated = false) (baseDir : String)
    (before after : List String)
    : Tightens (parseLines baseDir (before ++ after))
        (parseLines baseDir (before ++ line :: after)) := by
  rw [parseLines, parseLines, List.filterMap_append, List.filterMap_append]
  refine (Tightens.refl _).append ?_
  cases parsed : parseLine baseDir line with
  | none =>
      rw [List.filterMap_cons_none parsed]
      exact .refl _
  | some rule =>
      obtain ⟨again, parsedAgain, same⟩ := negated_of_parseLine parsed
      rw [List.filterMap_cons_some parsed]
      exact .add (same.symm.trans (positive again parsedAgain)) (.refl _)

end DirMarkers.Ignore
