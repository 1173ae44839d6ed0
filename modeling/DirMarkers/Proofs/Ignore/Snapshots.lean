import DirMarkers.Ignore.Lines
import DirMarkers.Ignore.Memo
import DirMarkers.Ignore.Verdict
import DirMarkers.Proofs.Ignore.Chain
import Mathlib.Data.List.TakeWhile

/-!
What a memory of rules answers with. Requests and replacements may come in any order: each request
for a directory is answered from the tables as they stood at the first request for it. A later
replacement does not reach it, and an earlier one does, whatever else was asked for before.
-/

namespace DirMarkers.Ignore

-----------------------------------------------------------------------------------------
-- Runs of a memory
-----------------------------------------------------------------------------------------

/-- What is done with a memory. -/
inductive MemoStep where
  /-- A request for the rules of a directory. -/
  | request (dir : String)
  /-- The question whether a path is ignored by the rules of a directory. -/
  | query (dir path : String) (isDir : Bool)
  /-- A replacement of what one kind of ignore file contributes to a directory. -/
  | replace (source : Source) (dir : String) (rules : List Rule)
deriving DecidableEq, Repr

/-- What a memory answers. -/
inductive MemoAnswer where
  | rules (rules : List Rule)
  | verdict (ignored : Bool)
  | done
deriving DecidableEq, Repr

namespace MemoStep

/-- The directory whose rules a step uses. -/
def dir? : MemoStep → Option String
  | .request dir => some dir
  | .query dir _ _ => some dir
  | .replace _ _ _ => none

/-- What a step answers if it uses some rules. -/
def answer (rules : List Rule) : MemoStep → MemoAnswer
  | .request _ => .rules rules
  | .query _ path isDir => .verdict (isIgnored rules path isDir)
  | .replace _ _ _ => .done

end MemoStep

namespace Memo

/-- The answer to a step, and the memory after it. -/
def step (memo : Memo) : MemoStep → MemoAnswer × Memo
  | .request dir =>
    let (rules, next) := memo.ask (DirPath.ofText dir)
    (.rules rules, next)
  | .query dir path isDir =>
    let (rules, next) := memo.ask (DirPath.ofText dir)
    (.verdict (isIgnored rules path isDir), next)
  | .replace source dir rules => (.done, memo.set source dir rules)

/-- The answers to steps that are taken one after another. -/
def answers (memo : Memo) : List MemoStep → List MemoAnswer
  | [] => []
  | step :: rest => (memo.step step).1 :: answers (memo.step step).2 rest

/-- The memory after some steps. -/
def after (memo : Memo) (steps : List MemoStep) : Memo :=
  steps.foldl (fun memo step => (memo.step step).2) memo

end Memo

namespace Tables

/-- The tables after a step, of which only a replacement changes anything. -/
def afterStep (tables : Tables) : MemoStep → Tables
  | .replace source dir rules => tables.set source dir rules
  | _ => tables

def after (tables : Tables) (steps : List MemoStep) : Tables :=
  steps.foldl afterStep tables

/-- The rules of a directory and of all above it, as the tables stood when it was first asked for,
or as they stand after all steps if it was not.
-/
def snapshot (tables : Tables) (steps : List MemoStep) (dir : String) : List Rule :=
  (DirPath.chain dir).flatMap
    (tables.after (steps.takeWhile fun step => decide (step.dir? ≠ some dir))).level

end Tables

-----------------------------------------------------------------------------------------
-- Snapshots
-----------------------------------------------------------------------------------------

/-- Some step uses the rules of a directory. -/
def Asked (steps : List MemoStep) (dir : String) : Prop :=
  ∃ step ∈ steps, step.dir? = some dir

section

variable {tables : Tables} {steps : List MemoStep} {dir : String}

theorem asked_concat_iff (step : MemoStep)
    : Asked (steps ++ [step]) dir ↔ Asked steps dir ∨ step.dir? = some dir := by
  simp [Asked, or_and_right, exists_or]

theorem Tables.after_concat (tables : Tables) (steps : List MemoStep) (step : MemoStep)
    : tables.after (steps ++ [step]) = (tables.after steps).afterStep step := by
  simp [after]

/-- What comes after a request for a directory, or with it, does not change its snapshot. -/
theorem Tables.snapshot_append_cons (tables : Tables) (steps : List MemoStep) {step : MemoStep}
    (asks : step.dir? = some dir) (more : List MemoStep)
    : tables.snapshot (steps ++ step :: more) dir = tables.snapshot steps dir := by
  have first : (steps ++ step :: more).takeWhile (fun step => decide (step.dir? ≠ some dir))
      = steps.takeWhile fun step => decide (step.dir? ≠ some dir) := by
    rw [List.takeWhile_append, List.takeWhile_cons_of_neg (by simp [asks]), List.append_nil]
    split
    · next whole => exact ((List.takeWhile_prefix _).eq_of_length whole).symm
    · rfl
  rw [snapshot, first, snapshot]

theorem Tables.snapshot_append_of_asked (asked : Asked steps dir) (more : List MemoStep)
    : tables.snapshot (steps ++ more) dir = tables.snapshot steps dir := by
  obtain ⟨step, member, asks⟩ := asked
  obtain ⟨before, after, rfl⟩ := List.append_of_mem member
  rw [List.append_assoc, List.cons_append, tables.snapshot_append_cons before asks,
    tables.snapshot_append_cons before asks]

/-- The snapshot of a directory that was not asked for is what is in force there now. -/
theorem Tables.snapshot_of_fresh (fresh : ¬Asked steps dir)
    : tables.snapshot steps dir = (DirPath.chain dir).flatMap (tables.after steps).level := by
  have all : steps.takeWhile (fun step => decide (step.dir? ≠ some dir)) = steps := by
    refine List.takeWhile_eq_self_iff.mpr fun step member => decide_eq_true fun asks => ?_
    exact fresh ⟨step, member, asks⟩
  rw [snapshot, all]

end

/-- A memory keeps the snapshots of some steps: it remembers those of the directories that were
asked for, and has the tables of now for all others.
-/
structure Memo.Keeps (memo : Memo) (tables : Tables) (steps : List MemoStep) : Prop where
  tables_eq : memo.tables = tables.after steps
  asked : ∀ dir, Asked steps dir
    → memo.remembered.lookup (DirPath.ofText dir) = some (tables.snapshot steps dir)
  fresh : ∀ dir, ¬Asked steps dir → memo.remembered.lookup (DirPath.ofText dir) = none

namespace Memo

variable {memo : Memo} {tables : Tables} {steps : List MemoStep} {dir : String}

theorem keeps_ofTables (tables : Tables) : (ofTables tables).Keeps tables [] where
  tables_eq := rfl
  asked := fun _ asked => by simp [Asked] at asked
  fresh := fun _ _ => rfl

/-- A memory answers a request with the snapshot of the directory. -/
theorem Keeps.ask_fst (h : memo.Keeps tables steps) (dir : String)
    : (memo.ask (DirPath.ofText dir)).1 = tables.snapshot steps dir := by
  rw [Memo.ask_fst, rulesFor]
  by_cases asked : Asked steps dir
  · rw [h.asked dir asked, Option.getD_some]
  · rw [h.fresh dir asked, Option.getD_none, h.tables_eq, Tables.inForce_eq,
      Tables.snapshot_of_fresh asked]

theorem lookup_ask (memo : Memo) (dir other : DirPath)
    : (memo.ask dir).2.remembered.lookup other
      = if other = dir then some (memo.ask dir).1 else memo.remembered.lookup other := by
  by_cases same : other = dir
  · subst same
    cases found : memo.remembered.lookup other <;> simp [ask, found]
  · have passed : (other == dir) = false := beq_false_of_ne same
    cases found : memo.remembered.lookup dir <;> simp [ask, found, List.lookup_cons, passed, same]

theorem tables_ask (memo : Memo) (dir : DirPath) : (memo.ask dir).2.tables = memo.tables := by
  rw [ask]
  cases memo.remembered.lookup dir <;> rfl

/-- After a request, a memory remembers the snapshot of one directory more, unless it did before. -/
theorem Keeps.ask_snd (h : memo.Keeps tables steps) {step : MemoStep}
    (asks : step.dir? = some dir)
    : (memo.ask (DirPath.ofText dir)).2.Keeps tables (steps ++ [step]) where
  tables_eq := by
    rw [tables_ask, h.tables_eq, Tables.after_concat]
    cases step with
    | request _ => rfl
    | query _ _ _ => rfl
    | replace _ _ _ => cases asks
  asked := by
    intro other asked
    rw [lookup_ask, h.ask_fst]
    by_cases same : other = dir
    · subst same
      rw [if_pos rfl, tables.snapshot_append_cons steps asks]
    · rw [if_neg fun names => same (DirPath.ofText_inj names)]
      have before : Asked steps other := by
        refine ((asked_concat_iff step).mp asked).resolve_right fun also => ?_
        exact same (Option.some.inj (also.symm.trans asks))
      rw [h.asked other before, Tables.snapshot_append_of_asked before]
  fresh := by
    intro other fresh
    rw [asked_concat_iff, not_or] at fresh
    rw [lookup_ask, if_neg, h.fresh other fresh.1]
    intro names
    exact fresh.2 (DirPath.ofText_inj names ▸ asks)

/-- A replacement leaves what is remembered as it is. -/
theorem Keeps.set (h : memo.Keeps tables steps) (source : Source) (dir : String)
    (rules : List Rule)
    : (memo.set source dir rules).Keeps tables (steps ++ [.replace source dir rules]) where
  tables_eq := by
    rw [Tables.after_concat, ← h.tables_eq]
    rfl
  asked := by
    intro other asked
    have before : Asked steps other := ((asked_concat_iff _).mp asked).resolve_right nofun
    rw [Tables.snapshot_append_of_asked before]
    exact h.asked other before
  fresh := by
    intro other fresh
    rw [asked_concat_iff, not_or] at fresh
    exact h.fresh other fresh.1

/-- A step keeps the snapshots, by cases on what is done. -/
theorem Keeps.step (h : memo.Keeps tables steps) (step : MemoStep)
    : (memo.step step).2.Keeps tables (steps ++ [step]) := by
  cases step with
  | request dir => exact h.ask_snd rfl
  | query dir path isDir => exact h.ask_snd rfl
  | replace source dir rules => exact h.set source dir rules

/-- Steps keep the snapshots, by induction on them. -/
theorem Keeps.after (h : memo.Keeps tables steps) (more : List MemoStep)
    : (memo.after more).Keeps tables (steps ++ more) := by
  induction more generalizing memo steps with
  | nil => rwa [List.append_nil]
  | cons step rest ih =>
      have rest := ih (h.step step)
      rwa [List.append_assoc] at rest

/-- A step that uses the rules of a directory answers with its snapshot. -/
theorem Keeps.step_fst (h : memo.Keeps tables steps) {step : MemoStep}
    (asks : step.dir? = some dir)
    : (memo.step step).1 = step.answer (tables.snapshot steps dir) := by
  cases step with
  | request _ =>
      obtain rfl := Option.some.inj asks
      exact congrArg MemoAnswer.rules (h.ask_fst _)
  | query _ path isDir =>
      obtain rfl := Option.some.inj asks
      exact congrArg (fun rules => MemoAnswer.verdict (isIgnored rules path isDir)) (h.ask_fst _)
  | replace _ _ _ => cases asks

theorem getElem?_answers (memo : Memo) (before : List MemoStep) (step : MemoStep)
    (rest : List MemoStep)
    : (memo.answers (before ++ step :: rest))[before.length]?
      = some ((memo.after before).step step).1 := by
  induction before generalizing memo with
  | nil => rfl
  | cons first before ih => exact ih (memo.step first).2

/-- Whatever the steps are, one that uses the rules of a directory answers with those that were in
force when the directory was first asked for. What is done later does not change them, and what was
replaced before the first request is part of them.
-/
theorem answers_snapshot (tables : Tables) (before rest : List MemoStep) (step : MemoStep)
    {dir : String} (asks : step.dir? = some dir)
    : ((ofTables tables).answers (before ++ step :: rest))[before.length]?
        = some (step.answer (tables.snapshot before dir))
      ∧ (∀ more, tables.snapshot (before ++ step :: more) dir = tables.snapshot before dir)
      ∧ ((∀ earlier ∈ before, earlier.dir? ≠ some dir)
        → tables.snapshot before dir
          = (DirPath.chain dir).flatMap (tables.after before).level) := by
  have kept := (keeps_ofTables tables).after before
  rw [List.nil_append] at kept
  refine ⟨?_, tables.snapshot_append_cons before asks, fun fresh => ?_⟩
  · rw [getElem?_answers, kept.step_fst asks]
  · refine Tables.snapshot_of_fresh ?_
    rintro ⟨earlier, member, asked⟩
    exact fresh earlier member asked

/-- A directory is asked for between two replacements, and one below it only after the second. -/
def halfAsked : List MemoStep :=
  [.replace .content "." (parseLines "." ["*.o"]), .request "a",
    .replace .content "." (parseLines "." ["*.log"])]

/-- The first directory is answered with the rule of the first replacement, the one below it with
that of the second.
-/
theorem answers_snapshot_half
    : ((ofTables .empty).answers (halfAsked ++ [.query "a" "a/x.o" false, .request "a/b"]))[3]?
        = some (.verdict true)
      ∧ ((ofTables .empty).answers (halfAsked ++ [.request "a/b"]))[3]?
        = some (.rules (parseLines "." ["*.log"])) := by
  have first := (answers_snapshot .empty halfAsked [.request "a/b"]
    (.query "a" "a/x.o" false) rfl).1
  have second := (answers_snapshot .empty halfAsked [] (.request "a/b") rfl).1
  refine ⟨first.trans ?_, second.trans ?_⟩
  · decide +kernel
  · decide +kernel

end Memo

end DirMarkers.Ignore
