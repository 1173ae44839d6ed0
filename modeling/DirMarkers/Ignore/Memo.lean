import DirMarkers.Ignore.Tables

/-!
A memory of the rules in force. It answers which rules hold in a directory, and keeps each answer:
a later change of the tables does not reach a directory that was asked for before.
-/

namespace DirMarkers.Ignore

/-- Tables, and the rules already given out for each directory. -/
structure Memo where
  tables : Tables
  remembered : List (DirPath × List Rule)
deriving DecidableEq, Repr

namespace Memo

/-- The memory that was not asked for anything yet. -/
def ofTables (tables : Tables) : Memo :=
  ⟨tables, []⟩

/-- The rules in force in a directory, as they were when it was first asked for. -/
def rulesFor (memo : Memo) (dir : DirPath) : List Rule :=
  (memo.remembered.lookup dir).getD (memo.tables.inForce dir)

/-- Asks for the rules of a directory and remembers the answer. -/
def ask (memo : Memo) (dir : DirPath) : List Rule × Memo :=
  match memo.remembered.lookup dir with
  | some rules => (rules, memo)
  | none =>
    let rules := memo.tables.inForce dir
    (rules, { memo with remembered := (dir, rules) :: memo.remembered })

/-- Replaces the rules that one kind of ignore file contributes to a directory. -/
def set (memo : Memo) (source : Source) (dir : String) (rules : List Rule) : Memo :=
  { memo with tables := memo.tables.set source dir rules }

/-- Asking answers with the rules for the directory, by cases on the memory. -/
theorem ask_fst (memo : Memo) (dir : DirPath)
    : (memo.ask dir).1 = memo.rulesFor dir := by
  unfold ask rulesFor
  cases memo.remembered.lookup dir <;> rfl

end Memo

end DirMarkers.Ignore
