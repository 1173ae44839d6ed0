import DirMarkers.Run.Loading

/-!
Ends of lines. Each line of an ignore file may end in its own way. A carriage return, and then a
line feed that ends an empty line, look like one end, so an empty line can be lost in reading. As
it holds no rule, the rules are those of the lines as they were written.
-/

namespace DirMarkers

namespace Text

/-- What ends a line. -/
inductive LineEnd where
  | lineFeed
  | carriageReturn
  /-- A carriage return and a line feed. -/
  | both
deriving DecidableEq, Repr

def LineEnd.chars : LineEnd → List Char
  | .lineFeed => ['\n']
  | .carriageReturn => ['\r']
  | .both => ['\r', '\n']

/-- Lines, each with its own end, and maybe a last one without an end. -/
structure Written where
  ended : List (String × LineEnd)
  last : Option String := none
deriving DecidableEq, Repr

namespace Written

def lines (written : Written) : List String :=
  written.ended.map Prod.fst ++ written.last.toList

/-- The text in which lines are written. -/
def text (written : Written) : String :=
  String.ofList ((written.ended.flatMap fun line => line.1.toList ++ line.2.chars)
    ++ (written.last.getD "").toList)

/-- No line holds a character at which a line ends. -/
def IsPlain (written : Written) : Prop :=
  ∀ line ∈ written.lines, ∀ c ∈ line.toList, isLineEnd c = false

instance (written : Written) : Decidable written.IsPlain :=
  decidable_of_decidable_of_iff (p := written.lines.all fun line =>
    line.toList.all fun c => !isLineEnd c) (by simp [IsPlain])

end Written

-----------------------------------------------------------------------------------------
-- Lines that are not empty
-----------------------------------------------------------------------------------------

/-- The lines of a text that are not empty. -/
def filledLines (cs : List Char) : List (List Char) :=
  (cs.splitOnP isLineEnd).filter (· ≠ [])

/-- Where a line ends, a text is cut in two. -/
theorem filledLines_append {c : Char} (ends : isLineEnd c = true) (before after : List Char)
    : filledLines (before ++ c :: after) = filledLines before ++ filledLines after := by
  simp [filledLines, List.splitOnP_append_cons before after ends]

/-- An end of a line belongs to no line. -/
theorem filledLines_cons {c : Char} (ends : isLineEnd c = true) (after : List Char)
    : filledLines (c :: after) = filledLines after := by
  simpa [filledLines] using filledLines_append ends [] after

theorem filledLines_of_plain {line : List Char} (plain : ∀ c ∈ line, isLineEnd c = false)
    : filledLines line = [line].filter (· ≠ []) := by
  rw [filledLines, List.splitOnP_eq_singleton plain]

/-- All that is left out after the last end of a line is empty. -/
theorem filter_splitLines (cs : List Char)
    : (splitLines cs).filter (· ≠ []) = filledLines cs := by
  rw [splitLines, filledLines]
  split
  · next empty =>
    obtain ⟨before, whole⟩ := List.getLast?_eq_some_iff.mp empty
    simp [whole]
  · rfl

-----------------------------------------------------------------------------------------
-- Lines with their ends
-----------------------------------------------------------------------------------------

theorem unifyNewlines_cons {c : Char} (other : c ≠ '\r') (rest : List Char)
    : unifyNewlines (c :: rest) = c :: unifyNewlines rest := by
  simp [unifyNewlines, other]

/-- A line stays as it is when the ends of lines become the same. -/
theorem unifyNewlines_append {line : List Char} (plain : ∀ c ∈ line, isLineEnd c = false)
    (rest : List Char)
    : unifyNewlines (line ++ rest) = line ++ unifyNewlines rest := by
  induction line with
  | nil => rfl
  | cons c line ih =>
      obtain ⟨own, others⟩ := List.forall_mem_cons.mp plain
      have other : c ≠ '\r' := by
        rintro rfl
        exact absurd own (by decide)
      rw [List.cons_append, unifyNewlines_cons other, ih others, List.cons_append]

/-- An end of a line becomes a line feed, and no filled line of what comes next is lost. A carriage
return takes with it at most the line feed of an empty line.
-/
theorem unifyNewlines_end (ending : LineEnd) (rest : List Char)
    : ∃ more, unifyNewlines (ending.chars ++ rest) = '\n' :: more
      ∧ filledLines more = filledLines (unifyNewlines rest) := by
  cases ending with
  | lineFeed => exact ⟨_, rfl, rfl⟩
  | both => exact ⟨_, rfl, rfl⟩
  | carriageReturn =>
      cases rest with
      | nil => exact ⟨_, rfl, rfl⟩
      | cons c rest =>
          by_cases feed : c = '\n'
          · subst feed
            exact ⟨unifyNewlines rest, rfl, (filledLines_cons (by decide) _).symm⟩
          · exact ⟨unifyNewlines (c :: rest), by simp [LineEnd.chars, unifyNewlines, feed], rfl⟩

/-- The first line is found before those of the rest, however it ends. -/
theorem filledLines_line {line : List Char} (plain : ∀ c ∈ line, isLineEnd c = false)
    (ending : LineEnd) (rest : List Char)
    : filledLines (unifyNewlines (line ++ ending.chars ++ rest))
      = [line].filter (· ≠ []) ++ filledLines (unifyNewlines rest) := by
  obtain ⟨more, unified, same⟩ := unifyNewlines_end ending rest
  rw [List.append_assoc, unifyNewlines_append plain, unified, filledLines_append (by decide),
    filledLines_of_plain plain, same]

/-- Reading finds the lines that were written, apart from empty ones. Witness: induction on the
lines with an end.
-/
theorem filter_lines_text {written : Written} (plain : written.IsPlain)
    : (lines written.text).filter (· ≠ "") = written.lines.filter (· ≠ "") := by
  have filled : filledLines (unifyNewlines written.text.toList)
      = (written.lines.map String.toList).filter (· ≠ []) := by
    obtain ⟨ended, last⟩ := written
    simp only [Written.text, Written.lines, String.toList_ofList]
    induction ended with
    | nil =>
        cases last with
        | none => rfl
        | some line =>
            have own := plain line (by simp [Written.lines])
            have alone := unifyNewlines_append own []
            simp only [List.append_nil] at alone
            simp [alone, unifyNewlines, filledLines_of_plain own]
    | cons line rest ih =>
        have own := plain line.1 (by simp [Written.lines])
        have others := ih fun other member => plain other (List.mem_cons_of_mem _ member)
        rw [List.flatMap_cons, List.append_assoc, filledLines_line own, others,
          ← List.filter_append]
        rfl
  have read : (lines written.text).filter (· ≠ "")
      = (filledLines (unifyNewlines written.text.toList)).map String.ofList := by
    rw [← filter_splitLines, lines, List.filter_map]
    congr 1
    refine List.filter_congr fun line _ => ?_
    simp
  rw [read, filled, List.filter_map, List.map_map]
  simp [Function.comp_def]

end Text

namespace Ignore

/-- An empty line holds no rule. -/
theorem parseLines_filter (baseDir : String) (lines : List String)
    : parseLines baseDir (lines.filter (· ≠ "")) = parseLines baseDir lines := by
  induction lines with
  | nil => rfl
  | cons line rest ih =>
      by_cases empty : line = ""
      · subst empty
        exact ih
      · rw [List.filter_cons_of_pos (by simpa using empty), parseLines, List.filterMap_cons,
          parseLines, List.filterMap_cons]
        rw [parseLines, parseLines] at ih
        rw [ih]

/-- Lines that were written with any ends give the rules of the lines. -/
theorem parse_written {written : Text.Written} (plain : written.IsPlain) (baseDir : String)
    : parse baseDir written.text.toUTF8 = .ok (parseLines baseDir written.lines) := by
  have same := congrArg (parseLines baseDir) (Text.filter_lines_text plain)
  rw [parseLines_filter, parseLines_filter] at same
  rw [parse, Text.Utf8.decode_toUTF8]
  exact congrArg _ same

end Ignore

namespace Loading

/-- An ignore file that can be read gives the rules of the lines that were written into it, whatever
the end of each of them is. Nothing but their number is told, if there are any.
-/
theorem readRules_written {faults : Faults} {top : Node} {path : PathName} {dir : DirPath}
    {source : Ignore.Source} {written : Text.Written} (plain : written.IsPlain)
    (holds : faults.read top (path.child source.fileName) = .ok written.text.toUTF8)
    : readRules faults top path dir source
      = (Ignore.parseLines dir.text written.lines,
        match Ignore.parseLines dir.text written.lines with
        | [] => []
        | rules => [.rulesLoaded dir source rules.length]) := by
  simp only [readRules, holds, Ignore.parse_written plain]
  cases Ignore.parseLines dir.text written.lines with
  | nil => rfl
  | cons rule rules => rfl

/-- Three ends in one file. The second line is empty and ends with a line feed, so the first one
seems to end with both characters.
-/
def mixedLines : Text.Written where
  ended := [("*.log", .carriageReturn), ("", .lineFeed), ("# notes", .both), (" !keep ", .lineFeed)]
  last := some "out/"

/-- A project with nothing but this file. -/
def mixedLinesTree : Node :=
  .dir [("p", .dir [(".gitignore", .file mixedLines.text.toUTF8)])]

/-- The empty line is lost, and no rule is. -/
theorem readRules_written_mixed
    : mixedLines.IsPlain
      ∧ mixedLines.text = "*.log\r\n# notes\r\n !keep \nout/"
      ∧ (readRules .none mixedLinesTree ⟨.slash, ["p"]⟩ .root .content).1
        = Ignore.parseLines "." mixedLines.lines
      ∧ (Ignore.parseLines "." mixedLines.lines).map (·.source) = ["*.log", " !keep ", "out/"] := by
  have plain : mixedLines.IsPlain := by decide
  have read := @readRules_written .none mixedLinesTree ⟨.slash, ["p"]⟩ .root .content mixedLines
    plain rfl
  exact ⟨plain, rfl, congrArg Prod.fst read, by decide⟩

end Loading

end DirMarkers
