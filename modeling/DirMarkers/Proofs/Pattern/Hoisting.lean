import DirMarkers.Proofs.Pattern.Writing

/-!
Anchored rules of a directory, written for the root. The path of the directory is put in front of
the pattern, with its special characters escaped. The rule of the longer line in the ignore file of
the root applies to the same paths as the rule of the shorter one in that of the directory.
-/

namespace DirMarkers

open Pattern

namespace Pattern

-----------------------------------------------------------------------------------------
-- Pieces behind plain segments
-----------------------------------------------------------------------------------------

/-- A segment in front of others is no last one. -/
theorem segmentPieces_cons (segment : List Token) {rest : List (List Token)} (some : rest ≠ [])
    : segmentPieces (segment :: rest)
      = (if isGlobstar segment then [.directories] else segment.map Token.piece ++ [.char '/'])
        ++ segmentPieces rest := by
  rw [segmentPieces]
  exact some

/-- Segments without a globstar, in front of others, stand for what they stand for alone, with a
slash behind it. Witness: induction on the segments.
-/
theorem segmentPieces_append_of_plain {before rest : List (List Token)}
    (plain : ∀ segment ∈ before, ∀ t ∈ segment, t.isWildcard = false) (filled : before ≠ [])
    (some : rest ≠ [])
    : segmentPieces (before ++ rest)
      = segmentPieces before ++ .char '/' :: segmentPieces rest := by
  induction before with
  | nil => exact absurd rfl filled
  | cons segment before ih =>
      obtain ⟨here, later⟩ := List.forall_mem_cons.mp plain
      have ordinary := isGlobstar_of_plain here
      by_cases single : before = []
      · subst single
        rw [List.singleton_append, segmentPieces_cons segment some]
        simp [segmentPieces, ordinary]
      · have longer : before ++ rest ≠ [] := List.append_ne_nil_of_left_ne_nil single rest
        rw [List.cons_append, segmentPieces_cons segment longer, segmentPieces_cons segment single,
          ih later single, List.append_assoc]

/-- What stands behind wildcard-free tokens and a separator means the same there as alone. -/
theorem pieces_append_of_plain {before : List Token}
    (plain : before.any Token.isWildcard = false) (tokens : List Token)
    : pieces (before ++ .separator :: tokens)
      = (literal before ++ ['/']).map .char ++ pieces tokens := by
  have cut : segments (before ++ .separator :: tokens) = segments before ++ segments tokens :=
    List.splitOn_append_cons_self before tokens
  have filled (tokens : List Token) : segments tokens ≠ [] :=
    List.splitOn_ne_nil Token.separator tokens
  have alone := pieces_of_plain plain
  rw [pieces] at alone
  rw [pieces, cut, segmentPieces_append_of_plain (plain_of_mem_segments plain) (filled before)
    (filled tokens), alone, pieces]
  simp

-----------------------------------------------------------------------------------------
-- Paths of directories
-----------------------------------------------------------------------------------------

/-- A text whose characters all stand for themselves. -/
def escapeText (s : String) : String :=
  String.ofList (s.toList.flatMap escape)

/-- What an escaped text is read as. -/
def plainTokens (s : String) : List Token :=
  s.toList.map Token.ofChar

theorem any_isWildcard_plainTokens (s : String) : (plainTokens s).any Token.isWildcard = false := by
  simp [plainTokens, Token.isWildcard_ofChar]

theorem literal_plainTokens (s : String) : literal (plainTokens s) = s.toList := by
  simp [literal, plainTokens, Token.ofChar, Function.comp_def]

theorem map_slashed_plainTokens (s : String)
    : (plainTokens s).map Token.slashed = plainTokens s := by
  simp [plainTokens, Token.slashed_ofChar]

/-- An anchored pattern finds below a directory what it finds in the root behind the path of that
directory. Witness: what a match starts with and the match itself make one text, or one list of
pieces, which does not depend on where it is cut.
-/
theorem predicateOf_hoisted {baseDir : String} (below : baseDir ≠ ".") (tokens : List Token)
    (dirOnly : Bool) (path : List Char)
    : (predicateOf (plainTokens baseDir ++ .separator :: tokens) true "." dirOnly).accepts path
      = (predicateOf tokens true baseDir dirOnly).accepts path := by
  have anchor : (anchorOf baseDir).toList = baseDir.toList ++ ['/'] := by
    rw [anchorOf, if_neg below, String.toList_append]
    rfl
  have wild : (plainTokens baseDir ++ .separator :: tokens).any Token.isWildcard
      = tokens.any Token.isWildcard := by
    rw [List.any_append, any_isWildcard_plainTokens]
    rfl
  have text : (anchorOf ".").toList ++ literal (plainTokens baseDir ++ .separator :: tokens)
      = (anchorOf baseDir).toList ++ literal tokens := by
    rw [anchor, literal, List.map_append, ← literal, literal_plainTokens, List.append_assoc]
    rfl
  have spelled : (anchorOf ".").toList.map .char
        ++ pieces (plainTokens baseDir ++ .separator :: tokens)
      = (anchorOf baseDir).toList.map .char ++ pieces tokens := by
    rw [anchor, pieces_append_of_plain (any_isWildcard_plainTokens baseDir), literal_plainTokens]
    rfl
  rw [predicateOf, predicateOf, wild]
  split
  · simp only [Predicate.accepts, Regex.search_eq_accepts, Regex.accepts, regexOf, if_true, spelled]
  · simp only [Predicate.accepts, Literal.accepts, literalOf, if_true, text]

end Pattern

-----------------------------------------------------------------------------------------
-- Lines
-----------------------------------------------------------------------------------------

/-- What stands in front of a line that negates, or does not. -/
def negationMark (negated : Bool) : String :=
  if negated then "!" else ""

namespace LinePattern

theorem ofLine_anchored (negated : Bool) {line : List Char} (some : tokenize line ≠ [])
    : ofLine ((negationMark negated).toList ++ '/' :: line)
      = ⟨negated, true, (splitDirMark (tokenize line)).1,
        (splitDirMark (tokenize line)).2.map Token.slashed⟩ := by
  have marked := splitDirMark_append [.separator] some
  rw [List.singleton_append] at marked
  cases negated <;> simp [ofLine, negationMark, tokenize_slash, marked, splitAnchorMark]

/-- A single slash asks for directories, and then there is no body. -/
theorem body_of_bare (negated : Bool) {line : List Char} (none : tokenize line = [])
    : (ofLine ((negationMark negated).toList ++ '/' :: line)).body = [] := by
  cases negated <;> simp [ofLine, negationMark, tokenize_slash, none, splitDirMark, splitAnchorMark]

/-- The path of a directory, escaped in front of an anchored line, is part of the body. -/
theorem ofLine_hoisted (negated : Bool) (baseDir : String) {line : List Char}
    (some : tokenize line ≠ [])
    : ofLine ((negationMark negated).toList
        ++ '/' :: (baseDir.toList.flatMap escape ++ '/' :: line))
      = ⟨negated, true, (splitDirMark (tokenize line)).1,
        plainTokens baseDir
          ++ .separator :: (splitDirMark (tokenize line)).2.map Token.slashed⟩ := by
  have read : tokenize (baseDir.toList.flatMap escape ++ '/' :: line)
      = (plainTokens baseDir ++ [.separator]) ++ tokenize line := by
    rw [tokenize_flatMap tokenize_escape, tokenize_slash, List.append_assoc]
    rfl
  have longer : tokenize (baseDir.toList.flatMap escape ++ '/' :: line) ≠ [] := by
    rw [read]
    exact List.append_ne_nil_of_right_ne_nil _ some
  rw [ofLine_anchored negated longer, read, splitDirMark_append _ some, List.append_assoc,
    List.map_append, map_slashed_plainTokens]
  rfl

end LinePattern

namespace Rule

/-- An anchored line of a directory and the line with the path of the directory in front of it, for
the root, make rules with the same marks that apply to the same paths.
-/
theorem compile_hoisted {baseDir : String} (below : baseDir ≠ ".") (negated : Bool)
    (pattern : String) {source : String} {rule : Rule}
    (compiled : compile (negationMark negated ++ "/" ++ pattern) baseDir source = some rule)
    (other : String)
    : ∃ hoisted,
        compile (negationMark negated ++ "/" ++ escapeText baseDir ++ "/" ++ pattern) "." other
          = some hoisted
        ∧ hoisted.negated = rule.negated
        ∧ hoisted.dirOnly = rule.dirOnly
        ∧ ∀ path isDir, hoisted.applies path isDir = rule.applies path isDir := by
  have line : (negationMark negated ++ "/" ++ pattern).toList
      = (negationMark negated).toList ++ '/' :: pattern.toList := by
    simp
  have longer : (negationMark negated ++ "/" ++ escapeText baseDir ++ "/" ++ pattern).toList
      = (negationMark negated).toList
        ++ '/' :: (baseDir.toList.flatMap escape ++ '/' :: pattern.toList) := by
    simp [escapeText]
  rw [compile, line] at compiled
  rw [compile, longer]
  by_cases bare : tokenize pattern.toList = []
  · rw [if_pos (LinePattern.body_of_bare negated bare)] at compiled
    cases compiled
  · rw [LinePattern.ofLine_anchored negated bare] at compiled
    rw [LinePattern.ofLine_hoisted negated baseDir bare, if_neg (by simp)]
    split at compiled
    · cases compiled
    · obtain rfl := Option.some.inj compiled
      refine ⟨_, rfl, rfl, rfl, fun path isDir => ?_⟩
      rw [applies, applies, predicateOf_hoisted below]

/-- The names of a directory may look like wildcards, and a pattern may start with a globstar. -/
theorem compile_hoisted_wild
    : "a*b/[x]" ≠ "."
      ∧ ∃ rule hoisted,
        compile "!/**/c?/" "a*b/[x]" "wild" = some rule
        ∧ compile "!/a\\*b/\\[x\\]/**/c?/" "." "hoisted" = some hoisted
        ∧ hoisted.negated = rule.negated
        ∧ hoisted.dirOnly = rule.dirOnly
        ∧ hoisted.applies "a*b/[x]/d/e/cc/f" true = true
        ∧ hoisted.applies "aab/[x]/d/e/cc/f" true = false := by
  obtain ⟨rule, compiled⟩ := Option.isSome_iff_exists.mp
    (by decide +kernel : (compile "!/**/c?/" "a*b/[x]" "wild").isSome = true)
  obtain ⟨hoisted, found, negated, dirOnly, applies⟩ :=
    compile_hoisted (by decide) true "**/c?/" compiled "hoisted"
  have answer (path : String) (isDir : Bool)
      : some (hoisted.applies path isDir)
        = (compile "!/**/c?/" "a*b/[x]" "wild").map (·.applies path isDir) := by
    rw [applies, compiled, Option.map_some]
  refine ⟨by decide, rule, hoisted, compiled, found, negated, dirOnly, ?_, ?_⟩
  · refine Option.some.inj ((answer _ _).trans ?_)
    decide +kernel
  · refine Option.some.inj ((answer _ _).trans ?_)
    decide +kernel

end Rule

end DirMarkers
