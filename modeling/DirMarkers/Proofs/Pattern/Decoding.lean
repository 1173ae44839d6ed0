import DirMarkers.Proofs.Pattern.Components
import DirMarkers.Proofs.Pattern.Hoisting
import DirMarkers.Proofs.Pattern.Meaning
import Mathlib.Data.List.Forall2

/-!
Reading the text of an expression back. A special character that stands for itself has a backslash
in front of it, and no operator starts with one, so the piece that a text starts with can be told
from the text. The pieces then tell the tokens, except for escapes that change nothing.
-/

namespace DirMarkers.Pattern

-----------------------------------------------------------------------------------------
-- The piece that a text starts with
-----------------------------------------------------------------------------------------

-- Rewriting with `Piece.text` itself would evaluate the texts of the operators.
theorem Piece.text_char (c : Char) : (Piece.char c).text = escapeChar c :=
  rfl

/-- What wildcards stand for. A run starts with the text of a single character, so it is looked for
first.
-/
def operators : List Piece :=
  [.run, .one, .directories, .anything]

/-- The character that stands for itself at the start of a text. -/
def leadingLiteral : List Char → Option Piece
  | [] => none
  | [c] => if isRegexSpecial c then none else some (.char c)
  | c :: d :: _ =>
    if c = '\\' then some (.char d) else if isRegexSpecial c then none else some (.char c)

/-- The piece that a text starts with. Whatever looks like an operator is read as one. -/
def leadingPiece (text : List Char) : Option Piece :=
  (operators.find? (·.text.isPrefixOf text)).or (leadingLiteral text)

/-- An operator starts with a special character, but not with the one that escapes. -/
theorem special_of_isPrefixOf {operator : Piece} (member : operator ∈ operators) {c : Char}
    {rest : List Char} (starts : operator.text.isPrefixOf (c :: rest) = true)
    : isRegexSpecial c = true ∧ c ≠ '\\' := by
  have first : operators.all (·.text.head?.any fun d => isRegexSpecial d && d != '\\') = true := rfl
  have special := List.all_eq_true.mp first operator member
  rcases List.prefix_cons_iff.mp (List.isPrefixOf_iff_prefix.mp starts) with none | ⟨more, text, -⟩
  · rw [none] at special
    cases special
  · rw [text] at special
    simpa using special

/-- No operator starts like a character that stands for itself. -/
theorem find?_operators_escapeChar (c : Char) (rest : List Char)
    : operators.find? (·.text.isPrefixOf (escapeChar c ++ rest)) = none := by
  rw [List.find?_eq_none]
  intro operator member starts
  rw [escapeChar] at starts
  split at starts
  · exact (special_of_isPrefixOf member starts).2 rfl
  · next ordinary => exact ordinary (special_of_isPrefixOf member starts).1

theorem leadingLiteral_escapeChar (c : Char) (rest : List Char)
    : leadingLiteral (escapeChar c ++ rest) = some (.char c) := by
  rw [escapeChar]
  split
  · rfl
  · next ordinary =>
    have noBackslash : c ≠ '\\' := by
      rintro rfl
      exact ordinary rfl
    cases rest <;> simp [leadingLiteral, noBackslash, ordinary]

/-- A piece is told from its text, unless a star behind a single character makes it a run. -/
theorem leadingPiece_text_append (piece : Piece) {rest : List Char}
    (noStar : rest.head? ≠ some '*')
    : leadingPiece (piece.text ++ rest) = some piece := by
  cases piece with
  | char c =>
      rw [Piece.text_char, leadingPiece, find?_operators_escapeChar, leadingLiteral_escapeChar]
      rfl
  | one =>
      cases rest with
      | nil => rfl
      | cons c rest =>
          have other : ('*' == c) = false :=
            beq_false_of_ne fun star => noStar (congrArg some star.symm)
          have noRun : Piece.run.text.isPrefixOf (Piece.one.text ++ c :: rest) = false := by
            change (('*' == c) && _) = false
            rw [other, Bool.false_and]
          rw [leadingPiece, operators, List.find?_cons, noRun]
          rfl
  | run | directories | anything => rfl

/-- An escaped star behind a single character makes it no run. -/
example : leadingPiece "[^/]\\*".toList = some .one := by
  decide

-----------------------------------------------------------------------------------------
-- Pieces from their text
-----------------------------------------------------------------------------------------

/-- A text that starts with no piece, and does not change the piece in front of it. -/
def Closes (text : List Char) : Prop :=
  leadingPiece text = none ∧ text.head? ≠ some '*'
deriving Decidable

theorem head?_text_append (piece : Piece) (rest : List Char)
    : (piece.text ++ rest).head? ≠ some '*' := by
  cases piece with
  | char c =>
      rw [Piece.text_char, escapeChar]
      split
      · simp
      · next ordinary =>
        intro star
        obtain rfl : c = '*' := by simpa using star
        exact ordinary rfl
  | one | run | directories | anything => exact ne_of_beq_false rfl

theorem piecesText_cons (piece : Piece) (pieces : List Piece)
    : piecesText (piece :: pieces) = piece.text ++ piecesText pieces :=
  List.flatMap_cons

theorem piecesText_append (before behind : List Piece)
    : piecesText (before ++ behind) = piecesText before ++ piecesText behind :=
  List.flatMap_append

namespace Closes

theorem head?_piecesText_append {rest : List Char} (closes : Closes rest) (pieces : List Piece)
    : (piecesText pieces ++ rest).head? ≠ some '*' := by
  cases pieces with
  | nil => exact closes.2
  | cons piece pieces =>
      rw [piecesText_cons, List.append_assoc]
      exact head?_text_append piece _

theorem leadingPiece_cons {rest : List Char} (closes : Closes rest) (piece : Piece)
    (pieces : List Piece)
    : leadingPiece (piecesText (piece :: pieces) ++ rest) = some piece := by
  rw [piecesText_cons, List.append_assoc]
  exact leadingPiece_text_append piece (closes.head?_piecesText_append pieces)

end Closes

/-- A text tells the pieces that it starts with, and what is behind them. Witness: induction on the
pieces, of which the text tells the first.
-/
theorem pieces_of_piecesText_append {pieces others : List Piece} {rest more : List Char}
    (closes : Closes rest) (alsoCloses : Closes more)
    (same : piecesText pieces ++ rest = piecesText others ++ more)
    : pieces = others ∧ rest = more := by
  induction pieces generalizing others with
  | nil =>
      cases others with
      | nil => exact ⟨rfl, same⟩
      | cons other others =>
          have leading := alsoCloses.leadingPiece_cons other others
          rw [← same] at leading
          cases closes.1.symm.trans leading
  | cons piece pieces ih =>
      have leading := closes.leadingPiece_cons piece pieces
      rw [same] at leading
      cases others with
      | nil => cases alsoCloses.1.symm.trans leading
      | cons other others =>
          rw [alsoCloses.leadingPiece_cons other others] at leading
          obtain rfl := Option.some.inj leading
          rw [piecesText_cons, piecesText_cons, List.append_assoc, List.append_assoc] at same
          obtain ⟨rfl, rfl⟩ := ih (List.append_cancel_left same)
          exact ⟨rfl, rfl⟩

/-- There is a single way to read a text as pieces. -/
theorem piecesText_injective : Function.Injective piecesText := by
  intro pieces others same
  have closes : Closes [] := by decide
  exact (pieces_of_piecesText_append closes closes (congrArg (· ++ []) same)).1

-----------------------------------------------------------------------------------------
-- Expressions from their text
-----------------------------------------------------------------------------------------

/-- How the text of an expression starts. -/
def openingText (anchored : Bool) : List Char :=
  if anchored then ['^'] else "(?:^|/)".toList

/-- How the text of an expression ends. -/
def closingText (below : Bool) : List Char :=
  if below then "(?:/.*)?$".toList else ['$']

theorem openingText_append_inj {anchored other : Bool} {rest more : List Char}
    (same : openingText anchored ++ rest = openingText other ++ more)
    : anchored = other ∧ rest = more := by
  cases anchored <;> cases other
  · exact ⟨rfl, List.append_cancel_left same⟩
  · cases List.head_eq_of_cons_eq same
  · cases List.head_eq_of_cons_eq same
  · exact ⟨rfl, List.append_cancel_left same⟩

theorem closingText_inj {below other : Bool} (same : closingText below = closingText other)
    : below = other := by
  revert below other
  decide

/-- The group that goes on below a directory is not the one of a globstar. -/
theorem closes_closingText (below : Bool) : Closes (closingText below) := by
  cases below <;> decide

theorem piecesText_chars (text : List Char)
    : piecesText (text.map .char) = text.flatMap escapeChar := by
  rw [piecesText, List.flatMap_map]
  rfl

namespace Regex

/-- What a match is made of, with the text that an anchored one starts with. -/
def allPieces (regex : Regex) : List Piece :=
  (regex.anchor.getD "").toList.map .char ++ regex.body

theorem text_eq (regex : Regex)
    : regex.text = String.ofList (openingText regex.anchor.isSome
        ++ (piecesText regex.allPieces ++ closingText regex.below)) := by
  rw [allPieces, piecesText_append, piecesText_chars]
  obtain ⟨anchor, body, below⟩ := regex
  cases anchor with
  | none => rfl
  | some start => rfl

/-- The text of an expression tells whether it is anchored, what a match is made of, and whether it
may go on below a directory.
-/
theorem text_eq_iff {regex other : Regex}
    : regex.text = other.text
      ↔ regex.anchor.isSome = other.anchor.isSome
        ∧ regex.below = other.below
        ∧ regex.allPieces = other.allPieces := by
  constructor
  · intro same
    rw [text_eq, text_eq, String.ofList_inj] at same
    obtain ⟨anchored, behind⟩ := openingText_append_inj same
    obtain ⟨pieces, closing⟩ := pieces_of_piecesText_append (closes_closingText _)
      (closes_closingText _) behind
    exact ⟨anchored, closingText_inj closing, pieces⟩
  · rintro ⟨anchored, below, pieces⟩
    rw [text_eq, text_eq, anchored, below, pieces]

end Regex

/-- Expressions for one directory share their text only if they have the same marks and pieces. -/
theorem regexOf_text_eq_iff (tokens others : List Token) (baseDir : String)
    (anchored otherAnchored dirOnly otherDirOnly : Bool)
    : (regexOf tokens anchored baseDir dirOnly).text
        = (regexOf others otherAnchored baseDir otherDirOnly).text
      ↔ anchored = otherAnchored ∧ dirOnly = otherDirOnly ∧ pieces tokens = pieces others := by
  rw [Regex.text_eq_iff]
  cases anchored <;> cases otherAnchored <;> simp [regexOf, Regex.allPieces]

-----------------------------------------------------------------------------------------
-- Escapes that change nothing
-----------------------------------------------------------------------------------------

namespace Token

/-- Tokens of one character that differ at most in an escape which changes nothing, since only a
star and a question mark mean something else without it.
-/
def Alike (t u : Token) : Prop :=
  t.char = u.char ∧ (t.char = '*' ∨ t.char = '?' → t.escaped = u.escaped)

/-- The token without an escape that changes nothing. -/
def bare (t : Token) : Token :=
  ⟨t.char, t.escaped && decide (t.char = '*' ∨ t.char = '?')⟩

theorem alike_iff_bare_eq {t u : Token} : t.Alike u ↔ t.bare = u.bare := by
  obtain ⟨c, escaped⟩ := t
  obtain ⟨d, alsoEscaped⟩ := u
  rw [Alike, bare, bare, Token.mk.injEq]
  refine and_congr_right ?_
  rintro rfl
  by_cases wild : c = '*' ∨ c = '?'
  · simp [wild]
  · simp [wild]

theorem forall₂_alike_iff {tokens others : List Token}
    : List.Forall₂ Alike tokens others ↔ tokens.map bare = others.map bare := by
  have same : List.Forall₂ (· = ·) (tokens.map bare) (others.map bare)
      ↔ List.Forall₂ Alike tokens others := by
    simp only [List.forall₂_map_left_iff, List.forall₂_map_right_iff, ← alike_iff_bare_eq]
  rw [← same, List.forall₂_eq_eq_eq]

theorem bare_of_char {t : Token} (wild : t.char = '*' ∨ t.char = '?') : t.bare = t := by
  rw [bare, decide_eq_true wild, Bool.and_true]

theorem bare_eq_iff {t u : Token} (wild : u.isWildcard = true) : t.bare = u ↔ t = u := by
  have char : u.char = '*' ∨ u.char = '?' := by
    rcases Bool.or_eq_true_iff.mp wild with star | question
    · exact .inl (congrArg Token.char (of_decide_eq_true star))
    · exact .inr (congrArg Token.char (of_decide_eq_true question))
  constructor
  · intro same
    have sameChar : t.bare.char = u.char := congrArg Token.char same
    have wildChar : t.char = '*' ∨ t.char = '?' := by rwa [← sameChar] at char
    rwa [bare_of_char wildChar] at same
  · rintro rfl
    exact bare_of_char char

theorem bare_eq_star {t : Token} : t.bare = .star ↔ t = .star :=
  bare_eq_iff rfl

theorem bare_eq_question {t : Token} : t.bare = .question ↔ t = .question :=
  bare_eq_iff rfl

theorem bare_ne_separator {t : Token} (other : t ≠ .separator) (noSlash : t ≠ ⟨'/', true⟩)
    : t.bare ≠ .separator := by
  obtain ⟨c, escaped⟩ := t
  intro same
  obtain rfl : c = '/' := congrArg Token.char same
  cases escaped with
  | false => exact other rfl
  | true => exact noSlash rfl

theorem piece_bare (t : Token) : t.bare.piece = t.piece := by
  simp only [piece, bare_eq_star, bare_eq_question]
  rfl

end Token

theorem isGlobstar_iff {segment : List Token}
    : isGlobstar segment = true ↔ segment = [.star, .star] :=
  decide_eq_true_iff

theorem isGlobstar_map_bare (segment : List Token)
    : isGlobstar (segment.map Token.bare) = isGlobstar segment := by
  rw [Bool.eq_iff_iff, isGlobstar_iff, isGlobstar_iff]
  simp [List.map_eq_cons_iff, Token.bare_eq_star]

theorem segmentPieces_map_bare (segments : List (List Token))
    : segmentPieces (segments.map (·.map Token.bare)) = segmentPieces segments := by
  induction segments with
  | nil => rfl
  | cons segment rest ih =>
      have same : (segment.map Token.bare).map Token.piece = segment.map Token.piece := by
        simp [Token.piece_bare]
      by_cases last : rest = []
      · rw [last, List.map_singleton, segmentPieces, segmentPieces, isGlobstar_map_bare, same]
      · rw [List.map_cons, segmentPieces_cons _ (by simpa using last), segmentPieces_cons _ last,
          ih, isGlobstar_map_bare, same]

/-- An escaped slash would be cut at if it lost its escape; no other token is cut at without being a
separator.
-/
theorem segments_map_bare {tokens : List Token} (noSlash : ⟨'/', true⟩ ∉ tokens)
    : segments (tokens.map Token.bare) = (segments tokens).map (·.map Token.bare) := by
  have joined : [Token.separator].intercalate (segments tokens) = tokens :=
    List.intercalate_splitOn Token.separator
  have spelled : tokens.map Token.bare
      = [Token.separator].intercalate ((segments tokens).map (·.map Token.bare)) := by
    rw [← joined, map_intercalate, joined]
    rfl
  rw [spelled]
  refine List.splitOn_intercalate Token.separator ?_ ?_
  · intro segment member inside
    obtain ⟨items, cut, rfl⟩ := List.mem_map.mp member
    obtain ⟨item, within, same⟩ := List.mem_map.mp inside
    refine Token.bare_ne_separator ?_ ?_ same
    · rintro rfl
      exact notMem_of_mem_splitOn cut within
    · rintro rfl
      exact noSlash (mem_of_mem_segments cut within)
  · exact mt List.map_eq_nil_iff.mp (List.splitOn_ne_nil Token.separator tokens)

theorem pieces_map_bare {tokens : List Token} (noSlash : ⟨'/', true⟩ ∉ tokens)
    : pieces (tokens.map Token.bare) = pieces tokens := by
  rw [pieces, segments_map_bare noSlash, segmentPieces_map_bare, pieces]

-----------------------------------------------------------------------------------------
-- Tokens from their pieces
-----------------------------------------------------------------------------------------

/-- The tokens that a piece is compiled from, without escapes that change nothing. A globstar in
front of other segments gives the slash behind it back.
-/
def Piece.tokens : Piece → List Token
  | .char c => [⟨c, decide (c = '*' ∨ c = '?')⟩]
  | .one => [.question]
  | .run => [.star]
  | .directories => [.star, .star, .separator]
  | .anything => [.star, .star]

theorem Token.tokens_piece (t : Token) : t.piece.tokens = [t.bare] := by
  rw [piece]
  split
  · next star =>
    rw [star]
    rfl
  · next noStar =>
    split
    · next question =>
      rw [question]
      rfl
    · next noQuestion =>
      obtain ⟨c, escaped⟩ := t
      cases escaped with
      | true => simp [Piece.tokens, bare]
      | false =>
          have ordinary : ¬(c = '*' ∨ c = '?') := by
            rintro (rfl | rfl)
            · exact noStar rfl
            · exact noQuestion rfl
          simp [Piece.tokens, bare, ordinary]

theorem flatMap_tokens_map_piece (segment : List Token)
    : (segment.map Token.piece).flatMap Piece.tokens = segment.map Token.bare := by
  simp only [List.flatMap_map, Token.tokens_piece]
  exact (List.map_eq_flatMap ..).symm

/-- The pieces of segments tell the tokens, by induction on the segments. -/
theorem flatMap_tokens_segmentPieces (segments : List (List Token))
    : (segmentPieces segments).flatMap Piece.tokens
      = ([Token.separator].intercalate segments).map Token.bare := by
  induction segments with
  | nil => rfl
  | cons segment rest ih =>
      cases rest with
      | nil =>
          rw [segmentPieces, List.intercalate_singleton]
          split
          · next globstar =>
            obtain rfl := isGlobstar_iff.mp globstar
            rfl
          · exact flatMap_tokens_map_piece segment
      | cons next rest =>
          rw [segmentPieces_cons segment (List.cons_ne_nil next rest), List.flatMap_append, ih,
            List.intercalate_cons_cons, List.map_append, List.map_append]
          split
          · next globstar =>
            obtain rfl := isGlobstar_iff.mp globstar
            rfl
          · rw [List.flatMap_append, flatMap_tokens_map_piece]
            rfl

theorem flatMap_tokens_pieces (tokens : List Token)
    : (pieces tokens).flatMap Piece.tokens = tokens.map Token.bare := by
  rw [pieces, flatMap_tokens_segmentPieces, segments, List.intercalate_splitOn]

/-- Patterns without an escaped slash are compiled to the same pieces if and only if they differ in
nothing but escapes that change nothing.
-/
theorem pieces_eq_iff {tokens others : List Token} (noSlash : ⟨'/', true⟩ ∉ tokens)
    (noOther : ⟨'/', true⟩ ∉ others)
    : pieces tokens = pieces others ↔ List.Forall₂ Token.Alike tokens others := by
  rw [Token.forall₂_alike_iff]
  constructor
  · intro same
    rw [← flatMap_tokens_pieces, same, flatMap_tokens_pieces]
  · intro same
    rw [← pieces_map_bare noSlash, same, pieces_map_bare noOther]

-----------------------------------------------------------------------------------------
-- Patterns from their text
-----------------------------------------------------------------------------------------

/-- The body of a line has no escaped slash. -/
theorem escaped_slash_notMem_ofLine (line : List Char)
    : ⟨'/', true⟩ ∉ (LinePattern.ofLine line).body := by
  intro member
  cases LinePattern.separator_of_mem_ofLine member rfl

/-- The text of an expression tells the pattern that it was compiled from. No other sequence of
literals and operators can be read in it, and two patterns share it only if they differ in nothing
but escapes that change nothing. Within a whole expression it also tells the marks of the pattern.
-/
theorem text_identifies_pattern {tokens others : List Token} (noSlash : ⟨'/', true⟩ ∉ tokens)
    (noOther : ⟨'/', true⟩ ∉ others)
    : (∀ reading : List Piece,
        piecesText reading = piecesText (pieces tokens) → reading = pieces tokens)
      ∧ (piecesText (pieces tokens) = piecesText (pieces others)
        ↔ List.Forall₂ Token.Alike tokens others)
      ∧ ∀ (baseDir : String) (anchored otherAnchored dirOnly otherDirOnly : Bool),
        (regexOf tokens anchored baseDir dirOnly).text
            = (regexOf others otherAnchored baseDir otherDirOnly).text
          ↔ anchored = otherAnchored
            ∧ dirOnly = otherDirOnly
            ∧ List.Forall₂ Token.Alike tokens others := by
  refine ⟨fun reading same => piecesText_injective same, ?_, ?_⟩
  · rw [piecesText_injective.eq_iff, pieces_eq_iff noSlash noOther]
  · intro baseDir anchored otherAnchored dirOnly otherDirOnly
    rw [regexOf_text_eq_iff, pieces_eq_iff noSlash noOther]

/-- Brackets around an escaped star are no operator, whether or not they are escaped themselves, and
without the escape of the star the pattern is another one.
-/
theorem text_identifies_pattern_brackets
    : ⟨'/', true⟩ ∉ (LinePattern.ofLine "**/[^\\*]*.c".toList).body
      ∧ ⟨'/', true⟩ ∉ (LinePattern.ofLine "**/\\[^\\*\\]*.c".toList).body
      ∧ ⟨'/', true⟩ ∉ (LinePattern.ofLine "**/[^*]*.c".toList).body
      ∧ piecesText (pieces (LinePattern.ofLine "**/[^\\*]*.c".toList).body)
        = "(?:.*/)?\\[\\^\\*\\][^/]*\\.c".toList
      ∧ piecesText (pieces (LinePattern.ofLine "**/[^\\*]*.c".toList).body)
        = piecesText (pieces (LinePattern.ofLine "**/\\[^\\*\\]*.c".toList).body)
      ∧ piecesText (pieces (LinePattern.ofLine "**/[^\\*]*.c".toList).body)
        ≠ piecesText (pieces (LinePattern.ofLine "**/[^*]*.c".toList).body) := by
  have noSlash (line : String) := escaped_slash_notMem_ofLine line.toList
  refine ⟨noSlash _, noSlash _, noSlash _, by decide +kernel, ?_, ?_⟩
  · refine (text_identifies_pattern (noSlash _) (noSlash _)).2.1.mpr ?_
    rw [Token.forall₂_alike_iff]
    decide +kernel
  · intro same
    have alike := (text_identifies_pattern (noSlash _) (noSlash _)).2.1.mp same
    rw [Token.forall₂_alike_iff] at alike
    revert alike
    decide +kernel

end DirMarkers.Pattern
