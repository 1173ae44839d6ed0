import DirMarkers.Proofs.Pattern.Plain
import DirMarkers.Rule

/-!
Writing patterns down. What is meant by a line is a list of segments, made of characters that stand
for themselves and of wildcards. A special character that stands for itself is written behind a
backslash, and everything else as it is. Reading such a line gives back what was meant.
-/

namespace DirMarkers

open Pattern

namespace Pattern

-----------------------------------------------------------------------------------------
-- Joined lists
-----------------------------------------------------------------------------------------

theorem map_intercalate {α β : Type} (f : α → β) (separator : α) (parts : List (List α))
    : ([separator].intercalate parts).map f = [f separator].intercalate (parts.map (·.map f)) := by
  induction parts with
  | nil => rfl
  | cons part parts ih =>
      cases parts with
      | nil => simp
      | cons next others =>
          rw [List.map_cons, List.map_cons, List.intercalate_cons_cons, List.intercalate_cons_cons,
            List.map_append, List.map_append, ih, List.map_singleton, List.map_cons]

theorem any_intercalate {α : Type} {test : α → Bool} {separator : α}
    (passed : test separator = false) (parts : List (List α))
    : ([separator].intercalate parts).any test = parts.flatten.any test := by
  induction parts with
  | nil => rfl
  | cons part parts ih =>
      cases parts with
      | nil => simp
      | cons next others => simp [List.intercalate_cons_cons, passed, ih]

theorem exists_intercalate_cons {α : Type} (separator first : List α) (others : List (List α))
    : ∃ rest, separator.intercalate (first :: others) = first ++ rest := by
  cases others with
  | nil => exact ⟨[], by simp⟩
  | cons next others => exact ⟨_, by rw [List.intercalate_cons_cons, List.append_assoc]⟩

theorem exists_intercalate_concat {α : Type} (separator : List α) (others : List (List α))
    (last : List α)
    : ∃ before, separator.intercalate (others ++ [last]) = before ++ last := by
  induction others with
  | nil => exact ⟨[], by simp⟩
  | cons first others ih =>
      obtain ⟨before, joined⟩ := ih
      obtain ⟨next, rest, cut⟩ := List.exists_cons_of_ne_nil
        (List.append_ne_nil_of_right_ne_nil others (List.cons_ne_nil last []))
      refine ⟨first ++ separator ++ before, ?_⟩
      rw [List.cons_append, cut, List.intercalate_cons_cons, ← cut, joined, List.append_assoc,
        List.append_assoc, List.append_assoc]

-----------------------------------------------------------------------------------------
-- Characters
-----------------------------------------------------------------------------------------

/-- How a character is written that stands for itself. -/
def escape (c : Char) : List Char :=
  if isEscapable c then ['\\', c] else [c]

/-- What a character that stands for itself is read as. -/
def Token.ofChar (c : Char) : Token :=
  ⟨c, isEscapable c⟩

theorem tokenize_cons {c : Char} (plain : c ≠ '\\') (rest : List Char)
    : tokenize (c :: rest) = ⟨c, false⟩ :: tokenize rest := by
  cases rest with
  | nil => rfl
  | cons d rest => simp [tokenize, plain]

theorem tokenize_slash (rest : List Char)
    : tokenize ('/' :: rest) = .separator :: tokenize rest :=
  tokenize_cons (by decide) rest

theorem tokenize_escape (c : Char) (rest : List Char)
    : tokenize (escape c ++ rest) = .ofChar c :: tokenize rest := by
  rw [escape, Token.ofChar]
  cases special : isEscapable c with
  | true => simp [tokenize, special]
  | false =>
      have plain : c ≠ '\\' := by
        rintro rfl
        cases special
      exact tokenize_cons plain rest

/-- What is written item by item is read item by item. -/
theorem tokenize_flatMap {α : Type} {text : α → List Char} {token : α → Token}
    (each : ∀ item rest, tokenize (text item ++ rest) = token item :: tokenize rest)
    (items : List α) (rest : List Char)
    : tokenize (items.flatMap text ++ rest) = items.map token ++ tokenize rest := by
  induction items with
  | nil => rfl
  | cons item items ih =>
      rw [List.flatMap_cons, List.append_assoc, each, ih, List.map_cons, List.cons_append]

namespace Token

/-- A special character that stands for itself is escaped. -/
theorem ofChar_ne (c : Char) {special : Char} (escapable : isEscapable special = true)
    : ofChar c ≠ ⟨special, false⟩ := by
  intro same
  obtain ⟨rfl, unescaped⟩ := Token.mk.inj same
  cases escapable.symm.trans unescaped

theorem isWildcard_ofChar (c : Char) : (ofChar c).isWildcard = false := by
  have star : ofChar c ≠ .star := ofChar_ne c (by decide)
  have question : ofChar c ≠ .question := ofChar_ne c (by decide)
  simp [isWildcard, star, question]

theorem slashed_ofChar (c : Char) : (ofChar c).slashed = ofChar c :=
  if_neg (ofChar_ne c (by decide))

end Token

-----------------------------------------------------------------------------------------
-- Items
-----------------------------------------------------------------------------------------

/-- What is meant by one character of a segment. -/
inductive Item where
  /-- The character itself, which is no slash. -/
  | itself (c : Char) (noSlash : c ≠ '/')
  /-- Any run of characters within one path component. -/
  | star
  /-- Any one character within a path component. -/
  | question
deriving DecidableEq, Repr

namespace Item

def symbol : Item → Char
  | .itself c _ => c
  | .star => '*'
  | .question => '?'

def isWildcard : Item → Bool
  | .itself _ _ => false
  | .star => true
  | .question => true

/-- How an item is written. -/
def text : Item → List Char
  | .itself c _ => escape c
  | .star => ['*']
  | .question => ['?']

/-- What an item stands for. -/
def piece : Item → Piece
  | .itself c _ => .char c
  | .star => .run
  | .question => .one

/-- What an item is read as. -/
def token : Item → Token
  | .itself c _ => .ofChar c
  | .star => .star
  | .question => .question

theorem tokenize_text (item : Item) (rest : List Char)
    : tokenize (item.text ++ rest) = item.token :: tokenize rest := by
  cases item with
  | itself c _ => exact tokenize_escape c rest
  | star => exact tokenize_cons (by decide) rest
  | question => exact tokenize_cons (by decide) rest

/-- Written segments are read as the tokens of their items, by induction on the segments. -/
theorem tokenize_segments (segments : List (List Item)) (rest : List Char)
    : tokenize (['/'].intercalate (segments.map (·.flatMap text)) ++ rest)
      = [.separator].intercalate (segments.map (·.map token)) ++ tokenize rest := by
  induction segments with
  | nil => rfl
  | cons segment segments ih =>
      cases segments with
      | nil => simp [tokenize_flatMap tokenize_text]
      | cons next others =>
          simp only [List.map_cons] at ih ⊢
          simp only [List.intercalate_cons_cons, List.append_assoc, List.cons_append,
            List.nil_append, tokenize_flatMap tokenize_text, tokenize_slash, ih]

/-- What is written for an item does not look like a negation. -/
theorem exists_text_eq_cons (item : Item) : ∃ c rest, item.text = c :: rest ∧ c ≠ '!' := by
  cases item with
  | itself c _ =>
      rw [text, escape]
      split
      · exact ⟨'\\', [c], rfl, by decide⟩
      · next ordinary =>
        refine ⟨c, [], rfl, ?_⟩
        rintro rfl
        exact ordinary rfl
  | star => exact ⟨'*', [], rfl, by decide⟩
  | question => exact ⟨'?', [], rfl, by decide⟩

@[simp]
theorem char_token (item : Item) : item.token.char = item.symbol := by
  cases item <;> rfl

@[simp]
theorem isWildcard_token (item : Item) : item.token.isWildcard = item.isWildcard := by
  cases item with
  | itself c _ => exact Token.isWildcard_ofChar c
  | star => rfl
  | question => rfl

@[simp]
theorem piece_token (item : Item) : item.token.piece = item.piece := by
  cases item with
  | itself c _ => exact Token.piece_of_plain (Token.isWildcard_ofChar c)
  | star => rfl
  | question => rfl

@[simp]
theorem slashed_token (item : Item) : item.token.slashed = item.token := by
  cases item with
  | itself c _ => exact Token.slashed_ofChar c
  | star => rfl
  | question => rfl

theorem token_ne_separator (item : Item) : item.token ≠ .separator := by
  cases item with
  | itself c noSlash => exact fun same => noSlash (congrArg Token.char same)
  | star => decide
  | question => decide

theorem token_eq_star_iff (item : Item) : item.token = .star ↔ item = .star := by
  cases item with
  | itself c _ => exact iff_of_false (Token.ofChar_ne c (by decide)) (by simp)
  | star => exact iff_of_true rfl rfl
  | question => decide

/-- What segments stand for. A segment of two stars stands for whole components, and in front of
other segments it owns the slash behind it.
-/
def pieces : List (List Item) → List Piece
  | [] => []
  | [segment] => if segment = [.star, .star] then [.anything] else segment.map Item.piece
  | segment :: rest =>
    (if segment = [.star, .star] then [.directories] else segment.map Item.piece ++ [.char '/'])
      ++ pieces rest

theorem isGlobstar_map_token (segment : List Item)
    : isGlobstar (segment.map Item.token) = decide (segment = [.star, .star]) := by
  rw [isGlobstar, decide_eq_decide]
  constructor
  · intro globstar
    obtain ⟨first, rest, rfl, star, last⟩ := List.map_eq_cons_iff.mp globstar
    obtain ⟨second, rest, rfl, also, last⟩ := List.map_eq_cons_iff.mp last
    rw [first.token_eq_star_iff.mp star, second.token_eq_star_iff.mp also,
      List.map_eq_nil_iff.mp last]
  · rintro rfl
    rfl

theorem segmentPieces_map_token (segments : List (List Item))
    : segmentPieces (segments.map (·.map Item.token)) = pieces segments := by
  induction segments with
  | nil => rfl
  | cons segment rest ih =>
      cases rest with
      | nil => simp [segmentPieces, pieces, isGlobstar_map_token, Function.comp_def]
      | cons next rest =>
          rw [List.map_cons, List.map_cons, segmentPieces, ← List.map_cons, ih]
          · simp [pieces, isGlobstar_map_token, Function.comp_def]
          · simp

end Item

-----------------------------------------------------------------------------------------
-- Drafts
-----------------------------------------------------------------------------------------

/-- What is meant by a line: its marks, and the segments between them. The marks are told apart from
the segments because neither the first nor the last of these is empty.
-/
structure Draft where
  negated : Bool
  anchored : Bool
  dirOnly : Bool
  segments : List (List Item)
  filled : segments ≠ []
  first : segments.head? ≠ some []
  last : segments.getLast? ≠ some []

namespace Draft

/-- The characters that are meant, with a slash between every two segments. -/
def characters (d : Draft) : List Char :=
  ['/'].intercalate (d.segments.map (·.map Item.symbol))

/-- How the segments are written. -/
def text (d : Draft) : List Char :=
  ['/'].intercalate (d.segments.map (·.flatMap Item.text))

/-- How the line is written behind its negation. -/
def marked (d : Draft) : List Char :=
  (if d.anchored then ['/'] else []) ++ d.text ++ if d.dirOnly then ['/'] else []

def line (d : Draft) : String :=
  String.ofList ((if d.negated then ['!'] else []) ++ d.marked)

/-- What the segments are read as. -/
def tokens (d : Draft) : List Token :=
  [.separator].intercalate (d.segments.map (·.map Item.token))

theorem exists_first (d : Draft)
    : ∃ item items others, d.segments = (item :: items) :: others := by
  obtain ⟨segment, others, cut⟩ := List.exists_cons_of_ne_nil d.filled
  obtain ⟨item, items, rfl⟩ := List.exists_cons_of_ne_nil
    (show segment ≠ [] by rintro rfl; exact d.first (by rw [cut, List.head?_cons]))
  exact ⟨item, items, others, cut⟩

theorem exists_last (d : Draft)
    : ∃ others items item, d.segments = others ++ [items ++ [item]] := by
  obtain ⟨others, segment, cut⟩ := List.eq_nil_or_concat d.segments |>.resolve_left d.filled
  rw [List.concat_eq_append] at cut
  obtain ⟨items, item, rfl⟩ := List.eq_nil_or_concat segment |>.resolve_left
    (by rintro rfl; exact d.last (by rw [cut, List.getLast?_concat]))
  exact ⟨others, items, item, by rw [cut, List.concat_eq_append]⟩

theorem exists_tokens_eq_cons (d : Draft)
    : ∃ t rest, d.tokens = t :: rest ∧ t ≠ .separator := by
  obtain ⟨item, items, others, cut⟩ := d.exists_first
  obtain ⟨rest, joined⟩ := exists_intercalate_cons [Token.separator]
    ((item :: items).map Item.token) (others.map (·.map Item.token))
  exact ⟨item.token, _, by rw [tokens, cut, List.map_cons, joined]; rfl, item.token_ne_separator⟩

theorem getLast?_tokens (d : Draft) : d.tokens.getLast? ≠ some .separator := by
  obtain ⟨others, items, item, cut⟩ := d.exists_last
  obtain ⟨before, joined⟩ := exists_intercalate_concat [Token.separator]
    (others.map (·.map Item.token)) ((items ++ [item]).map Item.token)
  rw [tokens, cut, List.map_append, List.map_singleton, joined]
  simpa using item.token_ne_separator

/-- A line that does not negate does not start as if it did. -/
theorem head?_marked (d : Draft) : d.marked.head? ≠ some '!' := by
  obtain ⟨item, items, others, cut⟩ := d.exists_first
  obtain ⟨rest, joined⟩ := exists_intercalate_cons ['/'] ((item :: items).flatMap Item.text)
    (others.map (·.flatMap Item.text))
  obtain ⟨c, more, written, ordinary⟩ := item.exists_text_eq_cons
  rw [marked, text, cut, List.map_cons, joined]
  cases d.anchored <;> simp [written, ordinary]

theorem tokenize_marked (d : Draft)
    : tokenize d.marked = (if d.anchored then [.separator] else [])
      ++ (d.tokens ++ if d.dirOnly then [.separator] else []) := by
  have read : tokenize (d.text ++ if d.dirOnly then ['/'] else [])
      = d.tokens ++ if d.dirOnly then [.separator] else [] := by
    rw [text, Item.tokenize_segments, tokens]
    cases d.dirOnly <;> rfl
  rw [marked, List.append_assoc, ← read]
  cases d.anchored with
  | false => rfl
  | true => exact tokenize_slash _

/-- A draft has no backslash that could be read as a slash. -/
theorem map_slashed_tokens (d : Draft) : d.tokens.map Token.slashed = d.tokens := by
  rw [tokens, map_intercalate, List.map_map]
  simp only [Function.comp_def, List.map_map, Item.slashed_token]
  rfl

theorem segments_tokens (d : Draft)
    : Pattern.segments d.tokens = d.segments.map (·.map Item.token) := by
  refine List.splitOn_intercalate Token.separator ?_ (by simpa using d.filled)
  intro segment member inside
  obtain ⟨items, -, rfl⟩ := List.mem_map.mp member
  obtain ⟨item, -, same⟩ := List.mem_map.mp inside
  exact item.token_ne_separator same

theorem literal_tokens (d : Draft) : literal d.tokens = d.characters := by
  rw [literal, tokens, map_intercalate, List.map_map, characters]
  simp only [Function.comp_def, List.map_map, Item.char_token]
  rfl

theorem any_isWildcard_tokens (d : Draft)
    : d.tokens.any Token.isWildcard = d.segments.flatten.any Item.isWildcard := by
  rw [tokens, any_intercalate (by decide)]
  simp [List.any_flatten, Function.comp_def]

/-- How the rule of the line should recognise paths. -/
def predicate (d : Draft) (baseDir : String) : Predicate :=
  if d.segments.flatten.any Item.isWildcard then
    .regex ⟨anchorFor d.anchored baseDir, Item.pieces d.segments, d.dirOnly⟩
  else .literal ⟨d.characters, anchorFor d.anchored baseDir, d.dirOnly⟩

theorem predicateOf_tokens (d : Draft) (baseDir : String)
    : predicateOf d.tokens d.anchored baseDir d.dirOnly = d.predicate baseDir := by
  rw [predicateOf, regexOf, literalOf, Pattern.pieces, segments_tokens,
    Item.segmentPieces_map_token, literal_tokens, any_isWildcard_tokens]
  rfl

end Draft

end Pattern

-----------------------------------------------------------------------------------------
-- Lines
-----------------------------------------------------------------------------------------

namespace LinePattern

theorem splitDirMark_marked (marked : Bool) {inner : List Token}
    (unmarked : inner.getLast? ≠ some .separator)
    : splitDirMark (inner ++ if marked then [.separator] else []) = (marked, inner) := by
  cases marked with
  | false => simp [splitDirMark, unmarked]
  | true => simp [splitDirMark]

theorem splitAnchorMark_marked (marked : Bool) {inner : List Token}
    (unmarked : inner.head? ≠ some .separator)
    : splitAnchorMark ((if marked then [.separator] else []) ++ inner) = (marked, inner) := by
  cases marked with
  | true => simp [splitAnchorMark]
  | false =>
      cases inner with
      | nil => rfl
      | cons t rest => simpa [splitAnchorMark] using unmarked

/-- A separator at the end is taken off what a list ends with. -/
theorem splitDirMark_append (front : List Token) {tokens : List Token} (some : tokens ≠ [])
    : splitDirMark (front ++ tokens)
      = ((splitDirMark tokens).1, front ++ (splitDirMark tokens).2) := by
  obtain ⟨others, t, rfl⟩ := List.eq_nil_or_concat tokens |>.resolve_left some
  rw [List.concat_eq_append, ← List.append_assoc, splitDirMark, splitDirMark, List.getLast?_concat,
    List.getLast?_concat, List.dropLast_concat, List.dropLast_concat, List.append_assoc]
  split <;> rfl

/-- What a draft means is read off the line. Witness: the marks at both ends are taken off one by
one, and what is left starts and ends with an item, which is no mark.
-/
theorem ofLine_line (d : Draft)
    : ofLine d.line.toList = ⟨d.negated, d.anchored, d.dirOnly, d.tokens⟩ := by
  have read : ofLine d.line.toList
      = ⟨d.negated, (splitAnchorMark (splitDirMark (tokenize d.marked)).2).1,
        (splitDirMark (tokenize d.marked)).1,
        (splitAnchorMark (splitDirMark (tokenize d.marked)).2).2.map Token.slashed⟩ := by
    rw [Draft.line, String.toList_ofList]
    cases d.negated with
    | true => rfl
    | false =>
        rw [if_neg (by decide), List.nil_append, ofLine]
        intro rest negated
        exact d.head?_marked (negated ▸ rfl)
  obtain ⟨t, rest, first, ordinary⟩ := d.exists_tokens_eq_cons
  have filled : d.tokens ++ (if d.dirOnly then [Token.separator] else []) ≠ [] := by
    simp [first]
  have head : d.tokens.head? ≠ some .separator := by
    rw [first]
    simpa using ordinary
  rw [read, d.tokenize_marked, splitDirMark_append _ filled,
    splitDirMark_marked _ d.getLast?_tokens, splitAnchorMark_marked _ head, d.map_slashed_tokens]

end LinePattern

/-- Compiling what was written for a draft gives what was meant: its marks, its characters, and a
predicate in which only the wildcards of the draft are wildcards.
-/
theorem Rule.compile_line (d : Draft) (baseDir source : String)
    : compile d.line baseDir source
      = some {
          pattern := String.ofList d.characters
          negated := d.negated
          dirOnly := d.dirOnly
          anchored := d.anchored
          baseDir
          predicate := d.predicate baseDir
          source
        } := by
  obtain ⟨t, rest, first, -⟩ := d.exists_tokens_eq_cons
  have filled : d.tokens ≠ [] := first ▸ List.cons_ne_nil t rest
  rw [compile, LinePattern.ofLine_line, if_neg filled, d.literal_tokens, d.predicateOf_tokens]

/-- A draft with characters that would be a mark, a slash or a wildcard if they were not escaped. -/
def Pattern.Draft.ofSpecials : Draft where
  negated := true
  anchored := true
  dirOnly := true
  segments := [[.itself '!' (by decide), .star], [], [.star, .star],
    [.itself '\\' (by decide), .itself '*' (by decide), .question]]
  filled := by decide
  first := by decide
  last := by decide

/-- Only the wildcards of the draft are wildcards of the rule, and only its two stars a globstar. -/
theorem Rule.compile_line_specials
    : compile "!/\\!*//**/\\\\\\*?/" "pkg" "specials"
      = some {
          pattern := "!*//**/\\*?"
          negated := true
          dirOnly := true
          anchored := true
          baseDir := "pkg"
          predicate := .regex ⟨some "pkg/", [.char '!', .run, .char '/', .char '/', .directories,
            .char '\\', .char '*', .one], true⟩
          source := "specials"
        } := by
  have line : Draft.ofSpecials.line = "!/\\!*//**/\\\\\\*?/" := by decide +kernel
  rw [← line, compile_line]
  decide +kernel

end DirMarkers
