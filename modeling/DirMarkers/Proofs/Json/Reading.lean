import DirMarkers.Json.Printer
import DirMarkers.Proofs.Json.Reader
import Mathlib.Data.List.Basic

/-!
What is written as JSON is read as what was written. No text of a value goes on with what may come
after it, so each part is read to its end and no further.
-/

namespace DirMarkers.Json

-----------------------------------------------------------------------------------------
-- Strings
-----------------------------------------------------------------------------------------

/-- A character is escaped by a letter or by its number, or it stands for itself. -/
theorem escape_cases (c : Char)
    : (∃ letter, escape c = ['\\', letter] ∧ escaped? letter = some c)
      ∨ (c.toNat < 0x20 ∧ escape c = '\\' :: 'u' :: Text.hexDigits 4 c.toNat)
      ∨ ((c ≠ '"' ∧ c ≠ '\\' ∧ ¬ c.toNat < 0x20) ∧ escape c = [c]) := by
  by_cases short : c ∈ ['"', '\\', '\x08', '\t', '\n', '\x0c', '\r']
  · simp only [List.mem_cons, List.not_mem_nil, or_false] at short
    rcases short with rfl | rfl | rfl | rfl | rfl | rfl | rfl <;> exact .inl ⟨_, rfl, rfl⟩
  · simp only [List.mem_cons, List.not_mem_nil, or_false, not_or] at short
    by_cases control : c.toNat < 0x20
    · simp [escape, short, control]
    · simp [escape, short, control]

section

variable {rest after : List Char} {pieces : List Piece}
  (read : readPieces rest = some (pieces, after))

include read

/-- A letter that escapes a character is read as that character. -/
theorem readPieces_short {letter c : Char} (meant : escaped? letter = some c)
    : readPieces ('\\' :: letter :: rest) = some (.char c :: pieces, after) := by
  have notUnit : letter ≠ 'u' := by
    rintro rfl
    cases meant
  rw [readPieces.eq_def]
  simp [notUnit, meant, read]

/-- A control character that is written by its number is read as that number. -/
theorem readPieces_unit {n : Nat} (control : n < 0x20)
    : readPieces ('\\' :: 'u' :: (Text.hexDigits 4 n ++ rest)) = some (.unit n :: pieces, after) := by
  have written : ∀ n < 0x20, (Text.hexDigits 4 n).length = 4
      ∧ hexNumber? (Text.hexDigits 4 n) = some n := by decide
  obtain ⟨four, number⟩ := written n control
  match digits : Text.hexDigits 4 n, four with
  | [a, b, c, d], _ =>
      rw [digits] at number
      simp [readPieces, number, read]

/-- A character that stands for itself is read as itself. -/
theorem readPieces_plain {c : Char} (notQuote : c ≠ '"') (notSlash : c ≠ '\\')
    (noControl : ¬ c.toNat < 0x20)
    : readPieces (c :: rest) = some (.char c :: pieces, after) := by
  rw [readPieces.eq_def]
  simp [notSlash, noControl, read]

/-- What is written for a character is read as one piece, which stands for the character. -/
theorem readPieces_escape (c : Char)
    : ∃ piece, readPieces (escape c ++ rest) = some (piece :: pieces, after)
      ∧ joinPieces (piece :: pieces) = (joinPieces pieces).map (c :: ·) := by
  rcases escape_cases c with ⟨letter, written, meant⟩ | ⟨control, written⟩ | ⟨plain, written⟩
  · rw [written]
    exact ⟨.char c, readPieces_short read meant, rfl⟩
  · rw [written]
    refine ⟨.unit c.toNat, readPieces_unit read control, ?_⟩
    have noSurrogate : c.toNat < 0xD800 := by omega
    rw [joinPieces.eq_def]
    simp [noSurrogate]
  · rw [written]
    exact ⟨.char c, readPieces_plain read plain.1 plain.2.1 plain.2.2, rfl⟩

end

/-- A text that is written between quotes is read as that text, by induction on its characters. -/
theorem readString_escape (s : String) (rest : List Char)
    : readString (s.toList.flatMap escape ++ '"' :: rest) = some (s, rest) := by
  have written (cs : List Char)
      : ∃ pieces, readPieces (cs.flatMap escape ++ '"' :: rest) = some (pieces, rest)
        ∧ joinPieces pieces = some cs := by
    induction cs with
    | nil => exact ⟨[], rfl, rfl⟩
    | cons c cs ih =>
        obtain ⟨pieces, read, joined⟩ := ih
        obtain ⟨piece, first, stands⟩ := readPieces_escape read c
        rw [List.flatMap_cons, List.append_assoc]
        exact ⟨piece :: pieces, first, by rw [stands, joined]; rfl⟩
  obtain ⟨pieces, read, joined⟩ := written s.toList
  simp [readString, read, joined]

-----------------------------------------------------------------------------------------
-- Numbers
-----------------------------------------------------------------------------------------

/-- What follows a number does not go on with it. -/
def EndsNumber (rest : List Char) : Prop :=
  ∀ c ∈ rest.head?, c.isDigit = false ∧ c ≠ '.' ∧ c ≠ 'e' ∧ c ≠ 'E'

/-- Digits are read up to what is no digit. -/
theorem readDigits_append {digits rest : List Char} (filled : digits ≠ [])
    (all : ∀ c ∈ digits, c.isDigit = true) (ends : EndsNumber rest)
    : readDigits (digits ++ rest) = some (digits, rest) := by
  have stop : rest.takeWhile Char.isDigit = [] ∧ rest.dropWhile Char.isDigit = rest := by
    cases rest with
    | nil => exact ⟨rfl, rfl⟩
    | cons c _ => simp [(ends c rfl).1]
  have front : (digits ++ rest).takeWhile Char.isDigit = digits := by
    rw [List.takeWhile_append_of_pos all, stop.1, List.append_nil]
  rw [readDigits, front, List.dropWhile_append_of_pos all, stop.2]
  cases digits with
  | nil => exact absurd rfl filled
  | cons _ _ => rfl

/-- Only the number zero is written with a zero in first place, by induction on the number. -/
theorem toDigits_head {n : Nat} {rest : List Char} (written : Nat.toDigits 10 n = '0' :: rest)
    : n = 0 := by
  induction n using Nat.strongRecOn generalizing rest with
  | ind n ih =>
      rw [Nat.toDigits_eq_if (by decide)] at written
      split at written
      · obtain ⟨zero, _⟩ := List.cons.inj written
        exact Nat.digitChar_eq_zero.mp zero
      · next large =>
        cases front : Nat.toDigits 10 (n / 10) with
        | nil => exact absurd front Nat.toDigits_ne_nil
        | cons first others =>
            rw [front] at written
            obtain ⟨rfl, _⟩ := List.cons.inj written
            have none := ih (n / 10) (by omega) front
            omega

/-- The text of a whole number begins with a digit. -/
theorem exists_digit (n : Nat)
    : ∃ first others, Nat.toDigits 10 n = first :: others ∧ first.isDigit = true := by
  cases written : Nat.toDigits 10 n with
  | nil => exact absurd written Nat.toDigits_ne_nil
  | cons first others =>
      have member : first ∈ Nat.toDigits 10 n := by simp [written]
      exact ⟨first, others, rfl, Nat.isDigit_of_mem_toDigits (by decide) (by decide) member⟩

/-- All digits of a whole number are read, since only zero begins with the digit zero. -/
theorem readWhole_toDigits (n : Nat) {rest : List Char} (ends : EndsNumber rest)
    : readWhole (Nat.toDigits 10 n ++ rest) = some (Nat.toDigits 10 n, rest) := by
  rw [readWhole.eq_def]
  split
  · next after same =>
    obtain ⟨first, others, written, _⟩ := exists_digit n
    rw [written] at same
    obtain ⟨rfl, _⟩ := List.cons.inj same
    obtain rfl := toDigits_head written
    cases written
    cases same
    rfl
  · refine readDigits_append Nat.toDigits_ne_nil ?_ ends
    exact fun c => Nat.isDigit_of_mem_toDigits (by decide) (by decide)

/-- A whole number is read as that number if it does not go on. -/
theorem readPlain_toDigits (n : Nat) {rest : List Char} (ends : EndsNumber rest)
    : readPlain (Nat.toDigits 10 n ++ rest) = some (.number n 0, rest) := by
  have fraction : readFraction rest = some ([], rest) := by
    cases rest with
    | nil => rfl
    | cons c others =>
        obtain ⟨_, noPoint, _⟩ := ends c rfl
        simp [readFraction, noPoint]
  have exponent : readExponent rest = some (0, rest) := by
    cases rest with
    | nil => rfl
    | cons c others =>
        obtain ⟨_, _, lower, upper⟩ := ends c rfl
        simp [readExponent, lower, upper]
  have unsigned : readUnsigned false (Nat.toDigits 10 n ++ rest) = some (.number n 0, rest) := by
    simp [readUnsigned, readWhole_toDigits n ends, fraction, exponent, signed,
      Nat.ofDigitChars_ten_toDigits]
  obtain ⟨first, others, written, digit⟩ := exists_digit n
  rw [← unsigned, written, List.cons_append, readPlain.eq_def]
  split
  all_goals first
    | rfl
    | next same =>
      obtain ⟨rfl, _⟩ := List.cons.inj same
      exact absurd digit (by decide)

-----------------------------------------------------------------------------------------
-- What is to be read
-----------------------------------------------------------------------------------------

mutual

/-- What the text of a value is to be read as. -/
def datum : Json → Datum
  | .bool b => .bool b
  | .number n => .number n 0
  | .string s => .string s
  | .array items => .array (itemData items)
  | .object fields => .object (fieldData fields)

def itemData : List Json → List Datum
  | [] => []
  | item :: rest => datum item :: itemData rest

def fieldData : List (String × Json) → List (String × Datum)
  | [] => []
  | (key, value) :: rest => (key, datum value) :: fieldData rest

end

theorem itemData_eq (items : List Json) : itemData items = items.map datum := by
  induction items with
  | nil => rfl
  | cons item rest ih => rw [itemData, ih, List.map_cons]

-----------------------------------------------------------------------------------------
-- The layout of values
-----------------------------------------------------------------------------------------

/-- The text of a value begins with neither a blank nor a bracket that ends an array. -/
theorem render_head (level : Nat) (json : Json)
    : ∃ c cs, render level json = c :: cs ∧ isBlank c = false ∧ c ≠ ']' := by
  cases json with
  | bool b => cases b <;> exact ⟨_, _, rfl, rfl, by decide⟩
  | string s => exact ⟨_, _, rfl, rfl, by decide⟩
  | array items => cases items <;> exact ⟨_, _, rfl, rfl, by decide⟩
  | object fields => cases fields <;> exact ⟨_, _, rfl, rfl, by decide⟩
  | number n =>
      obtain ⟨first, others, written, digit⟩ := exists_digit n
      refine ⟨first, others, by rw [render, written], ?_, ?_⟩
      · refine Bool.eq_false_iff.mpr fun blank => ?_
        simp only [isBlank, Bool.or_eq_true, decide_eq_true_iff] at blank
        rcases blank with ((rfl | rfl) | rfl) | rfl <;> exact absurd digit (by decide)
      · rintro rfl
        exact absurd digit (by decide)

theorem skipBlanks_of_head {c : Char} (solid : isBlank c = false) (cs : List Char)
    : skipBlanks (c :: cs) = c :: cs := by
  simp [skipBlanks, solid]

/-- A new line and the blanks at its start are passed over. -/
theorem skipBlanks_newline (level : Nat) (rest : List Char)
    : skipBlanks (newline level ++ rest) = skipBlanks rest := by
  refine List.dropWhile_append_of_pos fun c member => ?_
  rcases List.mem_cons.mp member with rfl | inside
  · rfl
  · rw [List.eq_of_mem_replicate inside]
    rfl

/-- What stands before a value on its line is passed over up to the value. -/
theorem skipBlanks_render (level : Nat) (json : Json) (rest : List Char)
    : skipBlanks (render level json ++ rest) = render level json ++ rest := by
  obtain ⟨c, cs, written, solid, _⟩ := render_head level json
  rw [written, List.cons_append, skipBlanks_of_head solid]

/-- No number goes on with a comma or a new line. -/
theorem endsNumber_cons {c : Char} (apart : c = ',' ∨ c = '\n') (rest : List Char)
    : EndsNumber (c :: rest) := by
  intro other head
  obtain rfl := Option.some.inj head
  rcases apart with rfl | rfl <;> decide

theorem endsNumber_items (level outer : Nat) (items : List Json) (rest : List Char)
    : EndsNumber (renderItems level items ++ (newline outer ++ rest)) := by
  cases items with
  | nil => exact endsNumber_cons (.inr rfl) _
  | cons item more =>
      rw [renderItems]
      exact endsNumber_cons (.inl rfl) _

theorem endsNumber_fields (level outer : Nat) (fields : List (String × Json)) (rest : List Char)
    : EndsNumber (renderFields level fields ++ (newline outer ++ rest)) := by
  cases fields with
  | nil => exact endsNumber_cons (.inr rfl) _
  | cons field more =>
      rw [renderFields]
      exact endsNumber_cons (.inl rfl) _

-----------------------------------------------------------------------------------------
-- Arrays, objects and their parts
-----------------------------------------------------------------------------------------

section

variable {levels : Nat} {cs between rest : List Char}

/-- An array is read item by item. -/
theorem readValue_array {item : Datum} {items : List Datum}
    (notEmpty : ∀ after, skipBlanks cs ≠ ']' :: after)
    (first : readValue levels (skipBlanks cs) = some (item, between))
    (later : readItems levels (skipBlanks between) = some (items, rest))
    : readValue (levels + 1) ('[' :: cs) = some (.array (item :: items), rest) := by
  simp [readValue, first, later]

theorem readItems_comma {item : Datum} {items : List Datum}
    (first : readValue levels (skipBlanks cs) = some (item, between))
    (later : readItems levels (skipBlanks between) = some (items, rest))
    : readItems (levels + 1) (',' :: cs) = some (item :: items, rest) := by
  simp [readItems, first, later]

/-- An object is read field by field. -/
theorem readValue_object {field : String × Datum} {fields : List (String × Datum)}
    (notEmpty : ∀ after, skipBlanks cs ≠ '\x7d' :: after)
    (first : readField levels (skipBlanks cs) = some (field, between))
    (later : readFields levels (skipBlanks between) = some (fields, rest))
    : readValue (levels + 1) ('\x7b' :: cs) = some (.object (field :: fields), rest) := by
  simp [readValue, first, later]

theorem readFields_comma {field : String × Datum} {fields : List (String × Datum)}
    (first : readField levels (skipBlanks cs) = some (field, between))
    (later : readFields levels (skipBlanks between) = some (fields, rest))
    : readFields (levels + 1) (',' :: cs) = some (field :: fields, rest) := by
  simp [readFields, first, later]

/-- A field is read with its key and its value. -/
theorem readField_quoted {key : String} {value : Datum}
    (read : readValue levels (skipBlanks cs) = some (value, rest))
    : readField (levels + 1) (quoted key ++ (": ".toList ++ cs)) = some ((key, value), rest) := by
  have named := readString_escape key (':' :: ' ' :: cs)
  have colon : skipBlanks (':' :: ' ' :: cs) = ':' :: ' ' :: cs := skipBlanks_of_head rfl _
  have blank : skipBlanks (' ' :: cs) = skipBlanks cs := rfl
  have written : quoted key ++ (": ".toList ++ cs)
      = '"' :: (key.toList.flatMap escape ++ '"' :: ':' :: ' ' :: cs) := by
    simp [quoted]
  rw [written]
  simp [readField, named, colon, blank, read]

/-- A whole number is a value. -/
theorem readValue_number (n : Nat) (ends : EndsNumber rest)
    : readValue (levels + 1) (Nat.toDigits 10 n ++ rest) = some (.number n 0, rest) := by
  obtain ⟨first, others, written, digit⟩ := exists_digit n
  rw [← readPlain_toDigits n ends, written, List.cons_append]
  simp only [readValue]
  split
  all_goals first
    | rfl
    | next same =>
      obtain ⟨rfl, _⟩ := List.cons.inj same
      exact absurd digit (by decide)

/-- A value on a line of its own is read as it is read without the line. -/
theorem readValue_line {level : Nat} {json : Json} {item : Datum}
    (read : readValue levels (render level json ++ rest) = some (item, rest))
    : readValue levels (skipBlanks (newline level ++ (render level json ++ rest)))
      = some (item, rest) := by
  rw [skipBlanks_newline, skipBlanks_render, read]

theorem skipBlanks_quoted (level : Nat) (key : String)
    : skipBlanks (newline level ++ (quoted key ++ rest)) = quoted key ++ rest := by
  rw [skipBlanks_newline]
  rfl

/-- A field on a line of its own is read if its value is. -/
theorem readField_line {level : Nat} {key : String} {json : Json} {value : Datum}
    (read : readValue levels (render level json ++ rest) = some (value, rest))
    : readField (levels + 1) (skipBlanks
        (newline level ++ (quoted key ++ (": ".toList ++ (render level json ++ rest)))))
      = some ((key, value), rest) := by
  rw [skipBlanks_quoted]
  refine readField_quoted ?_
  rw [skipBlanks_render, read]

end

mutual

/-- The text of a value is read as that value, whatever comes after it if that is not to go on with
a number. Witness: recursion on the value, along with its items and its fields.
-/
theorem readValue_render (json : Json) (level levels : Nat) (rest : List Char)
    (enough : (render level json).length ≤ levels) (ends : EndsNumber rest)
    : readValue levels (render level json ++ rest) = some (datum json, rest) := by
  cases levels with
  | zero =>
      obtain ⟨c, cs, written, _⟩ := render_head level json
      simp [written] at enough
  | succ levels =>
      match json, enough with
      | .bool true, _ => rfl
      | .bool false, _ => rfl
      | .number n, _ => exact readValue_number n ends
      | .string s, _ =>
          have written : render level (.string s) ++ rest
              = '"' :: (s.toList.flatMap escape ++ '"' :: rest) := by
            simp [render, quoted]
          rw [written]
          simp [readValue, readString_escape, datum]
      | .array [], _ => rfl
      | .object [], _ => rfl
      | .array (item :: more), enough =>
          have written : render level (.array (item :: more)) ++ rest
              = '[' :: (newline (level + 1) ++ (render (level + 1) item
                ++ (renderItems (level + 1) more ++ (newline level ++ ']' :: rest)))) := by
            simp [render]
          have lengths := congrArg List.length written
          simp only [List.length_append, List.length_cons] at lengths
          rw [written]
          refine readValue_array (fun after same => ?_) (readValue_line ?_) ?_
          · obtain ⟨c, cs, begun, _, notEnd⟩ := render_head (level + 1) item
            rw [skipBlanks_newline, skipBlanks_render, begun] at same
            exact notEnd (List.cons.inj same).1
          · exact readValue_render item (level + 1) levels _ (by omega) (endsNumber_items _ _ _ _)
          · exact readItems_render more (level + 1) level levels rest (by omega)
      | .object ((key, value) :: more), enough =>
          have written : render level (.object ((key, value) :: more)) ++ rest
              = '\x7b' :: (newline (level + 1) ++ (quoted key ++ (": ".toList
                ++ (render (level + 1) value
                  ++ (renderFields (level + 1) more ++ (newline level ++ '\x7d' :: rest)))))) := by
            simp [render]
          have lengths := congrArg List.length written
          simp only [List.length_append, List.length_cons] at lengths
          rw [written]
          cases levels with
          | zero => omega
          | succ levels =>
              refine readValue_object (fun after same => ?_) (readField_line ?_) ?_
              · rw [skipBlanks_quoted] at same
                exact absurd (List.cons.inj same).1 (by decide)
              · exact readValue_render value (level + 1) levels _ (by omega)
                  (endsNumber_fields _ _ _ _)
              · exact readFields_render more (level + 1) level (levels + 1) rest (by omega)

theorem readItems_render (items : List Json) (level outer levels : Nat) (rest : List Char)
    (enough : (renderItems level items).length < levels)
    : readItems levels (skipBlanks (renderItems level items ++ (newline outer ++ ']' :: rest)))
      = some (itemData items, rest) := by
  cases levels with
  | zero => omega
  | succ levels =>
      match items, enough with
      | [], _ =>
          rw [renderItems, List.nil_append, skipBlanks_newline]
          rfl
      | item :: more, enough =>
          have written : renderItems level (item :: more) ++ (newline outer ++ ']' :: rest)
              = ',' :: (newline level ++ (render level item
                ++ (renderItems level more ++ (newline outer ++ ']' :: rest)))) := by
            simp [renderItems]
          have lengths := congrArg List.length written
          simp only [List.length_append, List.length_cons] at lengths
          rw [written, skipBlanks_of_head rfl]
          refine readItems_comma (readValue_line ?_) ?_
          · exact readValue_render item level levels _ (by omega) (endsNumber_items _ _ _ _)
          · exact readItems_render more level outer levels rest (by omega)

theorem readFields_render (fields : List (String × Json)) (level outer levels : Nat)
    (rest : List Char) (enough : (renderFields level fields).length < levels)
    : readFields levels
        (skipBlanks (renderFields level fields ++ (newline outer ++ '\x7d' :: rest)))
      = some (fieldData fields, rest) := by
  cases levels with
  | zero => omega
  | succ levels =>
      match fields, enough with
      | [], _ =>
          rw [renderFields, List.nil_append, skipBlanks_newline]
          rfl
      | (key, value) :: more, enough =>
          have written : renderFields level ((key, value) :: more)
                ++ (newline outer ++ '\x7d' :: rest)
              = ',' :: (newline level ++ (quoted key ++ (": ".toList ++ (render level value
                ++ (renderFields level more ++ (newline outer ++ '\x7d' :: rest)))))) := by
            simp [renderFields]
          have lengths := congrArg List.length written
          simp only [List.length_append, List.length_cons] at lengths
          rw [written, skipBlanks_of_head rfl]
          cases levels with
          | zero => omega
          | succ levels =>
              refine readFields_comma (readField_line ?_) ?_
              · exact readValue_render value level levels _ (by omega) (endsNumber_fields _ _ _ _)
              · exact readFields_render more level outer (levels + 1) rest (by omega)

end

/-- The text of a JSON value is read as that value. -/
theorem read_text (json : Json) : read json.text = some (datum json) := by
  have ends : EndsNumber [] := fun c head => nomatch head
  have whole := readValue_render json 0 ((render 0 json).length + 1) []
    (Nat.le_succ _) ends
  rw [List.append_nil] at whole
  have front : skipBlanks (render 0 json) = render 0 json := by
    simpa using skipBlanks_render 0 json []
  have last : skipBlanks [] = [] := rfl
  simp [read, text, front, whole, last]

end DirMarkers.Json
