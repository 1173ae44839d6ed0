/-!
Reading JSON: the whole language as its standard defines it, and nothing else. A text is read from
the left, and each reader gives what it has read together with the characters after it.
-/

namespace DirMarkers.Json

/-- Whatever a JSON text can say. A number is a whole number times a power of ten. -/
inductive Datum where
  | null
  | bool (b : Bool)
  | number (mantissa exponent : Int)
  | string (s : String)
  | array (items : List Datum)
  | object (fields : List (String × Datum))
deriving Inhabited

/-- The value of a field of an object. Of several fields with one name, the last one counts. -/
def Datum.field? (name : String) : Datum → Option Datum
  | .object fields => fields.reverse.lookup name
  | _ => none

-----------------------------------------------------------------------------------------
-- Blanks
-----------------------------------------------------------------------------------------

/-- What may stand between any two tokens. -/
def isBlank (c : Char) : Bool :=
  c = ' ' || c = '\t' || c = '\n' || c = '\r'

def skipBlanks (cs : List Char) : List Char :=
  cs.dropWhile isBlank

-----------------------------------------------------------------------------------------
-- Strings
-----------------------------------------------------------------------------------------

def hexValue? (c : Char) : Option Nat :=
  if c.isDigit then some (c.toNat - '0'.toNat)
  else if 'a' ≤ c ∧ c ≤ 'f' then some (c.toNat - 'a'.toNat + 10)
  else if 'A' ≤ c ∧ c ≤ 'F' then some (c.toNat - 'A'.toNat + 10)
  else none

/-- The number that some hexadecimal digits of either case write. -/
def hexNumber? (digits : List Char) : Option Nat :=
  digits.foldlM (fun n c => (hexValue? c).map (16 * n + ·)) 0

/-- A piece of a string: a character, or a unit of UTF-16 that is given by its number. -/
inductive Piece where
  | char (c : Char)
  | unit (n : Nat)
deriving DecidableEq, Repr

/-- The character that is meant by an escape of one letter. -/
def escaped? : Char → Option Char
  | '"' => some '"'
  | '\\' => some '\\'
  | '/' => some '/'
  | 'b' => some '\x08'
  | 'f' => some '\x0c'
  | 'n' => some '\n'
  | 'r' => some '\r'
  | 't' => some '\t'
  | _ => none

/-- The pieces of a string up to the quote that ends it. No control character may stand there. -/
def readPieces : List Char → Option (List Piece × List Char)
  | [] => none
  | '"' :: rest => some ([], rest)
  | '\\' :: 'u' :: a :: b :: c :: d :: rest => do
    let unit ← hexNumber? [a, b, c, d]
    let (pieces, rest) ← readPieces rest
    return (.unit unit :: pieces, rest)
  | '\\' :: c :: rest => do
    let escaped ← escaped? c
    let (pieces, rest) ← readPieces rest
    return (.char escaped :: pieces, rest)
  | c :: rest =>
    if c = '\\' || c.toNat < 0x20 then none
    else do
      let (pieces, rest) ← readPieces rest
      return (.char c :: pieces, rest)

/-- The characters that some pieces stand for. Half of a surrogate pair stands for none. -/
def joinPieces : List Piece → Option (List Char)
  | [] => some []
  | .char c :: rest => (joinPieces rest).map (c :: ·)
  | .unit n :: rest =>
    if n < 0xD800 || 0xDFFF < n then (joinPieces rest).map (Char.ofNat n :: ·)
    else
      match rest with
      | .unit low :: rest =>
        if n < 0xDC00 && 0xDC00 ≤ low && low ≤ 0xDFFF then
          (joinPieces rest).map (Char.ofNat (0x10000 + (n - 0xD800) * 0x400 + (low - 0xDC00)) :: ·)
        else none
      | _ => none

/-- A string after the quote that begins it. -/
def readString (cs : List Char) : Option (String × List Char) := do
  let (pieces, rest) ← readPieces cs
  let chars ← joinPieces pieces
  return (String.ofList chars, rest)

-----------------------------------------------------------------------------------------
-- Numbers
-----------------------------------------------------------------------------------------

/-- One digit or more. -/
def readDigits (cs : List Char) : Option (List Char × List Char) :=
  match cs.takeWhile Char.isDigit with
  | [] => none
  | digits => some (digits, cs.dropWhile Char.isDigit)

/-- The digits of a whole number. After a zero in first place there are no more of them. -/
def readWhole : List Char → Option (List Char × List Char)
  | '0' :: rest => some (['0'], rest)
  | cs => readDigits cs

/-- The digits after a point, if there is one. -/
def readFraction : List Char → Option (List Char × List Char)
  | '.' :: rest => readDigits rest
  | cs => some ([], cs)

def signed (negative : Bool) (n : Nat) : Int :=
  if negative then -n else n

def readSign : List Char → Bool × List Char
  | '-' :: rest => (true, rest)
  | '+' :: rest => (false, rest)
  | cs => (false, cs)

/-- The power of ten after a letter e of either case, if there is one. -/
def readExponent : List Char → Option (Int × List Char)
  | [] => some (0, [])
  | c :: rest =>
    if c = 'e' || c = 'E' then do
      let (negative, rest) := readSign rest
      let (digits, rest) ← readDigits rest
      return (signed negative (Nat.ofDigitChars 10 digits 0), rest)
    else some (0, c :: rest)

/-- A number without its sign. -/
def readUnsigned (negative : Bool) (cs : List Char) : Option (Datum × List Char) := do
  let (whole, cs) ← readWhole cs
  let (fraction, cs) ← readFraction cs
  let (exponent, cs) ← readExponent cs
  let mantissa := signed negative (Nat.ofDigitChars 10 (whole ++ fraction) 0)
  return (.number mantissa (exponent - fraction.length), cs)

-----------------------------------------------------------------------------------------
-- Values
-----------------------------------------------------------------------------------------

/-- A value that has no parts and is no string: one of three words, or a number. -/
def readPlain : List Char → Option (Datum × List Char)
  | 'n' :: 'u' :: 'l' :: 'l' :: rest => some (.null, rest)
  | 't' :: 'r' :: 'u' :: 'e' :: rest => some (.bool true, rest)
  | 'f' :: 'a' :: 'l' :: 's' :: 'e' :: rest => some (.bool false, rest)
  | '-' :: rest => readUnsigned true rest
  | cs => readUnsigned false cs

mutual

/-- A value in first place. Each level of the recursion passes at least one of the characters, so as
many levels as there are characters are enough.
-/
def readValue : Nat → List Char → Option (Datum × List Char)
  | 0, _ => none
  | levels + 1, cs =>
    match cs with
    | '"' :: rest => do
      let (s, rest) ← readString rest
      return (.string s, rest)
    | '[' :: rest =>
      match skipBlanks rest with
      | ']' :: rest => some (.array [], rest)
      | rest => do
        let (item, rest) ← readValue levels rest
        let (items, rest) ← readItems levels (skipBlanks rest)
        return (.array (item :: items), rest)
    | '\x7b' :: rest =>
      match skipBlanks rest with
      | '\x7d' :: rest => some (.object [], rest)
      | rest => do
        let (field, rest) ← readField levels rest
        let (fields, rest) ← readFields levels (skipBlanks rest)
        return (.object (field :: fields), rest)
    | cs => readPlain cs

/-- The items of an array after the first, each behind a comma, and the end of the array. -/
def readItems : Nat → List Char → Option (List Datum × List Char)
  | 0, _ => none
  | levels + 1, cs =>
    match cs with
    | ']' :: rest => some ([], rest)
    | ',' :: rest => do
      let (item, rest) ← readValue levels (skipBlanks rest)
      let (items, rest) ← readItems levels (skipBlanks rest)
      return (item :: items, rest)
    | _ => none

/-- A field of an object: a string, a colon and a value. -/
def readField : Nat → List Char → Option ((String × Datum) × List Char)
  | 0, _ => none
  | levels + 1, cs =>
    match cs with
    | '"' :: rest => do
      let (key, rest) ← readString rest
      match skipBlanks rest with
      | ':' :: rest =>
        let (value, rest) ← readValue levels (skipBlanks rest)
        return ((key, value), rest)
      | _ => none
    | _ => none

/-- The fields of an object after the first, each behind a comma, and the end of the object. -/
def readFields : Nat → List Char → Option (List (String × Datum) × List Char)
  | 0, _ => none
  | levels + 1, cs =>
    match cs with
    | '\x7d' :: rest => some ([], rest)
    | ',' :: rest => do
      let (field, rest) ← readField levels (skipBlanks rest)
      let (fields, rest) ← readFields levels (skipBlanks rest)
      return (field :: fields, rest)
    | _ => none

end

/-- Reads a text that is one value, with nothing but blanks around it. -/
def read (text : String) : Option Datum := do
  let (datum, rest) ← readValue (text.toList.length + 1) (skipBlanks text.toList)
  if skipBlanks rest = [] then some datum else none

end DirMarkers.Json
