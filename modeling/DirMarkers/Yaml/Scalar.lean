import DirMarkers.Text.Blank
import DirMarkers.Text.Digit
import DirMarkers.Text.Lower
import DirMarkers.Yaml.Atom
import DirMarkers.Yaml.Plain

/-!
The values of scalars. A type that is named by a tag meets any text, so every reader here says what
it makes of texts that no plain scalar of its type could have.
-/

namespace DirMarkers.Yaml

-----------------------------------------------------------------------------------------
-- Whole numbers
-----------------------------------------------------------------------------------------

/-- The value of a digit to any base up to thirty-six. -/
def digitOf? (c : Char) : Option Nat :=
  match Text.digitValue? c with
  | some d => some d
  | none =>
    let lower := c.toLower
    if 'a' ≤ lower && lower ≤ 'z' then some (lower.toNat - 'a'.toNat + 10) else none

def baseLetter? (base : Nat) : Option Char :=
  match base with
  | 2 => some 'b'
  | 8 => some 'o'
  | 16 => some 'x'
  | _ => none

/-- Drops a zero of any script and the letter of the base. -/
def dropBase (base : Nat) : List Char → List Char
  | zero :: letter :: rest =>
    if Text.digitValue? zero = some 0 && some letter.toLower = baseLetter? base then rest
    else zero :: letter :: rest
  | text => text

/-- The blanks that may stand around a number: those of Unicode, but not the information
separators.
-/
def isNumberBlank (c : Char) : Bool :=
  Text.isBlank c && !(0x1C ≤ c.toNat && c.toNat ≤ 0x1F)

def trimNumber (text : List Char) : List Char :=
  ((text.dropWhile isNumberBlank).reverse.dropWhile isNumberBlank).reverse

def splitSign : List Char → Bool × List Char
  | '-' :: rest => (true, rest)
  | '+' :: rest => (false, rest)
  | text => (false, text)

def signed (negative : Bool) (n : Int) : Int :=
  if negative then -n else n

/-- The digits to a base at the start of a text. -/
def leadingDigits (base : Nat) : List Char → List Nat
  | [] => []
  | c :: rest =>
    match digitOf? c with
    | some d => if d < base then d :: leadingDigits base rest else []
    | none => []

/-- Reads a whole number to a base, with blanks around it and a sign. To a base that is no power of
two it may not have too many digits, whatever follows them.
-/
def readInt (base : Nat) (text : List Char) : Except ScalarFault Int :=
  let (negative, rest) := splitSign (trimNumber text)
  let body := dropBase base rest
  let digits := leadingDigits base body
  if base = 10 && Text.digitLimit < digits.length then .error (.integerLength digits.length)
  else if digits = [] || digits.length < body.length then
    .error (.integer base (String.ofList text))
  else .ok (signed negative (Int.ofNat (digits.foldl (fun n d => n * base + d) 0)))

/-- The number whose digits to the base sixty are given. -/
def sixtieths (digits : List Int) : Int :=
  digits.foldl (fun n d => n * 60 + d) 0

/-- The whole number that a text spells. Underscores are dropped, a leading zero asks for octal
digits, and colons stand between digits to the base sixty.
-/
def intOf (text : List Char) : Except ScalarFault Int :=
  let text := text.filter (· != '_')
  let (negative, digits) := splitSign text
  let value : Except ScalarFault Int :=
    match digits with
    | [] => .error .emptyNumber
    | ['0'] => .ok 0
    | '0' :: 'b' :: rest => readInt 2 rest
    | '0' :: 'x' :: rest => readInt 16 rest
    | '0' :: rest => readInt 8 ('0' :: rest)
    | digits =>
      if digits.contains ':' then ((digits.splitOn ':').mapM (readInt 10)).map sixtieths
      else readInt 10 digits
  value.map (signed negative)

-----------------------------------------------------------------------------------------
-- Other numbers
-----------------------------------------------------------------------------------------

/-- The number with the given decimal digits and exponent. Exponents that lead beyond all binary
numbers are not raised to a power.
-/
def floatOfDigits (digits : Nat) (exponent : Int) : Float :=
  let size : Int := (Nat.toDigits 10 digits).length
  if digits = 0 || size + exponent < -400 then 0.0
  else if 400 < size + exponent then 1.0 / 0.0
  else if exponent < 0 then Float.ofScientific digits true exponent.natAbs
  else Float.ofScientific digits false exponent.natAbs

def decimalNumber (digits : List Nat) : Nat :=
  digits.foldl (fun n d => n * 10 + d) 0

def spanDigits : List Char → List Nat × List Char
  | [] => ([], [])
  | c :: rest =>
    match Text.digitValue? c with
    | some d =>
      let (digits, rest) := spanDigits rest
      (d :: digits, rest)
    | none => ([], c :: rest)

/-- The exponent at the end of a number: none, or a letter, a sign and digits. -/
def exponent? : List Char → Option Int
  | [] => some 0
  | 'e' :: rest =>
    let (negative, rest) := splitSign rest
    match spanDigits rest with
    | ([], _) => none
    | (digits, []) => some (signed negative (Int.ofNat (decimalNumber digits)))
    | _ => none
  | _ => none

def unsignedFloat? (text : List Char) : Option Float :=
  if text = "inf".toList || text = "infinity".toList then some (1.0 / 0.0)
  else if text = "nan".toList then some (0.0 / 0.0)
  else
    let (whole, rest) := spanDigits text
    let (fraction, rest) := match rest with
      | '.' :: rest => spanDigits rest
      | rest => ([], rest)
    if whole = [] && fraction = [] then none
    else (exponent? rest).map fun exponent =>
      floatOfDigits (decimalNumber (whole ++ fraction)) (exponent - Int.ofNat fraction.length)

def signedFloat (negative : Bool) (x : Float) : Float :=
  if negative then -x else x

/-- Reads a number in small letters, with blanks around it and a sign. -/
def readFloat (text : List Char) : Except ScalarFault Float :=
  let (negative, rest) := splitSign (trimNumber text)
  match unsignedFloat? rest with
  | some x => .ok (signedFloat negative x)
  | none => .error (.number (String.ofList text))

/-- The number whose digits to the base sixty are given from the last one on, added to a sum. The
worth of every digit has to be a binary number.
-/
def floatSixtieths (sum : Float) (worth : Nat) : List Float → Except ScalarFault Float
  | [] => .ok sum
  | d :: rest =>
    if (Float.ofNat worth).isInf then .error .sixtieths
    else floatSixtieths (sum + d * Float.ofNat worth) (worth * 60) rest

def nanName : List Char :=
  ".nan".toList

def floatOf (text : List Char) : Except ScalarFault Float :=
  let text := Text.lower (text.filter (· != '_'))
  let (negative, digits) := splitSign text
  let value : Except ScalarFault Float :=
    if text = [] then .error .emptyNumber
    else if digits = ".inf".toList then .ok (1.0 / 0.0)
    else if digits = nanName then .ok (0.0 / 0.0)
    else if digits.contains ':' then
      ((digits.splitOn ':').mapM readFloat).bind fun digits => floatSixtieths 0.0 1 digits.reverse
    else readFloat digits
  value.map (signedFloat negative)

/-- The atom of the number that a text spells. What is no number comes from the given origin, unless
it is named.
-/
def floatAtom (origin : Nat) (text : List Char) : Except ScalarFault Atom :=
  let isNamed := unsigned (Text.lower (text.filter (· != '_'))) = nanName
  (floatOf text).map fun x => if x.isNaN then .nan (if isNamed then 0 else origin) else .float x

-----------------------------------------------------------------------------------------
-- Timestamps
-----------------------------------------------------------------------------------------

def number (digits : List Char) : Nat :=
  digits.foldl (fun n c => n * 10 + hexValue c) 0

/-- The microseconds of a fraction of a second; further digits are dropped. -/
def microseconds (fraction : List Char) : Nat :=
  let digits := fraction.take 6
  number digits * Decimal.tenTo (6 - digits.length)

/-- The seconds by which a zone is ahead of universal time. -/
def zoneSeconds : ZoneText → Option Int
  | .none => none
  | .universal => some 0
  | .offset ahead hours minutes =>
    some (signed (!ahead) (Int.ofNat (number hours * 3600 + number minutes * 60)))

/-- The date or moment that a text spells. -/
def timestampOf (text : List Char) : Except ScalarFault Atom :=
  match timestampText? (spelling text) with
  | none => .error .timestamp
  | some parts =>
    let year := number parts.year
    let month := number parts.month
    let day := number parts.day
    match parts.clock with
    | none =>
      match Calendar.Date.ofParts year month day with
      | .ok date => .ok (.date date)
      | .error fault => .error (.calendar fault)
    | some (hour, minute, second, fraction) =>
      match Calendar.Moment.ofParts year month day (number hour) (number minute) (number second)
        (microseconds fraction) (zoneSeconds parts.zone) with
      | .ok moment => .ok (.moment moment)
      | .error fault => .error (.calendar fault)

-----------------------------------------------------------------------------------------
-- Truth values and bytes
-----------------------------------------------------------------------------------------

/-- The truth value that a word names in any mixture of letters. -/
def truthOf (text : List Char) : Except ScalarFault Bool :=
  let word := String.ofList (Text.lower text)
  if ["yes", "true", "on"].contains word then .ok true
  else if ["no", "false", "off"].contains word then .ok false
  else .error (.truthWord word)

/-- The six bits that a character stands for. -/
def sixBits? (c : Char) : Option Nat :=
  if 'A' ≤ c && c ≤ 'Z' then some (c.toNat - 'A'.toNat)
  else if 'a' ≤ c && c ≤ 'z' then some (c.toNat - 'a'.toNat + 26)
  else if c.isDigit then some (c.toNat - '0'.toNat + 52)
  else if c = '+' then some 62
  else if c = '/' then some 63
  else none

/-- Reads bytes of six bits a character. Other characters are passed over; equals signs in a row
end the text where they fill up a group of four.
-/
def bytesFrom (place left pads : Nat) : List Char → Option (List UInt8)
  | [] => if place = 0 then some [] else none
  | c :: rest =>
    if c = '=' then
      if 2 ≤ place && 4 ≤ place + pads + 1 then some []
      else bytesFrom place left (if 2 ≤ place then pads + 1 else pads) rest
    else
      match sixBits? c with
      | none => bytesFrom place left pads rest
      | some bits =>
        match place with
        | 0 => bytesFrom 1 bits 0 rest
        | 1 => (bytesFrom 2 (bits % 16) 0 rest).map (UInt8.ofNat (left * 4 + bits / 16) :: ·)
        | 2 => (bytesFrom 3 (bits % 4) 0 rest).map (UInt8.ofNat (left * 16 + bits / 4) :: ·)
        | _ => (bytesFrom 0 0 0 rest).map (UInt8.ofNat (left * 64 + bits) :: ·)

/-- The bytes that a text spells, which has to be ASCII. -/
def bytesOf? (text : List Char) : Option (List UInt8) :=
  if text.all (·.toNat < 0x80) then bytesFrom 0 0 0 text else none

-----------------------------------------------------------------------------------------
-- All types
-----------------------------------------------------------------------------------------

/-- The atom that a scalar of a type and origin stands for. -/
def scalarAtom (origin : Nat) (type : ScalarType) (text : String) : Except Error Atom :=
  let chars := text.toList
  let ofScalar := fun (atom : Except ScalarFault Atom) => atom.mapError Error.scalar
  match type with
  | .null => .ok .null
  | .bool => ofScalar ((truthOf chars).map .bool)
  | .int => ofScalar ((intOf chars).map .int)
  | .float => ofScalar (floatAtom origin chars)
  | .timestamp => ofScalar (timestampOf chars)
  | .string => .ok (.string text)
  | .bytes =>
    match bytesOf? chars with
    | some content => .ok (.bytes content)
    | none => .error (.malformed .binaryText)
  | .merge | .default | .indicator => .error (.malformed .unknownType)

end DirMarkers.Yaml
