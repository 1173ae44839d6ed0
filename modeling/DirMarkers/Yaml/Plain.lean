import DirMarkers.Yaml.Cursor

/-!
The types of plain scalars: which texts spell truth values, numbers, dates and nothing at all when
they stand without quotes.
-/

namespace DirMarkers.Yaml

/-- The types that the text of a scalar can have. -/
inductive ScalarType where
  | null
  | bool
  | int
  | float
  | timestamp
  | string
  | bytes
  /-- The key that merges a mapping into its own. -/
  | merge
  /-- The key of a default value. -/
  | default
  /-- An indicator as a text. -/
  | indicator
deriving DecidableEq, Repr

/-- A text without the line feed at its end, if it has one: that is no part of what it spells. -/
def spelling (text : List Char) : List Char :=
  if text.getLast? = some '\n' then text.dropLast else text

/-- Words in three spellings: small, with a capital, and in capitals. -/
def spellings (words : List String) : List (List Char) :=
  words.flatMap fun word =>
    let cs := word.toList
    [cs, (cs.take 1).map Char.toUpper ++ cs.drop 1, cs.map Char.toUpper]

/-- The words that are truth values. -/
def truthWords : List String :=
  ["yes", "no", "true", "false", "on", "off"]

def unsigned : List Char → List Char
  | '-' :: rest | '+' :: rest => rest
  | text => text

/-- Whether a list is not empty and holds only characters of a class. -/
def isRunOf (p : Char → Bool) (text : List Char) : Bool :=
  text != [] && text.all p

/-- Digits and underscores. -/
def isDigitOrGap (c : Char) : Bool :=
  c.isDigit || c = '_'

/-- A digit, and then digits and underscores. -/
def isDigits : List Char → Bool
  | [] => false
  | c :: rest => c.isDigit && rest.all isDigitOrGap

/-- A number below sixty, of one or two digits. -/
def isSixtieth : List Char → Bool
  | [a] => a.isDigit
  | [a, b] => '0' ≤ a && a ≤ '5' && b.isDigit
  | _ => false

/-- Whether a text spells a whole number: binary, octal, decimal, hexadecimal, or with digits to
the base sixty between colons.
-/
def isInt (text : List Char) : Bool :=
  match unsigned text with
  | [] => false
  | ['0'] => true
  | '0' :: 'b' :: rest => isRunOf (fun c => c = '0' || c = '1' || c = '_') rest
  | '0' :: 'x' :: rest => isRunOf (fun c => isHexDigit c || c = '_') rest
  | '0' :: rest => isRunOf (fun c => ('0' ≤ c && c ≤ '7') || c = '_') rest
  | digits =>
    match digits.splitOn ':' with
    | first :: rest => isDigits first && first.head? != some '0' && rest.all isSixtieth
    | [] => false

/-- Whether a text is the exponent of a number, which needs a sign, or nothing. -/
def isExponent : List Char → Bool
  | [] => true
  | e :: sign :: digits => (e = 'e' || e = 'E') && (sign = '-' || sign = '+')
      && isRunOf Char.isDigit digits
  | _ => false

/-- Whether a text spells a number with a point. -/
def isFloat (text : List Char) : Bool :=
  let number := unsigned text
  let whole := number.takeWhile (· != '.')
  match number.dropWhile (· != '.') with
  | [] => false
  | _ :: rest =>
    let exponent := rest.dropWhile isDigitOrGap
    let infinite := (spellings ["inf"]).contains rest && whole = []
    let notANumber := ["nan", "NaN", "NAN"].contains (String.ofList rest) && whole = []
      && number = text
    let pointed := isDigits whole && isExponent exponent
    let fraction := whole = [] && number = text && isDigits (rest.takeWhile isDigitOrGap)
      && isExponent exponent
    let sixtieths := match whole.splitOn ':' with
      | first :: second :: more => isDigits first && (second :: more).all isSixtieth
          && rest.all isDigitOrGap
      | _ => false
    infinite || notANumber || pointed || fraction || sixtieths

/-- Splits off digits, at least one and at most so many. -/
def takeDigits? (most : Nat) (text : List Char) : Option (List Char × List Char) :=
  let digits := (text.takeWhile Char.isDigit).take most
  if digits = [] then none else some (digits, text.drop digits.length)

def twoDigits? : List Char → Option (List Char × List Char)
  | a :: b :: rest => if a.isDigit && b.isDigit then some ([a, b], rest) else none
  | _ => none

def passChar? (c : Char) : List Char → Option (List Char)
  | d :: rest => if c = d then some rest else none
  | [] => none

/-- The zone of a timestamp: none, universal time, or a sign, hours and minutes. -/
inductive ZoneText where
  | none
  | universal
  | offset (ahead : Bool) (hours minutes : List Char)
deriving DecidableEq, Repr

/-- The parts of a timestamp, as they are written. -/
structure TimestampText where
  year : List Char
  month : List Char
  day : List Char
  /-- Hour, minute, second and fraction. -/
  clock : Option (List Char × List Char × List Char × List Char)
  zone : ZoneText
deriving DecidableEq, Repr

/-- The zone at the end of a timestamp, after blanks. -/
def zoneText? (text : List Char) : Option ZoneText :=
  match text.dropWhile isBlank with
  | [] => if text = [] then some .none else Option.none
  | ['Z'] => some .universal
  | sign :: rest =>
    if sign = '-' || sign = '+' then do
      let (hours, rest) ← takeDigits? 2 rest
      match rest with
      | [] => some (.offset (sign = '+') hours [])
      | rest =>
        let (minutes, rest) ← twoDigits? (← passChar? ':' rest)
        if rest = [] then some (.offset (sign = '+') hours minutes) else Option.none
    else Option.none

/-- The time of day of a timestamp, and its zone. -/
def clockText? (text : List Char)
    : Option ((List Char × List Char × List Char × List Char) × ZoneText) := do
  let (hour, rest) ← takeDigits? 2 text
  let (minute, rest) ← twoDigits? (← passChar? ':' rest)
  let (second, rest) ← twoDigits? (← passChar? ':' rest)
  let (fraction, rest) := match rest with
    | '.' :: rest => (rest.takeWhile Char.isDigit, rest.dropWhile Char.isDigit)
    | rest => ([], rest)
  let zone ← zoneText? rest
  some ((hour, minute, second, fraction), zone)

/-- The parts of a timestamp: a date, and a time of day behind a letter T or blanks. -/
def timestampText? (text : List Char) : Option TimestampText := do
  let (century, rest) ← twoDigits? text
  let (year, rest) ← twoDigits? rest
  let (month, rest) ← takeDigits? 2 (← passChar? '-' rest)
  let (day, rest) ← takeDigits? 2 (← passChar? '-' rest)
  let date := fun clock zone => some (⟨century ++ year, month, day, clock, zone⟩ : TimestampText)
  match rest with
  | [] => date none .none
  | c :: after =>
    let (clock, zone) ←
      if c = 'T' || c = 't' then clockText? after
      else if isBlank c then clockText? (after.dropWhile isBlank)
      else none
    date (some clock) zone

/-- Whether a text spells a timestamp; a date alone needs two digits for month and day. -/
def isTimestamp (text : List Char) : Bool :=
  match timestampText? text with
  | some parts => parts.clock.isSome || (parts.month.length = 2 && parts.day.length = 2)
  | none => false

def spelledType (text : List Char) : ScalarType :=
  if (spellings truthWords).contains text then .bool
  else if isFloat text then .float
  else if isInt text then .int
  else if text = ['<', '<'] then .merge
  else if text = ['~'] || (spellings ["null"]).contains text then .null
  else if isTimestamp text then .timestamp
  else if text = ['='] then .default
  else if text = ['!'] || text = ['&'] || text = ['*'] then .indicator
  else .string

def plainType (text : List Char) : ScalarType :=
  if text = [] then .null else spelledType (spelling text)

end DirMarkers.Yaml
