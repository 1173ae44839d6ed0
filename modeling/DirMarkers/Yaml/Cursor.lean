import DirMarkers.Yaml.Error

/-!
A place in the text of a document, and the classes of characters that matter for its layout. The
character NUL, which no document holds, stands for the end of the text.
-/

namespace DirMarkers.Yaml

/-- Whether a document may hold a character. -/
def isAllowed (c : Char) : Bool :=
  let n := c.toNat
  n = 0x09 || n = 0x0A || n = 0x0D || (0x20 ≤ n && n ≤ 0x7E) || n = 0x85
    || (0xA0 ≤ n && n ≤ 0xD7FF) || (0xE000 ≤ n && n ≤ 0xFFFD) || 0x10000 ≤ n

/-- A character that ends a line. Carriage returns were turned into line feeds before. -/
def isBreak (c : Char) : Bool :=
  c = '\n' || c = '\u0085' || c = '\u2028' || c = '\u2029'

/-- The end of the text, or of a line. -/
def isLineEnd (c : Char) : Bool :=
  c = '\x00' || isBreak c

def isBlank (c : Char) : Bool :=
  c = ' ' || c = '\t'

/-- A space, or the end of a line. -/
def isSpaceOrEnd (c : Char) : Bool :=
  c = ' ' || isLineEnd c

/-- A blank, or the end of a line. -/
def isBlankOrEnd (c : Char) : Bool :=
  isBlank c || isLineEnd c

/-- How a line break is kept in a scalar: the separators of Unicode as they are, any other as a
line feed.
-/
def keptBreak (c : Char) : Char :=
  if c = '\u0085' then '\n' else c

/-- Letters, digits, hyphens and underscores, of which names are made. -/
def isNameChar (c : Char) : Bool :=
  c.isAlphanum || c = '-' || c = '_'

def isHexDigit (c : Char) : Bool :=
  c.isDigit || ('a' ≤ c && c ≤ 'f') || ('A' ≤ c && c ≤ 'F')

def hexValue (c : Char) : Nat :=
  if c.isDigit then c.toNat - '0'.toNat
  else if 'a' ≤ c then c.toNat - 'a'.toNat + 10
  else c.toNat - 'A'.toNat + 10

def hexNumber (digits : List Char) : Nat :=
  digits.foldl (fun n c => n * 16 + hexValue c) 0

/-- The characters that are left, and where the next of them stands. -/
structure Cursor where
  rest : List Char
  index : Nat
  line : Nat
  column : Nat
deriving Repr

namespace Cursor

def start (text : List Char) : Cursor :=
  ⟨text, 0, 0, 0⟩

def first (cs : List Char) : Char :=
  cs.headD '\x00'

/-- The next character, or the one so many places further on. -/
def peek (c : Cursor) (ahead : Nat := 0) : Char :=
  first (c.rest.drop ahead)

/-- Passes one character. A byte order mark takes no column. -/
def next (c : Cursor) : Cursor :=
  match c.rest with
  | [] => c
  | char :: rest =>
    if isBreak char then ⟨rest, c.index + 1, c.line + 1, 0⟩
    else ⟨rest, c.index + 1, c.line, if char = '\uFEFF' then c.column else c.column + 1⟩

def skip (c : Cursor) : Nat → Cursor
  | 0 => c
  | n + 1 => c.next.skip n

/-- Passes characters until only the given ones are left. -/
def skipTo (c : Cursor) (rest : List Char) : Cursor :=
  c.skip (c.rest.length - rest.length)

/-- Passes all characters of a class, and gives them back. -/
def span (c : Cursor) (p : Char → Bool) : List Char × Cursor :=
  let taken := c.rest.takeWhile p
  (taken, c.skip taken.length)

def skipWhile (c : Cursor) (p : Char → Bool) : Cursor :=
  (c.span p).2

/-- Passes a line break, if one is next. -/
def skipBreak (c : Cursor) : Cursor :=
  if isBreak c.peek then c.next else c

/-- Passes spaces and a comment, up to the end of the line. -/
def skipComment (c : Cursor) : Cursor :=
  let c := c.skipWhile (· = ' ')
  if c.peek = '#' then c.skipWhile (!isLineEnd ·) else c

def stop {α : Type} (c : Cursor) (cause : Malformation) : Except Stop α :=
  stopAt c.rest cause

/-- Passes the rest of a line that may hold nothing but a comment. -/
def finishLine (c : Cursor) (cause : Malformation) : Except Stop Cursor :=
  let c := c.skipComment
  if isLineEnd c.peek then .ok c.skipBreak else c.stop cause

end Cursor

/-- Whether the text starts with a marker of three characters that stands alone. -/
def startsMarker (marker : Char) : List Char → Bool
  | a :: b :: c :: rest =>
    a = marker && b = marker && c = marker && isBlankOrEnd (Cursor.first rest)
  | _ => false

/-- Whether a document starts or ends here, at the start of a line. -/
def startsSeparator (text : List Char) : Bool :=
  startsMarker '-' text || startsMarker '.' text

end DirMarkers.Yaml
