import DirMarkers.Yaml.Cursor

/-!
The text of scalars in their five styles. Each function starts behind the indicator of its style
and gives back the text and the place behind the scalar.
-/

namespace DirMarkers.Yaml

/-- Folds the line breaks between two lines: a single line feed becomes a space, and of several
breaks the first is dropped.
-/
def foldBreaks (first : Char) (more : List Char) : List Char :=
  if first != '\n' then first :: more
  else if more = [] then [' ']
  else more

-----------------------------------------------------------------------------------------
-- Lines
-----------------------------------------------------------------------------------------

/-- Where the last line of some lines starts, if there are several. -/
def lastLine? (text : List Char) : Option Nat :=
  let last := (text.reverse.takeWhile (!isBreak ·)).length
  if last = text.length then none else some (text.length - last)

/-- How far one looks at the start of a line to see whether a document starts or ends there. -/
def separatorReach (line : List Char) : Nat :=
  match line with
  | a :: b :: c :: _ => if (a = '-' || a = '.') && b = a && c = a then 3 else 2
  | _ => 2

/-- How far one looks for a quoted or plain scalar that takes so many characters: on each new line
one looks whether the document ends there.
-/
def lineReach (text : List Char) (passed : Nat) : Nat :=
  match lastLine? (text.take passed) with
  | some start => max passed (start + separatorReach (text.drop start))
  | none => passed

-----------------------------------------------------------------------------------------
-- Quoted scalars
-----------------------------------------------------------------------------------------

/-- The line breaks inside a quoted scalar, with the blanks between them dropped. -/
def quotedBreaks (fuel : Nat) (text : List Char) : Except Stop (List Char × List Char) :=
  match fuel with
  | 0 => .ok ([], text)
  | fuel + 1 =>
    if startsSeparator text then stopAt text .unclosedScalar
    else
      match text.dropWhile isBlank with
      | [] => .ok ([], [])
      | c :: rest =>
        if isBreak c then
          (quotedBreaks fuel rest).map fun (breaks, rest) => (keptBreak c :: breaks, rest)
        else .ok ([], c :: rest)

/-- The character that a letter stands for behind a backslash. -/
def escaped? (c : Char) : Option Char :=
  match c with
  | '0' => some '\x00'
  | 'a' => some '\x07'
  | 'b' => some '\x08'
  | 't' | '\t' => some '\t'
  | 'n' => some '\n'
  | 'v' => some '\x0b'
  | 'f' => some '\x0c'
  | 'r' => some '\r'
  | 'e' => some '\x1b'
  | ' ' => some ' '
  | '"' => some '"'
  | '\\' => some '\\'
  | '/' => some '/'
  | 'N' => some '\u0085'
  | '_' => some '\u00a0'
  | 'L' => some '\u2028'
  | 'P' => some '\u2029'
  | _ => none

/-- How many hexadecimal digits follow a letter behind a backslash. -/
def escapeDigits? (c : Char) : Option Nat :=
  match c with
  | 'x' => some 2
  | 'u' => some 4
  | 'U' => some 8
  | _ => none

/-- The character with a number. Half of a surrogate pair is no character: what stands for it is
the one for a character that is missing.
-/
def numberedChar (n : Nat) : Char :=
  if n.isValidChar then Char.ofNat n else '\ufffd'

/-- What an escape sequence stands for, from behind its backslash. -/
def escapeSequence (fuel : Nat) : List Char → Except Stop (List Char × List Char)
  | [] => stopAt [] .escapeSequence
  | c :: rest =>
    match escaped? c, escapeDigits? c with
    | some char, _ => .ok ([char], rest)
    | none, some count =>
      let digits := (rest.take count).takeWhile isHexDigit
      if digits.length < count then stopAt (rest.drop digits.length) .escapeSequence
      else
        let n := hexNumber digits
        if 0x7FFFFFFF < n then .error ⟨rest.length, .scalar .characterNumber⟩
        else if 0x10FFFF < n then .error ⟨rest.length, .scalar .character⟩
        else .ok ([numberedChar n], rest.drop count)
    | none, none =>
      if isBreak c then quotedBreaks fuel rest else stopAt (c :: rest) .escapeSequence

/-- The text of a quoted scalar up to its closing quote. -/
def quotedText (double : Bool) (fuel : Nat) (text : List Char)
    : Except Stop (List Char × List Char) :=
  match fuel, text with
  | 0, _ | _, [] => stopAt [] .unclosedScalar
  | fuel + 1, c :: rest =>
    let continueWith := fun (chars rest : List Char) =>
      (quotedText double fuel rest).map fun (more, rest) => (chars ++ more, rest)
    if c = '"' && double then .ok ([], rest)
    else if c = '\'' && !double then
      match rest with
      | '\'' :: rest => continueWith ['\''] rest
      | rest => .ok ([], rest)
    else if c = '\\' && double then
      match escapeSequence fuel rest with
      | .ok (chars, rest) => continueWith chars rest
      | .error e => .error e
    else if isBlank c || isBreak c then
      let blanks := text.takeWhile isBlank
      match text.dropWhile isBlank with
      | [] => stopAt [] .unclosedScalar
      | d :: rest =>
        if isBreak d then
          match quotedBreaks fuel rest with
          | .ok (breaks, rest) => continueWith (foldBreaks (keptBreak d) breaks) rest
          | .error e => .error e
        else continueWith blanks (d :: rest)
    else continueWith [c] rest

def quotedScalar (c : Cursor) : Except Stop (String × Cursor) :=
  let body := c.rest.drop 1
  match quotedText (c.peek = '"') (body.length + 1) body with
  | .ok (text, rest) => .ok (String.ofList text, c.skipTo rest)
  | .error e => .error e

-----------------------------------------------------------------------------------------
-- Block scalars
-----------------------------------------------------------------------------------------

/-- What becomes of the line breaks at the end of a block scalar. -/
inductive Chomping where
  | strip
  | clip
  | keep
deriving DecidableEq, Repr

/-- How a sign asks for the line breaks at the end. -/
def chompingOf? (c : Char) : Option Chomping :=
  match c with
  | '-' => some .strip
  | '+' => some .keep
  | _ => none

/-- The header of a block scalar: a sign and a digit for the indentation, in either order. -/
def blockHeader (c : Cursor) : Except Stop (Chomping × Option Nat × Cursor) :=
  let (sign, digit, after) :=
    match chompingOf? c.peek with
    | some sign =>
      if (c.peek 1).isDigit then (some sign, some (c.peek 1), c.skip 2)
      else (some sign, none, c.next)
    | none =>
      if c.peek.isDigit then
        match chompingOf? (c.peek 1) with
        | some sign => (some sign, some c.peek, c.skip 2)
        | none => (none, some c.peek, c.next)
      else (none, none, c)
  let increment := digit.map hexValue
  if increment = some 0 then c.stop .blockHeader
  else if !isSpaceOrEnd after.peek then after.stop .blockHeader
  else (after.finishLine .blockHeader).map fun after => (sign.getD .clip, increment, after)

def skipIndent (column : Nat) (c : Cursor) : Cursor :=
  let spaces := (c.rest.takeWhile (· = ' ')).length
  c.skip (min spaces (column - c.column))

/-- The empty lines in front of a block scalar, and the furthest column that their spaces reach. -/
def blockIndent (fuel : Nat) (widest : Nat) (c : Cursor) : List Char × Nat × Cursor :=
  match fuel with
  | 0 => ([], widest, c)
  | fuel + 1 =>
    let c := c.skipWhile (· = ' ')
    let widest := max widest c.column
    if isBreak c.peek then
      let (breaks, widest, after) := blockIndent fuel widest c.next
      (keptBreak c.peek :: breaks, widest, after)
    else ([], widest, c)

def blockBreaks (fuel : Nat) (indent : Nat) (c : Cursor) : List Char × Cursor :=
  match fuel with
  | 0 => ([], c)
  | fuel + 1 =>
    let c := skipIndent indent c
    if isBreak c.peek then
      let (breaks, after) := blockBreaks fuel indent c.next
      (keptBreak c.peek :: breaks, after)
    else ([], c)

/-- The lines of a block scalar, after the given empty lines. Lines that start with a blank are
not folded.
-/
def blockLines (folded : Bool) (chomping : Chomping) (indent : Nat) (fuel : Nat)
    (breaks : List Char) (c : Cursor) : List Char × Cursor :=
  match fuel with
  | 0 => ([], c)
  | fuel + 1 =>
    let flush := !isBlank c.peek
    let (line, c) := c.span (!isLineEnd ·)
    let lineBreak := if isBreak c.peek then [keptBreak c.peek] else []
    let (more, after) := blockBreaks (c.rest.length + 1) indent c.skipBreak
    if after.column = indent && after.peek != '\x00' then
      let joint :=
        if folded && lineBreak = ['\n'] && flush && !isBlank after.peek then
          (if more = [] then [' '] else [])
        else lineBreak
      let (text, last) := blockLines folded chomping indent fuel more after
      (breaks ++ line ++ joint ++ text, last)
    else
      let tail := match chomping with
        | .strip => []
        | .clip => lineBreak
        | .keep => lineBreak ++ more
      (breaks ++ line ++ tail, after)

/-- A block scalar, from its indicator, inside a collection of the given indentation. -/
def blockScalar (outer : Int) (c : Cursor) : Except Stop (String × Cursor) :=
  match blockHeader c.next with
  | .error e => .error e
  | .ok (chomping, increment, start) =>
    let fuel := start.rest.length + 1
    let least := max (outer + 1).toNat 1
    let (breaks, indent, body) := match increment with
      | some n =>
        let indent := least + n - 1
        let (breaks, body) := blockBreaks fuel indent start
        (breaks, indent, body)
      | none =>
        let (breaks, widest, body) := blockIndent fuel 0 start
        (breaks, max least widest, body)
    if body.column = indent && body.peek != '\x00' then
      let (text, after) := blockLines (c.peek = '>') chomping indent fuel breaks body
      .ok (String.ofList text, after)
    else
      let text := if chomping = .keep then breaks else []
      .ok (String.ofList text, body)

-----------------------------------------------------------------------------------------
-- Plain scalars
-----------------------------------------------------------------------------------------

/-- Whether a plain scalar goes on with the first of some characters. -/
def continuesPlain (inFlow : Bool) (c : Char) (rest : List Char) : Bool :=
  let after := Cursor.first rest
  !isBlankOrEnd c
    && !(c = ':' && (isBlankOrEnd after || (inFlow && ",[]\x7b\x7d".toList.contains after)))
    && !(inFlow && ",?[]\x7b\x7d".toList.contains c)

/-- The characters of a plain scalar up to a blank or its end. -/
def plainWord (inFlow : Bool) : List Char → List Char
  | [] => []
  | c :: rest => if continuesPlain inFlow c rest then c :: plainWord inFlow rest else []

/-- The line breaks between the lines of a plain scalar, unless a document ends among them. -/
def plainBreaks (fuel : Nat) (c : Cursor) : Option (List Char) × Cursor :=
  match fuel with
  | 0 => (some [], c)
  | fuel + 1 =>
    if startsSeparator c.rest then (none, c)
    else
      let c := c.skipWhile (· = ' ')
      if isBreak c.peek then
        let (breaks, after) := plainBreaks fuel c.next
        (breaks.map (keptBreak c.peek :: ·), after)
      else (some [], c)

/-- What lies between two words of a plain scalar, and whether it holds a line break. Nothing lies
there when the scalar ends.
-/
def plainGap (c : Cursor) : List Char × Bool × Cursor :=
  let (spaces, after) := c.span (· = ' ')
  if isBreak after.peek then
    let (breaks, last) := plainBreaks (after.rest.length + 1) after.next
    ((breaks.map (foldBreaks (keptBreak after.peek))).getD [], true, last)
  else (spaces, false, after)

/-- A plain scalar after the given gap, and whether a line break was passed behind its last word.
The scalar ends where a comment starts, and outside flow collections where the indentation does.
-/
def plainText (inFlow : Bool) (indent : Int) (fuel : Nat) (gap : List Char) (broken : Bool)
    (c : Cursor) : List Char × Bool × Cursor :=
  match fuel with
  | 0 => ([], broken, c)
  | fuel + 1 =>
    let word := plainWord inFlow c.rest
    if c.peek = '#' || word = [] then ([], broken, c)
    else
      let (next, broken, after) := plainGap (c.skip word.length)
      if next = [] || after.peek = '#' || (!inFlow && Int.ofNat after.column < indent) then
        (gap ++ word, broken, after)
      else
        let (text, broken, last) := plainText inFlow indent fuel next broken after
        (gap ++ word ++ text, broken, last)

/-- A plain scalar inside a collection of the given indentation. -/
def plainScalar (inFlow : Bool) (outer : Int) (c : Cursor) : String × Bool × Cursor :=
  let (text, broken, after) := plainText inFlow (outer + 1) (c.rest.length + 1) [] false c
  (String.ofList text, broken, after)

end DirMarkers.Yaml
