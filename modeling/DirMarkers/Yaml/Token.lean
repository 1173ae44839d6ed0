import DirMarkers.Text.Digit
import DirMarkers.Yaml.Cursor

/-!
Tokens of a document, and the text of those that are written with a mark: anchors, aliases, tags and
directives.
-/

namespace DirMarkers.Yaml

/-- A token. -/
inductive Token where
  /-- The version that a document asks for. -/
  | version (major : Nat)
  /-- A handle, and the start of the tags that it stands for. -/
  | tagHandle (handle start : String)
  | otherDirective
  | documentStart
  | documentEnd
  | blockSequence
  | blockMapping
  | blockEnd
  | flowSequence
  | flowSequenceEnd
  | flowMapping
  | flowMappingEnd
  | flowEntry
  | blockEntry
  | key
  | value
  | alias (name : String)
  | anchor (name : String)
  /-- A tag, after its handle if it has one. -/
  | tag (handle : Option String) (suffix : String)
  | scalar (plain : Bool) (text : String)
deriving DecidableEq, Repr

-----------------------------------------------------------------------------------------
-- Names and tags
-----------------------------------------------------------------------------------------

/-- The name of an anchor or alias, from its indicator. -/
def anchorName (c : Cursor) : Except Stop (String × Cursor) :=
  let (name, after) := c.next.span isNameChar
  let ends := isBlankOrEnd after.peek || "?:,]\x7d%@\x60".toList.contains after.peek
  if name = [] || !ends then after.stop .anchorName
  else .ok (String.ofList name, after)

/-- The handle of a tag: an exclamation mark, or a name between two. A mark alone in front of a
space is a handle too.
-/
def tagHandle (c : Cursor) : Except Stop (String × Cursor) :=
  if c.peek != '!' then c.stop .tagName
  else if c.peek 1 = ' ' then .ok ("!", c.next)
  else
    let (name, after) := c.next.span isNameChar
    if after.peek = '!' then .ok (String.ofList ('!' :: name ++ ['!']), after.next)
    else after.stop .tagName

def isTagChar (c : Char) : Bool :=
  c.isAlphanum || "-;/?:@&=+$,_.!~*'()[]".toList.contains c

/-- Bytes written as percent signs and digits. -/
def tagBytes (fuel : Nat) (text : List Char) : Except Stop (List UInt8 × List Char) :=
  match fuel, text with
  | fuel + 1, '%' :: rest =>
    let digits := (rest.take 2).takeWhile isHexDigit
    if digits.length < 2 then stopAt (rest.drop digits.length) .tagName
    else
      (tagBytes fuel (rest.drop 2)).map fun (bytes, rest) =>
        (UInt8.ofNat (hexNumber digits) :: bytes, rest)
  | _, rest => .ok ([], rest)

/-- The text of a tag, in which characters may be written as their bytes. -/
def tagText (fuel : Nat) (text : List Char) : Except Stop (List Char × List Char) :=
  match fuel, text with
  | fuel + 1, '%' :: rest =>
    match tagBytes (fuel + 1) ('%' :: rest) with
    | .error e => .error e
    | .ok (bytes, rest) =>
      match String.fromUTF8? ⟨bytes.toArray⟩ with
      | none => stopAt rest .tagName
      | some chars => (tagText fuel rest).map fun (more, rest) => (chars.toList ++ more, rest)
  | fuel + 1, c :: rest =>
    if isTagChar c then (tagText fuel rest).map fun (more, rest) => (c :: more, rest)
    else .ok ([], c :: rest)
  | _, rest => .ok ([], rest)

/-- The text of a tag, which may not be empty. -/
def tagSuffix (c : Cursor) : Except Stop (String × Cursor) :=
  match tagText (c.rest.length + 1) c.rest with
  | .error e => .error e
  | .ok (text, rest) =>
    if rest.length = c.rest.length then c.stop .tagName
    else .ok (String.ofList text, c.skipTo rest)

/-- Whether a tag has a handle of its own: a second exclamation mark before its end. -/
def hasHandle (text : List Char) : Bool :=
  (text.takeWhile (!isSpaceOrEnd ·)).contains '!'

/-- How far one looks from the exclamation mark of a tag to see whether it has a handle: to the
second mark or to its end, unless it is given in full or the mark stands alone.
-/
def tagReach (text : List Char) : Nat :=
  let word := text.drop 1
  if Cursor.first word = '<' || isBlankOrEnd (Cursor.first word) then 1
  else 1 + (word.takeWhile fun c => c != '!' && !isSpaceOrEnd c).length

def tagToken (c : Cursor) : Except Stop (Token × Cursor) := do
  let (tag, after) ←
    if c.peek 1 = '<' then do
      let (suffix, after) ← tagSuffix (c.skip 2)
      if after.peek = '>' then pure (Token.tag none suffix, after.next)
      else after.stop .tagName
    else if isBlankOrEnd (c.peek 1) then pure (Token.tag none "!", c.next)
    else do
      let (handle, start) ← if hasHandle c.next.rest then tagHandle c else pure ("!", c.next)
      let (suffix, after) ← tagSuffix start
      pure (Token.tag (some handle) suffix, after)
  if isSpaceOrEnd after.peek then pure (tag, after) else after.stop .tagName

-----------------------------------------------------------------------------------------
-- Directives
-----------------------------------------------------------------------------------------

def versionNumber (c : Cursor) : Except Stop (Nat × Cursor) :=
  let (digits, after) := c.span Char.isDigit
  if digits = [] then after.stop .directive
  else if Text.digitLimit < digits.length then
    .error ⟨after.rest.length, .scalar (.integerLength digits.length)⟩
  else .ok (digits.foldl (fun n d => n * 10 + hexValue d) 0, after)

/-- A version, which is two numbers with a point between them. -/
def version (c : Cursor) : Except Stop (Token × Cursor) := do
  let (major, after) ← versionNumber (c.skipWhile (· = ' '))
  if after.peek != '.' then after.stop .directive
  else
    let (_, after) ← versionNumber after.next
    if isSpaceOrEnd after.peek then pure (.version major, after) else after.stop .directive

/-- A handle, and the start of the tags that it stands for. -/
def tagAbbreviation (c : Cursor) : Except Stop (Token × Cursor) := do
  let (handle, after) ← tagHandle (c.skipWhile (· = ' '))
  if after.peek != ' ' then after.stop .directive
  else
    let (start, after) ← tagSuffix (after.skipWhile (· = ' '))
    if isSpaceOrEnd after.peek then pure (.tagHandle handle start, after) else after.stop .directive

/-- A directive, from its percent sign, with the rest of its line. -/
def directiveToken (c : Cursor) : Except Stop (Token × Cursor) := do
  let (name, after) := c.next.span isNameChar
  if name = [] || !isSpaceOrEnd after.peek then after.stop .directive
  else
    let (token, after) ←
      if name = "YAML".toList then version after
      else if name = "TAG".toList then tagAbbreviation after
      else pure (Token.otherDirective, after.skipWhile (!isLineEnd ·))
    return (token, ← after.finishLine .directive)

end DirMarkers.Yaml
