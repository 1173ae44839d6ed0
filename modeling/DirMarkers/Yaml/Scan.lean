import DirMarkers.Yaml.ScalarText
import DirMarkers.Yaml.Source
import DirMarkers.Yaml.Token

/-!
The scan of a text for tokens. Indentation is turned into tokens that open and close block
collections, and the mark of a key that shows only by its colon is put in front of it after the
fact. So a token can be told only when it is clear that no key starts with it; what is wrong further
on leaves the tokens that can be told before it is noticed.
-/

namespace DirMarkers.Yaml

/-- A token that may turn out to start a key. -/
structure Candidate where
  /-- The number of the token. -/
  token : Nat
  /-- Whether nothing but a key can stand there. -/
  required : Bool
  index : Nat
  line : Nat
  column : Nat
deriving Repr

/-- The state of a scan. -/
structure Scan where
  cursor : Cursor
  /-- How many flow collections are open. -/
  flow : Nat
  /-- The column of the innermost block collection, or minus one. -/
  indent : Int
  /-- The columns of the block collections around it. -/
  outer : List Int
  /-- Whether a key may start here. -/
  keyAllowed : Bool
  /-- The candidates, one for each number of open flow collections. -/
  candidates : List (Nat × Candidate)
  tokens : Array Token

namespace Scan

/-- The start of a scan. A byte order mark in front of a text is passed over. -/
def start (text : List Char) : Scan :=
  let cursor := Cursor.start text
  ⟨if cursor.peek = '\uFEFF' then cursor.next else cursor, 0, -1, [], true, [], #[]⟩

def push (s : Scan) (token : Token) : Scan :=
  { s with tokens := s.tokens.push token }

/-- Adds a token in front of the one with the given number. -/
def pushBefore (s : Scan) (number : Nat) (token : Token) : Scan :=
  { s with
    tokens := (s.tokens.extract 0 number).push token ++ s.tokens.extract number s.tokens.size }

/-- Adds a token and passes so many characters. -/
def pushOver (s : Scan) (token : Token) (count : Nat) : Scan :=
  { s.push token with cursor := s.cursor.skip count }

/-- A key ends on its line and within 1024 characters; a candidate that does not is none. -/
def dropStale (s : Scan) : Except Stop Scan :=
  let isStale := fun (k : Candidate) =>
    k.line != s.cursor.line || 1024 < s.cursor.index - k.index
  if s.candidates.any fun (_, k) => isStale k && k.required then s.cursor.stop .missingColon
  else .ok { s with candidates := s.candidates.filter fun (_, k) => !isStale k }

/-- Drops the candidate of the innermost open collection. -/
def dropCandidate (s : Scan) : Except Stop Scan :=
  if s.candidates.any fun (level, k) => level = s.flow && k.required then
    s.cursor.stop .missingColon
  else .ok { s with candidates := s.candidates.filter fun (level, _) => level != s.flow }

/-- Makes the next token a candidate, if a key may start there. -/
def addCandidate (s : Scan) : Except Stop Scan :=
  if s.keyAllowed then do
    let s ← s.dropCandidate
    let c := s.cursor
    let required := s.flow = 0 && s.indent = c.column
    pure { s with
      candidates := (s.flow, ⟨s.tokens.size, required, c.index, c.line, c.column⟩) :: s.candidates }
  else .ok s

/-- Closes the block collections that stand further to the right than a column. -/
def unwindTo (column : Int) (indent : Int) : List Int → Nat × Int × List Int
  | [] => (0, indent, [])
  | around :: outer =>
    if column < indent then
      let (closed, indent, outer) := unwindTo column around outer
      (closed + 1, indent, outer)
    else (0, indent, around :: outer)

/-- Closes block collections by indentation, which counts only outside flow collections. -/
def unwind (s : Scan) (column : Int) : Scan :=
  if s.flow != 0 then s
  else
    let (closed, indent, outer) := unwindTo column s.indent s.outer
    { s with
      indent := indent
      outer := outer
      tokens := s.tokens ++ (Array.replicate closed Token.blockEnd) }

/-- Whether a collection at a column is inside the innermost block collection. -/
def opens (s : Scan) (column : Nat) : Bool :=
  s.flow = 0 && s.indent < Int.ofNat column

def openAt (s : Scan) (column : Nat) : Scan :=
  { s with indent := column, outer := s.indent :: s.outer }

/-- Whether a key may start, inside a flow collection or at the current place. -/
def requireKeyAllowed (s : Scan) : Except Stop Scan :=
  if s.flow = 0 && !s.keyAllowed then s.cursor.stop .misplacedEntry else .ok s

/-- Passes spaces, comments and line breaks. A line break outside flow collections lets a key
start.
-/
def skipToToken (fuel : Nat) (s : Scan) : Scan :=
  match fuel with
  | 0 => s
  | fuel + 1 =>
    let c := s.cursor.skipComment
    if isBreak c.peek then
      skipToToken fuel { s with cursor := c.next, keyAllowed := s.keyAllowed || s.flow = 0 }
    else { s with cursor := c }

/-- Ends all block collections in front of a directive or the start or end of a document. -/
def leaveDocument (s : Scan) : Except Stop Scan := do
  let s ← (s.unwind (-1)).dropCandidate
  pure { s with keyAllowed := false }

def flowStart (s : Scan) (token : Token) : Except Stop Scan := do
  let s ← s.addCandidate
  pure { s.pushOver token 1 with flow := s.flow + 1, keyAllowed := true }

def flowEnd (s : Scan) (token : Token) : Except Stop Scan := do
  let s ← s.dropCandidate
  if s.flow = 0 then s.cursor.next.stop .unexpectedToken
  else pure { s.pushOver token 1 with flow := s.flow - 1, keyAllowed := false }

def flowEntry (s : Scan) : Except Stop Scan := do
  let s ← s.dropCandidate
  pure { s.pushOver .flowEntry 1 with keyAllowed := true }

def blockEntry (s : Scan) : Except Stop Scan := do
  let s ← s.requireKeyAllowed
  let column := s.cursor.column
  let s := if s.opens column then (s.push .blockSequence).openAt column else s
  let s ← s.dropCandidate
  pure { s.pushOver .blockEntry 1 with keyAllowed := true }

def explicitKey (s : Scan) : Except Stop Scan := do
  let s ← s.requireKeyAllowed
  let column := s.cursor.column
  let s := if s.opens column then (s.push .blockMapping).openAt column else s
  let s ← s.dropCandidate
  pure { s.pushOver .key 1 with keyAllowed := s.flow = 0 }

/-- The colon of a value. A candidate on its level is a key then, and starts a block mapping if it
stands further to the right than the innermost block collection.
-/
def valueMark (s : Scan) : Except Stop Scan :=
  match s.candidates.lookup s.flow with
  | some k =>
    let s := { s with candidates := s.candidates.filter fun (level, _) => level != s.flow }
    let s := s.pushBefore k.token .key
    let s := if s.opens k.column then (s.pushBefore k.token .blockMapping).openAt k.column else s
    .ok { s.pushOver .value 1 with keyAllowed := false }
  | none => do
    let s ← s.requireKeyAllowed
    let column := s.cursor.column
    let s := if s.opens column then (s.push .blockMapping).openAt column else s
    let s ← s.dropCandidate
    pure { s.pushOver .value 1 with keyAllowed := s.flow = 0 }

/-- A token that may start a key, and behind which no key may start on its line. -/
def keyLike (s : Scan) (scan : Cursor → Except Stop (Token × Cursor)) : Except Stop Scan := do
  let s ← s.addCandidate
  let (token, after) ← scan s.cursor
  pure { s.push token with cursor := after, keyAllowed := false }

/-- A block scalar, behind which a key may start. -/
def blockText (s : Scan) : Except Stop Scan := do
  let s ← s.dropCandidate
  let (text, after) ← blockScalar s.indent s.cursor
  pure { s.push (.scalar false text) with cursor := after, keyAllowed := true }

def plain (s : Scan) : Except Stop Scan := do
  let s ← s.addCandidate
  let (text, broken, after) := plainScalar (s.flow != 0) s.indent s.cursor
  pure { s.push (.scalar true text) with cursor := after, keyAllowed := broken }

def startsPlain (s : Scan) : Bool :=
  let c := s.cursor.peek
  let special := isBlankOrEnd c || "-?:,[]\x7b\x7d#&*!|>'\"%@\x60".toList.contains c
  !special
    || (!isBlankOrEnd (s.cursor.peek 1) && (c = '-' || (s.flow = 0 && (c = '?' || c = ':'))))

def token (s : Scan) : Except Stop Scan :=
  let cursor := s.cursor
  let alone := isBlankOrEnd (cursor.peek 1)
  let inFlow := s.flow != 0
  match cursor.peek with
  | '%' => if cursor.column = 0 then do
      let s ← s.leaveDocument
      let (token, after) ← directiveToken s.cursor
      pure { s.push token with cursor := after }
    else cursor.next.stop .unexpectedCharacter
  | '[' => s.flowStart .flowSequence
  | '\x7b' => s.flowStart .flowMapping
  | ']' => s.flowEnd .flowSequenceEnd
  | '\x7d' => s.flowEnd .flowMappingEnd
  | ',' => s.flowEntry
  | '*' => s.keyLike fun c => do
      let (name, after) ← anchorName c
      pure (.alias name, after)
  | '&' => s.keyLike fun c => do
      let (name, after) ← anchorName c
      pure (.anchor name, after)
  | '!' => s.keyLike tagToken
  | '\'' | '"' => s.keyLike fun c => do
      let (text, after) ← quotedScalar c
      pure (.scalar false text, after)
  | c =>
    if cursor.column = 0 && startsMarker '-' cursor.rest then
      return (← s.leaveDocument).pushOver .documentStart 3
    else if cursor.column = 0 && startsMarker '.' cursor.rest then
      return (← s.leaveDocument).pushOver .documentEnd 3
    else if c = '-' && alone then s.blockEntry
    else if c = '?' && (inFlow || alone) then s.explicitKey
    else if c = ':' && (inFlow || alone) then s.valueMark
    else if (c = '|' || c = '>') && !inFlow then s.blockText
    else if s.startsPlain then s.plain
    else cursor.next.stop .unexpectedCharacter

def isFinished (s : Scan) : Bool :=
  s.cursor.rest = []

/-- Passes over blanks to the next token, and closes the block collections that end in front of it.
-/
def arrive (s : Scan) : Except Stop Scan := do
  let s ← (skipToToken (s.cursor.rest.length + 1) s).dropStale
  pure (s.unwind s.cursor.column)

/-- Scans the token that starts here, or ends the document. -/
def advance (s : Scan) : Except Stop Scan :=
  if s.isFinished then (s.unwind (-1)).dropCandidate else s.token

/-- The number of tokens that can be told: no token can from the first candidate on. -/
def told (s : Scan) : Nat :=
  s.candidates.foldl (fun least (_, k) => min least k.token) s.tokens.size

-----------------------------------------------------------------------------------------
-- What is looked at
-----------------------------------------------------------------------------------------

/-- Whether the scalar that starts here ended, after so many characters, because what follows is not
further to the right than the collection around it.
-/
def endsByIndent (s : Scan) (passed : Nat) : Bool :=
  match lastLine? (s.cursor.rest.take passed) with
  | some start => s.flow = 0 && Int.ofNat (passed - start) ≤ s.indent
  | none => false

/-- How far one looks to tell which token starts here. -/
def startReach (s : Scan) : Nat :=
  let c := s.cursor.peek
  if s.cursor.column = 0 && (c = '-' || c = '.') then separatorReach s.cursor.rest
  else if c = '-' || (s.flow = 0 && (c = '?' || c = ':')) then 1
  else 0

/-- How far one looks for the token that starts here and is over, or given up, after so many
characters: for the end of the word that a tag is; on each new line of a scalar, for the end of the
document; and behind the colon that ends a plain scalar.
-/
def reach (s : Scan) (passed : Nat) : Nat :=
  let text := s.cursor.rest
  match s.cursor.peek with
  | '!' => max passed (tagReach text)
  | '\'' | '"' => lineReach text passed
  | _ =>
    if s.startsPlain then
      let colon := Cursor.first (text.drop passed) = ':' && !s.endsByIndent passed
      max s.startReach (max (lineReach text passed) (if colon then passed + 1 else 0))
    else max s.startReach passed

/-- Whether one looks beyond the end of the text for the token that starts here and is over, or
given up, after so many characters.
-/
def looksBeyond (s : Scan) (passed : Nat) : Bool :=
  (s.cursor.rest.drop (s.reach passed)).isEmpty

end Scan

/-- The tokens of a document that can be told, and what is wrong with what comes then. -/
structure Tokens where
  told : List Token
  fault : Option Error
deriving Repr

namespace Tokens

/-- Scans all tokens that are left; each takes at least one character. Where the text goes on
unread, no token can be told for which one has to look further.
-/
def scan (unread : Option Error) (fuel : Nat) (s : Scan) : Tokens :=
  let upTo := fun (error : Error) => (⟨s.tokens.toList.take s.told, some error⟩ : Tokens)
  match s.arrive with
  | .error stop => upTo (if stop.left = 0 then unread.getD stop.error else stop.error)
  | .ok here =>
    let missing := fun (passed : Nat) => unread.filter fun _ => here.looksBeyond passed
    match here.advance with
    | .error stop =>
      upTo ((missing (here.cursor.rest.length - stop.left)).getD stop.error)
    | .ok next =>
      match missing (next.cursor.index - here.cursor.index), next.dropStale, fuel with
      | some error, _, _ => upTo error
      | none, .error stop, _ => upTo stop.error
      | none, .ok next, 0 => ⟨next.tokens.toList, none⟩
      | none, .ok next, fuel + 1 =>
        if here.isFinished then ⟨next.tokens.toList, none⟩ else scan unread fuel next

def ofSource (source : Source) : Tokens :=
  scan source.fault (source.text.length + 2) (Scan.start source.text)

end Tokens

end DirMarkers.Yaml
