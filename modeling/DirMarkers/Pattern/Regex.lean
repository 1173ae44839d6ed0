import DirMarkers.Pattern.Token

/-!
The regular expressions that wildcard patterns compile to: what they accept, and their text.

A path is searched for a match: an anchored expression has to match from the start of the path, any
other from the start or from just behind a slash. A match ends at the end of the path or in front of
one final line feed, and a dot stands for any character but a line feed.
-/

namespace DirMarkers.Pattern

/-- A building block of an expression. -/
inductive Piece where
  /-- The character itself. -/
  | char (c : Char)
  /-- One character other than a slash. -/
  | one
  /-- Any number of characters other than slashes. -/
  | run
  /-- Nothing, or any characters up to and including a slash. -/
  | directories
  /-- Any characters. -/
  | anything
deriving DecidableEq, Repr

/-- An expression: where a match may start, what it holds, and whether it may go on below a
directory. -/
structure Regex where
  /-- The text that an anchored match starts with. -/
  anchor : Option String
  body : List Piece
  /-- Whether a match may be followed by a slash and anything. -/
  below : Bool
deriving DecidableEq, Repr

-----------------------------------------------------------------------------------------
-- Acceptance
-----------------------------------------------------------------------------------------

/-- Passes over a run of characters that satisfy `ok`, of any length after which `next` accepts
the rest.
-/
def acceptsRun (ok : Char → Bool) (next : List Char → Bool) : List Char → Bool
  | [] => next []
  | c :: rest => next (c :: rest) || (ok c && acceptsRun ok next rest)

/-- Every character but a line feed. -/
def isDot (c : Char) : Bool :=
  c != '\n'

/-- A slash. -/
def isSlash (c : Char) : Bool :=
  c == '/'

/-- Every character but a slash. -/
def isComponentChar (c : Char) : Bool :=
  c != '/'

/-- The text starts with a character that satisfies `ok`, and `next` accepts the rest. -/
def acceptsOne (ok : Char → Bool) (next : List Char → Bool) : List Char → Bool
  | [] => false
  | c :: rest => ok c && next rest

/-- Whether some characters that the piece stands for start the text, and `next` accepts the
rest.
-/
def Piece.accepts (next : List Char → Bool) (text : List Char) : Piece → Bool
  | .char c => acceptsOne (· == c) next text
  | .one => acceptsOne isComponentChar next text
  | .run => acceptsRun isComponentChar next text
  | .directories => next text || acceptsRun isDot (acceptsOne isSlash next) text
  | .anything => acceptsRun isDot next text

/-- Whether the text starts with the pieces, one after the other, and `next` accepts the rest. -/
def acceptsPieces (next : List Char → Bool) : List Piece → List Char → Bool
  | [], text => next text
  | piece :: rest, text => piece.accepts (acceptsPieces next rest) text

/-- The end of the text, or the place in front of its final line feed. -/
def acceptsEnd (text : List Char) : Bool :=
  text = [] || text = ['\n']

/-- What may follow a match that may go on below a directory. -/
def acceptsBelow (text : List Char) : Bool :=
  acceptsEnd text || acceptsOne isSlash (acceptsRun isDot acceptsEnd) text

/-- Whether `next` accepts what follows one of the slashes of the text. -/
def acceptsBehindSlash (next : List Char → Bool) : List Char → Bool
  | [] => false
  | c :: rest => (isSlash c && next rest) || acceptsBehindSlash next rest

/-- Whether an expression finds a match in a path. -/
def Regex.accepts (regex : Regex) (path : List Char) : Bool :=
  let tail := if regex.below then acceptsBelow else acceptsEnd
  match regex.anchor with
  | some start => acceptsPieces tail (start.toList.map .char ++ regex.body) path
  | none =>
    let behind := acceptsPieces tail regex.body
    behind path || acceptsBehindSlash behind path

-----------------------------------------------------------------------------------------
-- Text
-----------------------------------------------------------------------------------------

/-- The characters that are written with a backslash to stand for themselves. -/
def isRegexSpecial (c : Char) : Bool :=
  "()[]\x7b\x7d?*+-|^$\\.&~# \t\n\r\x0b\x0c".toList.contains c

/-- A character that stands for itself in the text of an expression. -/
def escapeChar (c : Char) : List Char :=
  if isRegexSpecial c then ['\\', c] else [c]

def Piece.text : Piece → List Char
  | .char c => escapeChar c
  | .one => "[^/]".toList
  | .run => "[^/]*".toList
  | .directories => "(?:.*/)?".toList
  | .anything => ".*".toList

def piecesText (pieces : List Piece) : List Char :=
  pieces.flatMap Piece.text

def Regex.text (regex : Regex) : String :=
  let head := match regex.anchor with
    | some start => '^' :: start.toList.flatMap escapeChar
    | none => "(?:^|/)".toList
  let tail := if regex.below then "(?:/.*)?$".toList else ['$']
  String.ofList (head ++ piecesText regex.body ++ tail)

-----------------------------------------------------------------------------------------
-- Compilation
-----------------------------------------------------------------------------------------

/-- The piece that one token of an ordinary segment stands for. -/
def Token.piece (t : Token) : Piece :=
  if t = .star then .run else if t = .question then .one else .char t.char

/-- The pieces of a list of segments. A globstar in front of other segments owns the slash behind
it, so that it may also stand for no component at all.
-/
def segmentPieces : List (List Token) → List Piece
  | [] => []
  | [segment] => if isGlobstar segment then [.anything] else segment.map Token.piece
  | segment :: rest =>
    (if isGlobstar segment then [.directories] else segment.map Token.piece ++ [.char '/'])
      ++ segmentPieces rest

def pieces (tokens : List Token) : List Piece :=
  segmentPieces (segments tokens)

end DirMarkers.Pattern
