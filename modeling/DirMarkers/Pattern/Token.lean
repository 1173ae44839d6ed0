/-!
Tokens of an ignore pattern. A backslash in front of one of the special characters makes that
character stand for itself; everywhere else it is a character of its own.
-/

namespace DirMarkers.Pattern

/-- A character of a pattern, and whether a backslash took away its special meaning. -/
structure Token where
  char : Char
  escaped : Bool
deriving DecidableEq, Repr

def isEscapable (c : Char) : Bool :=
  "\\!*?[]\x7b\x7d()".toList.contains c

/-- Reads the characters of a pattern as tokens. -/
def tokenize : List Char → List Token
  | [] => []
  | [c] => [⟨c, false⟩]
  | c :: d :: rest =>
    if c = '\\' && isEscapable d then ⟨d, true⟩ :: tokenize rest
    else ⟨c, false⟩ :: tokenize (d :: rest)

namespace Token

/-- The token that separates the segments of a pattern. -/
def separator : Token :=
  ⟨'/', false⟩

/-- Any run of characters within one path component. -/
def star : Token :=
  ⟨'*', false⟩

def question : Token :=
  ⟨'?', false⟩

/-- Whether a token stands for something other than its own character. -/
def isWildcard (t : Token) : Bool :=
  t = star || t = question

/-- A backslash that escapes nothing separates segments, as a slash does. -/
def slashed (t : Token) : Token :=
  if t = ⟨'\\', false⟩ then separator else t

end Token

/-- The segments of a pattern, cut at its separators. -/
def segments (tokens : List Token) : List (List Token) :=
  tokens.splitOn Token.separator

/-- Two stars that fill a segment stand for whole path components. -/
def isGlobstar (segment : List Token) : Bool :=
  segment = [Token.star, Token.star]

/-- The characters of a token list, without their escapes. -/
def literal (tokens : List Token) : List Char :=
  tokens.map Token.char

end DirMarkers.Pattern
