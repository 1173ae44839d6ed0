import DirMarkers.Pattern.Search

/-!
Predicates on paths. A pattern without wildcards is compared with the path directly; any other is
searched for as a regular expression.
-/

namespace DirMarkers.Pattern

/-- A wildcard-free pattern: its text, the text in front of it when it is anchored, and whether it
matches only directories and what is below them.
-/
structure Literal where
  text : List Char
  anchor : Option String
  below : Bool
deriving DecidableEq, Repr

/-- Whether some characters stand somewhere in a text, one right after the other. -/
def occursIn (part : List Char) : List Char → Bool
  | [] => part = []
  | c :: rest => part.isPrefixOf (c :: rest) || occursIn part rest

/-- An anchored literal is the whole path, or a directory that leads to it; any other is a run of
components, at the end of the path unless it may stand for a directory on the way.
-/
def Literal.accepts (l : Literal) (path : List Char) : Bool :=
  match l.anchor with
  | some start =>
    let target := start.toList ++ l.text
    path = target || (l.below && (target ++ ['/']).isPrefixOf path)
  | none =>
    if l.below then occursIn ('/' :: l.text ++ ['/']) ('/' :: path ++ ['/'])
    else path = l.text || ('/' :: l.text).isSuffixOf path

/-- How a rule recognises paths. -/
inductive Predicate where
  | literal (l : Literal)
  | regex (r : Regex)
deriving DecidableEq, Repr

def Predicate.accepts : Predicate → List Char → Bool
  | .literal l, path => l.accepts path
  | .regex r, path => r.search path

/-- What an anchored pattern of a directory starts with: nothing at the root, else the directory
and a slash.
-/
def anchorOf (baseDir : String) : String :=
  if baseDir = "." then "" else baseDir ++ "/"

def regexOf (tokens : List Token) (anchored : Bool) (baseDir : String) (dirOnly : Bool) : Regex :=
  ⟨if anchored then some (anchorOf baseDir) else none, pieces tokens, dirOnly⟩

def literalOf (tokens : List Token) (anchored : Bool) (baseDir : String) (dirOnly : Bool)
    : Literal :=
  ⟨literal tokens, if anchored then some (anchorOf baseDir) else none, dirOnly⟩

/-- The predicate of a pattern body: a regular expression only where a wildcard needs one. -/
def predicateOf (tokens : List Token) (anchored : Bool) (baseDir : String) (dirOnly : Bool)
    : Predicate :=
  if tokens.any Token.isWildcard then .regex (regexOf tokens anchored baseDir dirOnly)
  else .literal (literalOf tokens anchored baseDir dirOnly)

end DirMarkers.Pattern
