import DirMarkers.Pattern.Predicate

/-!
Ignore rules. A line of an ignore file is read as a pattern with three marks (negation, anchoring,
directories only), and compiled against the directory that holds the file.
-/

namespace DirMarkers

open Pattern

/-- A line read as a pattern: its marks, and the tokens between them. -/
structure LinePattern where
  negated : Bool
  anchored : Bool
  dirOnly : Bool
  body : List Token
deriving DecidableEq, Repr

namespace LinePattern

/-- Takes one separator off the end of a token list. -/
def splitDirMark (tokens : List Token) : Bool × List Token :=
  if tokens.getLast? = some .separator then (true, tokens.dropLast) else (false, tokens)

/-- Takes one separator off the front of a token list. -/
def splitAnchorMark : List Token → Bool × List Token
  | [] => (false, [])
  | t :: rest => if t = .separator then (true, rest) else (false, t :: rest)

/-- Reads a line: an exclamation mark in front negates, then one slash at the end asks for
directories and one slash in front anchors. Backslashes that escape nothing are read as slashes
only after that.
-/
def ofLine (line : List Char) : LinePattern :=
  let (negated, rest) := match line with
    | '!' :: rest => (true, rest)
    | _ => (false, line)
  let (dirOnly, tokens) := splitDirMark (tokenize rest)
  let (anchored, tokens) := splitAnchorMark tokens
  ⟨negated, anchored, dirOnly, tokens.map Token.slashed⟩

end LinePattern

/-- A compiled line of an ignore file. -/
structure Rule where
  pattern : String
  negated : Bool
  dirOnly : Bool
  anchored : Bool
  /-- The directory of the ignore file, as text relative to the project root. -/
  baseDir : String
  predicate : Predicate
  /-- The line as it stands in the file. -/
  source : String
deriving DecidableEq, Repr

namespace Rule

/-- Compiles a line of the ignore file of `baseDir`; a line without any body makes no rule. -/
def compile (line baseDir source : String) : Option Rule :=
  let p := LinePattern.ofLine line.toList
  if p.body = [] then none
  else some {
    pattern := String.ofList (literal p.body)
    negated := p.negated
    dirOnly := p.dirOnly
    anchored := p.anchored
    baseDir := baseDir
    predicate := predicateOf p.body p.anchored baseDir p.dirOnly
    source := source
  }

/-- Whether a rule speaks about a path; a rule for directories says nothing about a file. -/
def applies (rule : Rule) (path : String) (isDir : Bool) : Bool :=
  (isDir || !rule.dirOnly) && rule.predicate.accepts path.toList

end Rule

end DirMarkers
