import DirMarkers.Pattern.Regex

/-!
The search for a match, told for all places of a path at once. Each piece is passed over the path
once, from its end to its start, and turns the marks of what follows the piece into the marks of the
piece with what follows it. So a search takes no longer than the pieces times the characters.

The main statement, `search_eq_accepts`, says that this finds what `Regex.accepts` asks for.
-/

namespace DirMarkers.Pattern

/-- A mark for each place of a text, from its start to its end. -/
abbrev Marks := List Bool

namespace Marks

def here (marks : Marks) : Bool :=
  marks.headD false

/-- The places of a text from which a test accepts what is left. -/
def ofTest (test : List Char → Bool) : List Char → Marks
  | [] => [test []]
  | c :: rest => test (c :: rest) :: ofTest test rest

/-- The places in front of a character that is right, with a mark behind it. -/
def behindOne (ok : Char → Bool) : List Char → Marks → Marks
  | [], _ => [false]
  | c :: rest, marks => (ok c && here marks.tail) :: behindOne ok rest marks.tail

/-- The places with a mark at the end of a run of characters that are right. -/
def behindRun (ok : Char → Bool) : List Char → Marks → Marks
  | [], marks => [here marks]
  | c :: rest, marks =>
    let after := behindRun ok rest marks.tail
    (here marks || (ok c && here after)) :: after

/-- The places with a mark of either kind. -/
def either (a b : Marks) : Marks :=
  a.zipWith (· || ·) b

/-- Whether there is a mark right behind a slash. -/
def anyBehindSlash : List Char → Marks → Bool
  | [], _ => false
  | c :: rest, marks => (isSlash c && here marks.tail) || anyBehindSlash rest marks.tail

end Marks

open Marks

/-- The places where a piece starts that ends at a mark. -/
def Piece.marks (text : List Char) (next : Marks) : Piece → Marks
  | .char c => behindOne (· == c) text next
  | .one => behindOne isComponentChar text next
  | .run => behindRun isComponentChar text next
  | .directories => either next (behindRun isDot text (behindOne isSlash text next))
  | .anything => behindRun isDot text next

/-- The places where some pieces start, one after the other, of which the last ends at a mark. -/
def piecesMarks (text : List Char) (ends : Marks) : List Piece → Marks
  | [] => ends
  | piece :: rest => piece.marks text (piecesMarks text ends rest)

def Regex.endMarks (regex : Regex) (path : List Char) : Marks :=
  let ends := ofTest acceptsEnd path
  if regex.below then either ends (behindOne isSlash path (behindRun isDot path ends)) else ends

/-- Whether an expression finds a match in a path. -/
def Regex.search (regex : Regex) (path : List Char) : Bool :=
  let ends := regex.endMarks path
  match regex.anchor with
  | some start => here (piecesMarks path ends (start.toList.map .char ++ regex.body))
  | none =>
    let marks := piecesMarks path ends regex.body
    here marks || anyBehindSlash path marks

-----------------------------------------------------------------------------------------
-- Marks of tests
-----------------------------------------------------------------------------------------

@[simp]
theorem here_cons (mark : Bool) (rest : Marks) : here (mark :: rest) = mark :=
  rfl

@[simp]
theorem here_ofTest (test : List Char → Bool) (text : List Char)
    : here (ofTest test text) = test text := by
  cases text <;> rfl

theorem behindOne_ofTest (ok : Char → Bool) (test : List Char → Bool) (text : List Char)
    : behindOne ok text (ofTest test text) = ofTest (acceptsOne ok test) text := by
  induction text with
  | nil => rfl
  | cons c rest ih => simp [behindOne, ofTest, acceptsOne, ih]

theorem behindRun_ofTest (ok : Char → Bool) (test : List Char → Bool) (text : List Char)
    : behindRun ok text (ofTest test text) = ofTest (acceptsRun ok test) text := by
  induction text with
  | nil => rfl
  | cons c rest ih => simp [behindRun, ofTest, acceptsRun, ih]

theorem either_ofTest (a b : List Char → Bool) (text : List Char)
    : either (ofTest a text) (ofTest b text) = ofTest (fun s => a s || b s) text := by
  induction text with
  | nil => rfl
  | cons c rest ih => simpa [either, ofTest] using ih

theorem anyBehindSlash_ofTest (test : List Char → Bool) (text : List Char)
    : anyBehindSlash text (ofTest test text) = acceptsBehindSlash test text := by
  induction text with
  | nil => rfl
  | cons c rest ih => simp [anyBehindSlash, acceptsBehindSlash, ofTest, ih]

-----------------------------------------------------------------------------------------
-- The search
-----------------------------------------------------------------------------------------

theorem Piece.marks_ofTest (piece : Piece) (next : List Char → Bool) (text : List Char)
    : piece.marks text (ofTest next text)
      = ofTest (fun s => piece.accepts next s) text := by
  cases piece with
  | char c => exact behindOne_ofTest (· == c) next text
  | one => exact behindOne_ofTest isComponentChar next text
  | run => exact behindRun_ofTest isComponentChar next text
  | directories => simp only [marks, behindOne_ofTest, behindRun_ofTest, either_ofTest, accepts]
  | anything => exact behindRun_ofTest isDot next text

theorem piecesMarks_ofTest (pieces : List Piece) (next : List Char → Bool) (text : List Char)
    : piecesMarks text (ofTest next text) pieces = ofTest (acceptsPieces next pieces) text := by
  induction pieces with
  | nil => rfl
  | cons piece rest ih =>
    rw [piecesMarks, ih, Piece.marks_ofTest]
    rfl

theorem Regex.endMarks_eq_ofTest (regex : Regex) (path : List Char)
    : regex.endMarks path
      = ofTest (if regex.below then acceptsBelow else acceptsEnd) path := by
  cases h : regex.below
  · simp [endMarks, h]
  · simp only [endMarks, h, if_true, behindRun_ofTest, behindOne_ofTest, either_ofTest]
    rfl

/-- The search finds a match exactly where an expression accepts a path. -/
theorem Regex.search_eq_accepts (regex : Regex) (path : List Char)
    : regex.search path = regex.accepts path := by
  cases h : regex.anchor <;>
    simp [search, accepts, h, endMarks_eq_ofTest, piecesMarks_ofTest, anyBehindSlash_ofTest]

end DirMarkers.Pattern
