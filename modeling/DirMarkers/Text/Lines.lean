/-!
Lines of a text. Reading a file first turns every line ending into a line feed, then cuts the
text at each character that ends a line.
-/

namespace DirMarkers.Text

/-- A carriage return, with or without a line feed after it, becomes one line feed. -/
def unifyNewlines : List Char → List Char
  | [] => []
  | '\r' :: '\n' :: rest => '\n' :: unifyNewlines rest
  | '\r' :: rest => '\n' :: unifyNewlines rest
  | c :: rest => c :: unifyNewlines rest

/-- The characters at which a line ends: line feed, line and form tabulation, carriage return,
the file, group and record separators, next line, and the line and paragraph separators.
-/
def isLineEnd (c : Char) : Bool :=
  let n := c.toNat
  (0x0A ≤ n && n ≤ 0x0D) || (0x1C ≤ n && n ≤ 0x1E) || n == 0x85 || n == 0x2028 || n == 0x2029

/-- Cuts a text at every line end; nothing is counted as a line after the last end. -/
def splitLines (cs : List Char) : List (List Char) :=
  let pieces := cs.splitOnP isLineEnd
  if pieces.getLast? = some [] then pieces.dropLast else pieces

/-- The lines of a text in which any of the three newline conventions may be used. -/
def lines (s : String) : List String :=
  (splitLines (unifyNewlines s.toList)).map String.ofList

/-- The pieces of a text between the occurrences of a separator; always at least one. -/
def split (separator : Char) (s : String) : List String :=
  (s.toList.splitOn separator).map String.ofList

end DirMarkers.Text
