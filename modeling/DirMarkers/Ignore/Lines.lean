import DirMarkers.Rule
import DirMarkers.Text.Blank
import DirMarkers.Text.Lines
import DirMarkers.Text.Utf8

/-!
The text of an ignore file. Blank lines and comments hold no rule; every other line is trimmed and
compiled, and its rule remembers the line as it was written.
-/

namespace DirMarkers.Ignore

/-- The rule of one line of the ignore file of `baseDir`. -/
def parseLine (baseDir : String) (line : String) : Option Rule :=
  let trimmed := Text.trim line
  if trimmed = "" || trimmed.toList.head? = some '#' then none
  else Rule.compile trimmed baseDir line

/-- The rules of the lines of an ignore file, in order. -/
def parseLines (baseDir : String) (lines : List String) : List Rule :=
  lines.filterMap (parseLine baseDir)

/-- The rules of the bytes of an ignore file, which have to be UTF-8. -/
def parse (baseDir : String) (bytes : ByteArray) : Except Text.Utf8.Fault (List Rule) :=
  match Text.Utf8.decode bytes with
  | .ok text => .ok (parseLines baseDir (Text.lines text))
  | .error fault => .error fault

end DirMarkers.Ignore
