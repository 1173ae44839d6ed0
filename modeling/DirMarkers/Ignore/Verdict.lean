import DirMarkers.Rule

/-!
The verdict of a list of rules on a path: the last rule that speaks about the path decides, and a
negated rule decides against ignoring it.
-/

namespace DirMarkers.Ignore

/-- The rules that speak about a path, in order. -/
def applying (rules : List Rule) (path : String) (isDir : Bool) : List Rule :=
  rules.filter (·.applies path isDir)

def decisive? (rules : List Rule) (path : String) (isDir : Bool) : Option Rule :=
  (applying rules path isDir).getLast?

/-- Whether the rules ignore a path; they do not when none of them speaks about it. -/
def isIgnored (rules : List Rule) (path : String) (isDir : Bool) : Bool :=
  match decisive? rules path isDir with
  | some rule => !rule.negated
  | none => false

end DirMarkers.Ignore
