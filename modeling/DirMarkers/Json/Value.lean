/-!
JSON values, with the fields of an object in the order in which they are written.
-/

namespace DirMarkers

/-- A JSON value of the kinds that a report needs. -/
inductive Json where
  | bool (b : Bool)
  | number (n : Nat)
  | string (s : String)
  | array (items : List Json)
  | object (fields : List (String × Json))
deriving Inhabited

end DirMarkers
