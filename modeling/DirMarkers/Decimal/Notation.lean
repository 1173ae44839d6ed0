import DirMarkers.Decimal.Shortest

/-!
The text of a binary number: the shortest decimal that reads back, written positionally unless its
exponent is below minus four or above fifteen, and always with a point or an exponent.
-/

namespace DirMarkers.Decimal

/-- A positive decimal in positional notation, with at least one digit on either side of the
point.
-/
def positional (digits : List Char) (point : Int) : List Char :=
  if point ≤ 0 then '0' :: '.' :: List.replicate (-point).toNat '0' ++ digits
  else
    let padded := digits ++ List.replicate (point.toNat - digits.length) '0'
    let fraction := padded.drop point.toNat
    padded.take point.toNat ++ '.' :: if fraction = [] then ['0'] else fraction

/-- A positive decimal in scientific notation. The exponent has a sign and at least two digits. -/
def scientific (digits : List Char) (point : Int) : List Char :=
  let exponent := point - 1
  let size := Nat.toDigits 10 exponent.natAbs
  let mark := if exponent < 0 then '-' else '+'
  let fraction := if digits.length ≤ 1 then [] else '.' :: digits.drop 1
  digits.take 1 ++ fraction ++ 'e' :: mark :: List.replicate (2 - size.length) '0' ++ size

def text (d : Decimal) : List Char :=
  let digits := Nat.toDigits 10 d.digits
  let point := d.exponent + digits.length
  if -4 < point ∧ point ≤ 16 then positional digits point else scientific digits point

def floatText (x : Float) : String :=
  if x.isNaN then "nan"
  else
    let sign := if x.toBits.toNat < twoTo 63 then "" else "-"
    if x.isInf then sign ++ "inf"
    else if x == 0 then sign ++ "0.0"
    else sign ++ String.ofList (shortest x).text

end DirMarkers.Decimal
