import WeakestPre.Binary64.Shortest

/-!
# The text of a number

**Plain text** (`plain`) shows the fewest digits that read back. Numbers from `1e-4` up to `1e16`
are written out with a point, all others with an exponent that has a sign and at least two digits.

**Constant text** (`text`) drops the fraction of a whole number: `3`, not `3.0`, and all digits of
a large one. Negative zero is `0`.
-/

namespace WeakestPre.Binary64

/-- A positive decimal in the plain layout. -/
def layout (d : Decimal) : String :=
  let ds := Nat.toDigits 10 d.digits
  let point : Int := ds.length + d.exponent
  if point ≤ -4 ∨ 16 < point then
    let e := point - 1
    let fraction := if ds.tail = [] then [] else '.' :: ds.tail
    let digits := Nat.toDigits 10 e.natAbs
    let padded := if digits.length < 2 then '0' :: digits else digits
    String.ofList (ds.take 1 ++ fraction ++ 'e' :: (if e < 0 then '-' else '+') :: padded)
  else if point ≤ 0 then
    String.ofList ('0' :: '.' :: List.replicate (-point).toNat '0' ++ ds)
  else if d.exponent < 0 then
    String.ofList (ds.take point.toNat ++ '.' :: ds.drop point.toNat)
  else String.ofList (ds ++ List.replicate d.exponent.toNat '0' ++ ['.', '0'])

/-- The sign of a number in front of the text of its magnitude. -/
def signed (x : Binary64) (s : String) : String := if x.isNegative then "-" ++ s else s

def plain (x : Binary64) : String :=
  if x.isNaN then "nan"
  else if x.isInfinite then x.signed "inf"
  else if x.magnitude = 0 then x.signed "0.0"
  else x.signed (layout (shortest x.magnitude))

/-- One, as a multiple of `2 ^ (-1074)`. -/
def unitsOfOne : Nat := 1 <<< 1074

/-- The value of a finite number, if it is whole. -/
def whole? (x : Binary64) : Option Int :=
  if x.isFinite ∧ x.absUnits % unitsOfOne = 0 then some (x.units / (unitsOfOne : Int)) else none

def text (x : Binary64) : String :=
  match x.whole? with
  | some n => toString n
  | none => x.plain

end WeakestPre.Binary64
