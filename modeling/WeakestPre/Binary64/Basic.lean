/-!
# Binary64 numbers

The constants of the language are binary64 numbers of IEEE 754, held by their bit pattern. All
arithmetic on them goes through exact integers: every finite number is a whole multiple of the
least positive one, `2 ^ (-1074)`, and `units` is that multiple.

**Rounding.** `ofRatio` rounds a positive fraction to the nearest number, ties to the even
coefficient. A number with coefficient `c` and exponent offset `k` (its unit is `2 ^ (k - 1074)`)
has the pattern `k * 2 ^ 52 + c`: below `2 ^ 52` with `k = 0` this is the subnormal pattern, and a
coefficient that rounds up to `2 ^ 53` carries into the exponent as it must.

**Closeness.** `close` tells whether the difference of two numbers, rounded to a number, is less
than the tolerance `1e-10`. It is false as soon as one of them is infinite or not a number.
-/

namespace WeakestPre

/-- A binary64 number, by its bits. -/
structure Binary64 where
  bits : UInt64
  deriving DecidableEq, Repr

namespace Binary64

/-! ## Fields -/

/-- The bit of the sign, `2 ^ 63`. -/
def signBit : Nat := 0x8000000000000000

/-- The least coefficient above the subnormal ones, `2 ^ 52`. -/
def leadingBit : Nat := 0x10000000000000

def isNegative (x : Binary64) : Bool := signBit ≤ x.bits.toNat

/-- The pattern without the sign. -/
def magnitude (x : Binary64) : Nat := x.bits.toNat % signBit

/-- The magnitude of infinity. -/
def infiniteMagnitude : Nat := 0x7ff0000000000000

def isFinite (x : Binary64) : Bool := x.magnitude < infiniteMagnitude

def isInfinite (x : Binary64) : Bool := x.magnitude == infiniteMagnitude

def isNaN (x : Binary64) : Bool := infiniteMagnitude < x.magnitude

/-- How often the unit of a magnitude doubles `2 ^ (-1074)`. -/
def offsetOf (magnitude : Nat) : Nat := magnitude / leadingBit - 1

/-- The coefficient of a magnitude, in its own unit. -/
def coefficientOf (magnitude : Nat) : Nat := magnitude - offsetOf magnitude * leadingBit

/-- The absolute value of a finite number, as a multiple of `2 ^ (-1074)`. -/
def absUnits (x : Binary64) : Nat := coefficientOf x.magnitude <<< offsetOf x.magnitude

/-- A finite number, as a multiple of `2 ^ (-1074)`. -/
def units (x : Binary64) : Int := if x.isNegative then -(x.absUnits : Int) else x.absUnits

/-! ## Making numbers -/

def ofMagnitude (negative : Bool) (m : Nat) : Binary64 :=
  ⟨UInt64.ofNat (if negative then signBit + m else m)⟩

def infinity (negative : Bool) : Binary64 := ofMagnitude negative infiniteMagnitude

def nan : Binary64 := ⟨0x7ff8000000000000⟩

def zero : Binary64 := ⟨0⟩

/-- The quotient, rounded to the nearest whole number, a tie to the even one. -/
def divRound (num den : Nat) : Nat :=
  let q := num / den
  let twice := 2 * (num % den)
  if twice < den then q else if den < twice then q + 1 else q + q % 2

/-- The exponent offset at which `num / den`, counted in units, has 53 bits, or zero if it has
fewer at offset zero. -/
def offsetFor (num den : Nat) : Nat :=
  let guess := num.log2 - den.log2 - 53
  if den <<< (guess + 53) ≤ num then guess + 1 else guess

/-- The magnitude nearest to `num / den` times `2 ^ (-1074)`; beyond the largest number it is
infinite. -/
def magnitudeOfUnits (num den : Nat) : Nat :=
  let k := offsetFor num den
  min infiniteMagnitude (k * leadingBit + divRound num (den <<< k))

/-- The magnitude nearest to `num / den`. -/
def magnitudeOfRatio (num den : Nat) : Nat := magnitudeOfUnits (num <<< 1074) den

def ofRatio (negative : Bool) (num den : Nat) : Binary64 :=
  ofMagnitude negative (magnitudeOfRatio num den)

/-- The number nearest to the decimal `digits * 10 ^ exponent`. A power of ten is at least the
cube of that power of two, so decimals far outside the range are told by their size, without
computing the power. -/
def ofDecimal (negative : Bool) (digits : Nat) (exponent : Int) : Binary64 :=
  let size : Int := digits.log2 + 3 * exponent
  if digits = 0 ∨ size < -1200 then ofMagnitude negative 0
  else if exponent < 0 then ofRatio negative digits (Nat.pow 10 (-exponent).toNat)
  else if 1200 < size then infinity negative
  else ofRatio negative (digits * Nat.pow 10 exponent.toNat) 1

/-- The number nearest to an integer; none if it is too large. -/
def ofInt? (n : Int) : Option Binary64 :=
  let m := magnitudeOfRatio n.natAbs 1
  if m < infiniteMagnitude then some (ofMagnitude (n < 0) m) else none

/-! ## Arithmetic -/

/-- The number with the other sign. -/
def neg (x : Binary64) : Binary64 := ofMagnitude (!x.isNegative) x.magnitude

/-- The sum, rounded. A sum of nothing is negative only if both parts are. -/
def add (x y : Binary64) : Binary64 :=
  if x.isNaN || y.isNaN then nan
  else if x.isInfinite then
    if y.isInfinite && x.isNegative != y.isNegative then nan else x
  else if y.isInfinite then y
  else
    let n := x.units + y.units
    if n = 0 then ofMagnitude (x.isNegative && y.isNegative) 0
    else ofMagnitude (n < 0) (magnitudeOfUnits n.natAbs 1)

/-- The product, rounded. -/
def mul (x y : Binary64) : Binary64 :=
  let negative := x.isNegative != y.isNegative
  if x.isNaN || y.isNaN then nan
  else if x.isInfinite || y.isInfinite then
    if x.magnitude = 0 || y.magnitude = 0 then nan else infinity negative
  else ofMagnitude negative (magnitudeOfUnits (x.absUnits * y.absUnits) (1 <<< 1074))

/-! ## Closeness -/

/-- Numbers whose difference is below this count as equal: the number nearest to `1e-10`. -/
def tolerance : Binary64 := ⟨0x3ddb7cdfd9d7bdbb⟩

def close (x y : Binary64) : Bool :=
  x.isFinite && y.isFinite &&
    magnitudeOfUnits (x.units - y.units).natAbs 1 < tolerance.magnitude

end Binary64

end WeakestPre
