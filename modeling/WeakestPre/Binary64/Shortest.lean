import WeakestPre.Binary64.Basic

/-!
# Fewest digits that read back

The reals that round to a given number form an interval around it, which holds its ends exactly
if the coefficient is even. `shortest` looks for a decimal in that interval on ever finer grids:
one digit, two digits, and so on. On each grid only the two neighbours of the number can be the
nearest decimal, and the first grid with a neighbour in the interval gives the answer. Of two such
neighbours the nearer one wins, on a tie the even one. Seventeen digits always suffice.
-/

namespace WeakestPre.Binary64

/-- The decimal `digits * 10 ^ exponent`. -/
structure Decimal where
  digits : Nat
  exponent : Int
  deriving DecidableEq, Repr

/-- The reals from `low / den` to `high / den`, the ends included if `closed`, that round to the
number `mid / den`. -/
structure RoundingInterval where
  low : Nat
  mid : Nat
  high : Nat
  den : Nat
  closed : Bool

namespace RoundingInterval

/-- The interval of a positive magnitude, in quarters of its unit. Below a power of two the
numbers lie twice as close. -/
def ofMagnitude (m : Nat) : RoundingInterval :=
  let c := coefficientOf m
  let k := offsetOf m
  let below := if c = leadingBit ∧ 0 < k then 1 else 2
  { low := (4 * c - below) <<< k
    mid := (4 * c) <<< k
    high := (4 * c + 2) <<< k
    den := 4 <<< 1074
    closed := c % 2 == 0 }

/-- `mid / den` in units of `10 ^ exponent`, as numerator and denominator. -/
def scaled (r : RoundingInterval) (exponent : Int) : Nat × Nat :=
  if 0 ≤ exponent then (r.mid, r.den * Nat.pow 10 exponent.toNat)
  else (r.mid * Nat.pow 10 (-exponent).toNat, r.den)

def holds (r : RoundingInterval) (d : Decimal) : Bool :=
  let up := Nat.pow 10 d.exponent.toNat
  let down := Nat.pow 10 (-d.exponent).toNat
  let value := d.digits * up * r.den
  if r.closed then r.low * down ≤ value && value ≤ r.high * down
  else r.low * down < value && value < r.high * down

/-- The nearer neighbour of the number among the multiples of `10 ^ exponent`, if it or the other
one lies in the interval. -/
def onGrid? (r : RoundingInterval) (exponent : Int) : Option Decimal :=
  let (num, den) := r.scaled exponent
  let floor : Decimal := ⟨num / den, exponent⟩
  let ceil : Decimal := ⟨num / den + 1, exponent⟩
  match r.holds floor, r.holds ceil with
  | true, true => some ⟨divRound num den, exponent⟩
  | true, false => some floor
  | false, true => some ceil
  | false, false => none

/-- The first hit with at most `left` more digits than `exponent` allows now. -/
def search (r : RoundingInterval) : Nat → Int → Decimal
  | 0, exponent => ⟨(r.scaled exponent).1 / (r.scaled exponent).2, exponent⟩
  | left + 1, exponent => (r.onGrid? exponent).getD (r.search left (exponent - 1))

/-- The power of ten of the leading digit. -/
def leadingExponent (r : RoundingInterval) : Int :=
  let guess := ((r.mid.log2 : Int) - 1076) * 30103 / 100000
  let reaches (e : Int) : Bool := (r.scaled e).2 ≤ (r.scaled e).1
  if reaches (guess + 1) then guess + 1 else if reaches guess then guess else guess - 1

end RoundingInterval

/-- Moves factors of ten from the digits to the exponent, at most `fuel` of them. -/
def Decimal.trim : Nat → Decimal → Decimal
  | 0, d => d
  | fuel + 1, d => if d.digits % 10 = 0 then trim fuel ⟨d.digits / 10, d.exponent + 1⟩ else d

/-- The decimal with the fewest digits that rounds to a positive magnitude. -/
def shortest (magnitude : Nat) : Decimal :=
  let r := RoundingInterval.ofMagnitude magnitude
  (r.search 17 r.leadingExponent).trim 20

end WeakestPre.Binary64
