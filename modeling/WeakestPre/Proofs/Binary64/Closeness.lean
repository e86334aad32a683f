import WeakestPre.Binary64.Basic

/-!
# Closeness as a comparison of numbers

`close` works with exact multiples of the least positive number and rounds their difference once.

**Theorem** (`close_eq_less`). This is the test `|x - y| < 1e-10` in the arithmetic of binary64
numbers: the difference is the rounded sum with the negated number, and nothing is less or greater
than what is not a number. In particular, an infinite number differs from itself by what is not a
number, and so it is close to nothing.

Closeness is symmetric (`close_comm`), and a number is close to itself exactly if it is finite
(`close_self`).
-/

namespace WeakestPre.Binary64

variable {x y : Binary64}

/-! ## Arithmetic and order -/

/-- The difference, rounded. -/
def sub (x y : Binary64) : Binary64 := x.add y.neg

def abs (x : Binary64) : Binary64 := ofMagnitude false x.magnitude

/-- The place of a number in the order from minus to plus infinity. -/
def rank (x : Binary64) : Int := if x.isNegative then -(x.magnitude : Int) else x.magnitude

/-- What is not a number is neither less nor greater than anything. -/
def less (x y : Binary64) : Bool := !x.isNaN && !y.isNaN && x.rank < y.rank

/-! ## Sign and magnitude -/

theorem magnitude_lt (x : Binary64) : x.magnitude < signBit := Nat.mod_lt _ (by decide)

theorem bits_ofMagnitude (negative : Bool) {m : Nat} (h : m < signBit) :
    (ofMagnitude negative m).bits.toNat = if negative then signBit + m else m := by
  rw [signBit] at h
  have hlt : (if negative then signBit + m else m) < 2 ^ 64 := by
    cases negative <;> simp [signBit] <;> omega
  simpa [ofMagnitude] using Nat.mod_eq_of_lt hlt

theorem magnitude_ofMagnitude (negative : Bool) {m : Nat} (h : m < signBit) :
    (ofMagnitude negative m).magnitude = m := by
  rw [magnitude, bits_ofMagnitude negative h]
  cases negative with
  | false => exact Nat.mod_eq_of_lt h
  | true => simpa using Nat.mod_eq_of_lt h

theorem isNegative_ofMagnitude (negative : Bool) {m : Nat} (h : m < signBit) :
    (ofMagnitude negative m).isNegative = negative := by
  rw [isNegative, bits_ofMagnitude negative h]
  cases negative with
  | false => simpa using h
  | true => simp

@[simp] theorem magnitude_neg (x : Binary64) : x.neg.magnitude = x.magnitude :=
  magnitude_ofMagnitude _ x.magnitude_lt

@[simp] theorem isNegative_neg (x : Binary64) : x.neg.isNegative = !x.isNegative :=
  isNegative_ofMagnitude _ x.magnitude_lt

theorem units_neg (x : Binary64) : x.neg.units = -x.units := by
  simp only [units, absUnits, isNegative_neg, magnitude_neg]
  cases x.isNegative <;> simp

@[simp] theorem isNaN_neg (x : Binary64) : x.neg.isNaN = x.isNaN := by
  simp [isNaN]

@[simp] theorem isInfinite_neg (x : Binary64) : x.neg.isInfinite = x.isInfinite := by
  simp [isInfinite]

/-! ## The rounded difference -/

theorem isFinite_eq (x : Binary64) : x.isFinite = (!x.isNaN && !x.isInfinite) := by
  rw [Bool.eq_iff_iff]
  simp only [isFinite, isNaN, isInfinite, Bool.and_eq_true, Bool.not_eq_true', decide_eq_true_eq,
    decide_eq_false_iff_not, beq_eq_false_iff_ne]
  omega

theorem magnitudeOfUnits_zero : magnitudeOfUnits 0 1 = 0 := by decide

theorem magnitudeOfUnits_lt (num den : Nat) : magnitudeOfUnits num den < signBit :=
  Nat.lt_of_le_of_lt (Nat.min_le_left _ _) (by decide)

/-- The difference of finite numbers is their exact difference, rounded. -/
theorem magnitude_sub (hx : x.isFinite = true) (hy : y.isFinite = true) :
    (x.sub y).magnitude = magnitudeOfUnits (x.units - y.units).natAbs 1 := by
  simp only [isFinite_eq, Bool.and_eq_true, Bool.not_eq_true'] at hx hy
  have hsum : x.units + y.neg.units = x.units - y.units := by
    rw [units_neg]
    omega
  simp only [sub, add, hx, hy, isNaN_neg, isInfinite_neg, hsum, Bool.or_self, Bool.false_eq_true,
    if_false]
  by_cases hzero : x.units - y.units = 0
  · rw [if_pos hzero, hzero, magnitude_ofMagnitude _ (by decide)]
    exact magnitudeOfUnits_zero.symm
  · rw [if_neg hzero, magnitude_ofMagnitude _ (magnitudeOfUnits_lt _ _)]

theorem infiniteMagnitude_le (h : x.isFinite = false) : infiniteMagnitude ≤ x.magnitude := by
  simpa [isFinite] using h

/-- The difference is not finite if one of the numbers is not. -/
theorem isFinite_sub (h : x.isFinite = false ∨ y.isFinite = false) :
    (x.sub y).isFinite = false := by
  have hnan : nan.isFinite = false := by decide
  rw [sub, add, isNaN_neg, isInfinite_neg]
  by_cases hnans : (x.isNaN || y.isNaN) = true
  · rw [if_pos hnans]
    exact hnan
  · rw [if_neg hnans]
    simp only [Bool.or_eq_true, not_or, Bool.not_eq_true] at hnans
    by_cases hx : x.isInfinite = true
    · rw [if_pos hx]
      split
      · exact hnan
      · simp [isFinite_eq, hx]
    · have hy : y.isInfinite = true := by simpa [isFinite_eq, hnans, hx] using h
      rw [if_neg hx, if_pos hy, isFinite_eq, isInfinite_neg, hy]
      simp

/-! ## Closeness -/

theorem abs_less_tolerance (x : Binary64) :
    x.abs.less tolerance = decide (x.magnitude < tolerance.magnitude) := by
  have hmagnitude : x.abs.magnitude = x.magnitude := magnitude_ofMagnitude _ x.magnitude_lt
  have hsign : x.abs.isNegative = false := isNegative_ofMagnitude _ x.magnitude_lt
  have htolerance : tolerance.isNaN = false ∧ tolerance.isNegative = false := by decide
  have hbound : tolerance.magnitude < infiniteMagnitude := by decide
  simp only [less, rank, isNaN, hmagnitude, hsign, htolerance] at htolerance ⊢
  by_cases hlt : x.magnitude < tolerance.magnitude
  · have : ¬infiniteMagnitude < x.magnitude := by omega
    simp [htolerance, hlt, this]
  · simp [hlt]

/-- **Closeness compares the rounded difference with the tolerance.** -/
theorem close_eq_less (x y : Binary64) : x.close y = (x.sub y).abs.less tolerance := by
  rw [abs_less_tolerance, close]
  by_cases hfinite : x.isFinite = true ∧ y.isFinite = true
  · obtain ⟨hx, hy⟩ := hfinite
    rw [magnitude_sub hx hy, hx, hy]
    simp
  · have hbound : tolerance.magnitude < infiniteMagnitude := by decide
    have hinfinite : (x.sub y).isFinite = false := by
      apply isFinite_sub
      cases hx : x.isFinite
      · exact Or.inl rfl
      · exact Or.inr (by simpa [hx] using hfinite)
    have hle := infiniteMagnitude_le hinfinite
    have hnot : ¬(x.sub y).magnitude < tolerance.magnitude := by omega
    cases hx : x.isFinite <;> cases hy : y.isFinite <;> simp_all

theorem close_comm (x y : Binary64) : x.close y = y.close x := by
  have hdistance : (x.units - y.units).natAbs = (y.units - x.units).natAbs := by omega
  rw [close, close, hdistance, Bool.and_comm x.isFinite]

theorem close_self (x : Binary64) : x.close x = x.isFinite := by
  have htolerance : 0 < tolerance.magnitude := by decide
  rw [close, Int.sub_self, Int.natAbs_zero, magnitudeOfUnits_zero]
  simp [htolerance]

end WeakestPre.Binary64
