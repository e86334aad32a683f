import WeakestPre.Binary64.Numeral
import WeakestPre.Proofs.Text.Class

/-!
# The value of a numeral

A numeral of the language is a run of digits and points. Other texts that write numbers have signs,
exponents, underscores, blanks and words such as `nan`. None of these can be mistaken for digits or
points of another script: brought to ASCII, a run of digits and points consists of ASCII digits,
points and marks that fit no numeral (`mem_numeralForms`).

**Theorem** (`sign_of_ofNumeral?`). A run of digits and points writes no number, or one that is
neither negative nor undefined.
-/

namespace WeakestPre

namespace Binary64

/-! ## Numbers without a sign -/

theorem sign_ofMagnitude {m : Nat} (h : m ≤ infiniteMagnitude) :
    (ofMagnitude false m).isNaN = false ∧ (ofMagnitude false m).isNegative = false := by
  have hbits : (ofMagnitude false m).bits.toNat = m := by
    have : m < 2 ^ 64 := by
      rw [infiniteMagnitude] at h
      omega
    simpa [ofMagnitude] using Nat.mod_eq_of_lt this
  rw [infiniteMagnitude] at h
  simp only [isNaN, isNegative, magnitude, hbits, signBit, infiniteMagnitude, decide_eq_false_iff_not]
  omega

theorem sign_ofRatio (num den : Nat) :
    (ofRatio false num den).isNaN = false ∧ (ofRatio false num den).isNegative = false :=
  sign_ofMagnitude (Nat.min_le_left _ _)

theorem sign_ofDecimal (digits : Nat) (exponent : Int) :
    (ofDecimal false digits exponent).isNaN = false ∧
      (ofDecimal false digits exponent).isNegative = false := by
  rw [ofDecimal]
  split
  · exact sign_ofMagnitude (Nat.zero_le _)
  · split
    · exact sign_ofRatio _ _
    · split
      · exact sign_ofMagnitude (Nat.le_refl _)
      · exact sign_ofRatio _ _

theorem exists_of_readDecimal? {negative : Bool} {cs : List Char} {v : Binary64}
    (h : readDecimal? negative cs = some v) :
    ∃ digits exponent, v = ofDecimal negative digits exponent := by
  rw [readDecimal?] at h
  dsimp only at h
  split at h
  all_goals
    split at h
    · cases h
    · obtain ⟨e, -, rfl⟩ := Option.map_eq_some_iff.1 h
      exact ⟨_, _, rfl⟩

/-! ## Runs of digits and points -/

/-- What digits and points become in ASCII. -/
def numeralForms : List Char := ['0', '1', '2', '3', '4', '5', '6', '7', '8', '9', '.', '?']

theorem ofNat_mem_numeralForms {d : Nat} (h : d < 10) :
    Char.ofNat ('0'.toNat + d) ∈ numeralForms := by
  have hall : ∀ d : Fin 10, Char.ofNat ('0'.toNat + d) ∈ numeralForms := by decide
  exact hall ⟨d, h⟩

/-- The digits in ASCII are those of the decimal system. -/
theorem mem_numeralForms_of_lt {c : Char} (h : Text.isDigit c = true) (hlt : c.toNat < 127) :
    c ∈ numeralForms := by
  have hbounds : 48 ≤ c.toNat ∧ c.toNat < 58 := by
    have hswitches : Text.digits.switches = 48 :: 58 :: 178 :: Text.digits.switches.drop 3 := rfl
    rw [Text.isDigit, Text.CodeSet.contains, hswitches] at h
    grind [Text.CodeSet.insideAt]
  have hform := ofNat_mem_numeralForms (d := c.toNat - 48) (by omega)
  have hcode : '0'.toNat + (c.toNat - 48) = c.toNat := by
    show 48 + (c.toNat - 48) = c.toNat
    omega
  rwa [hcode, Char.ofNat_toNat] at hform

theorem mem_numeralForms {c : Char} (h : Text.isNumeralPart c = true) :
    asciiForm c ∈ numeralForms := by
  rw [asciiForm]
  split
  · rename_i hlt
    rw [Text.isNumeralPart, Bool.or_eq_true, beq_iff_eq] at h
    rcases h with hdigit | rfl
    · exact mem_numeralForms_of_lt hdigit hlt
    · decide
  · split
    · rename_i hblank
      exact absurd (h.symm.trans (Text.isNumeralPart_of_isBlank hblank)) (by simp)
    · cases hvalue : Text.decimalValue? c with
      | none => decide
      | some d =>
        obtain ⟨first, -, rfl⟩ := Option.map_eq_some_iff.1 hvalue
        exact ofNat_mem_numeralForms (Nat.mod_lt _ (by decide))

theorem class_of_mem_numeralForms {c : Char} (h : c ∈ numeralForms) :
    isPadding c = false ∧ c ≠ '_' ∧ c ≠ '-' ∧ c ≠ '+' ∧ c.toLower ≠ 'n' := by
  have hall : (numeralForms.all fun c => !isPadding c && (c != '_' && (c != '-' && (c != '+' &&
      c.toLower != 'n')))) = true := by
    decide
  simpa using List.all_eq_true.1 hall c h

section

variable {cs : List Char} (h : ∀ c ∈ cs, c ∈ numeralForms)

include h

theorem dropWhile_isPadding : cs.dropWhile isPadding = cs := by
  cases cs with
  | nil => rfl
  | cons c cs =>
    have hc := (class_of_mem_numeralForms (h c List.mem_cons_self)).1
    rw [List.dropWhile_cons_of_neg (by simp [hc])]

theorem joinDigits?_eq_some (before : Char) (hbefore : before ≠ '_') :
    joinDigits? before cs = some cs := by
  induction cs generalizing before with
  | nil => simp [joinDigits?, hbefore]
  | cons c cs ih =>
    obtain ⟨hc, hcs⟩ := List.forall_mem_cons.1 h
    have hne := (class_of_mem_numeralForms hc).2.1
    simp [joinDigits?, hne, hbefore, ih hcs c hne]

theorem takeSign_eq : takeSign cs = (false, cs) := by
  cases cs with
  | nil => rfl
  | cons c cs =>
    obtain ⟨-, -, hminus, hplus, -⟩ := class_of_mem_numeralForms (h c List.mem_cons_self)
    rw [takeSign]
    · simpa using hminus
    · simpa using hplus

/-- Without a sign and letters, what is left is a decimal. -/
theorem sign_of_readAscii? {v : Binary64} (hv : readAscii? cs = some v) :
    v.isNaN = false ∧ v.isNegative = false := by
  rw [readAscii?, takeSign_eq h] at hv
  simp only at hv
  split at hv
  · obtain rfl := Option.some.inj hv
    exact sign_ofMagnitude (Nat.le_refl _)
  · obtain rfl := Option.some.inj hv
    exact sign_ofMagnitude (Nat.le_refl _)
  · rename_i hnan
    have hchars : cs.map Char.toLower = ['n', 'a', 'n'] := by
      simpa using congrArg String.toList hnan
    obtain ⟨c, _, rfl, hc, -⟩ := List.map_eq_cons_iff.1 hchars
    exact absurd hc (class_of_mem_numeralForms (h c List.mem_cons_self)).2.2.2.2
  · obtain ⟨digits, exponent, rfl⟩ := exists_of_readDecimal? hv
    exact sign_ofDecimal digits exponent

end

/-- **Numerals of the language write numbers that are neither negative nor undefined.** -/
theorem sign_of_ofNumeral? {s : String} {v : Binary64}
    (h : ∀ c ∈ s.toList, Text.isNumeralPart c = true) (hv : ofNumeral? s = some v) :
    v.isNaN = false ∧ v.isNegative = false := by
  have hforms : ∀ c ∈ s.toList.map asciiForm, c ∈ numeralForms := by
    intro c hc
    obtain ⟨d, hd, rfl⟩ := List.mem_map.1 hc
    exact mem_numeralForms (h d hd)
  have hreverse : ∀ c ∈ (s.toList.map asciiForm).reverse, c ∈ numeralForms :=
    fun c hc => hforms c (List.mem_reverse.1 hc)
  rw [ofNumeral?] at hv
  simp only [dropWhile_isPadding hforms, dropWhile_isPadding hreverse, List.reverse_reverse,
    joinDigits?_eq_some hforms ' ' (by decide)] at hv
  exact sign_of_readAscii? hforms hv

end Binary64

end WeakestPre
