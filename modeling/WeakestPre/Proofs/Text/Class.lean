import WeakestPre.Text.Class

/-!
# Character classes that exclude each other

**Checking two sets** (`CodeSet.isApart`). Two sets of code points are given by their switches. One
walk over both lists of switches finds out whether some code point lies in both sets, without
looking at every code point.

**Classes of the language.** No character is both a blank and the start of a lexeme, and none both
starts a word and belongs to a numeral. Digits without a place in a positional system, numerals
that are letters and all the blanks of Unicode are covered by the walk.
-/

namespace WeakestPre.Text

/-! ## Checking two sets -/

namespace CodeSet

/-- Whether no number is inside both of two lists of switches, when membership up to the next switch
of each is given. Every round passes a switch. -/
def apart : Nat → Bool → List Nat → Bool → List Nat → Bool
  | 0, _, _, _, _ => false
  | rounds + 1, inside, switches, inside', switches' =>
    !(inside && inside') && match switches, switches' with
      | [], [] => true
      | _ :: rest, [] => apart rounds (!inside) rest inside' []
      | [], _ :: rest' => apart rounds inside [] (!inside') rest'
      | s :: rest, s' :: rest' =>
        if s < s' then apart rounds (!inside) rest inside' (s' :: rest')
        else if s' < s then apart rounds inside (s :: rest) (!inside') rest'
        else apart rounds (!inside) rest (!inside') rest'

theorem insideAt_of_apart {n rounds : Nat} {inside inside' : Bool} {switches switches' : List Nat}
    (h : apart rounds inside switches inside' switches' = true)
    (hn : insideAt n inside switches = true) : insideAt n inside' switches' = false := by
  induction rounds generalizing inside inside' switches switches' with
  | zero => simp [apart] at h
  | succ rounds ih =>
    -- A number in front of both next switches is settled by the test at the front, and any other
    -- one by the rest of the walk.
    cases switches with
    | nil =>
      cases switches' with
      | nil => grind [apart, insideAt]
      | cons s' rest' => grind [apart, insideAt]
    | cons s rest =>
      cases switches' with
      | nil => grind [apart, insideAt]
      | cons s' rest' => grind [apart, insideAt]

/-- Whether no code point is in both sets. -/
def isApart (set set' : CodeSet) : Bool :=
  apart (set.switches.length + set'.switches.length + 1) false set.switches false set'.switches

theorem contains_of_isApart {set set' : CodeSet} {c : Char} (h : set.isApart set' = true)
    (hc : set.contains c = true) : set'.contains c = false :=
  insideAt_of_apart h hc

end CodeSet

/-! ## Classes of the language -/

/-- White space as a set of code points. -/
def blanks : CodeSet :=
  ⟨[0x09, 0x0e, 0x1c, 0x21, 0x85, 0x86, 0xa0, 0xa1, 0x1680, 0x1681, 0x2000, 0x200b, 0x2028, 0x202a,
    0x202f, 0x2030, 0x205f, 0x2060, 0x3000, 0x3001]⟩

theorem letters_isApart_digits : letters.isApart digits = true := by decide +kernel

theorem blanks_isApart_letters : blanks.isApart letters = true := by decide +kernel

theorem blanks_isApart_digits : blanks.isApart digits = true := by decide +kernel

theorem blanks_isApart_numerics : blanks.isApart numerics = true := by decide +kernel

variable {c : Char}

theorem contains_blanks (h : isBlank c = true) : blanks.contains c = true := by
  simp only [isBlank, Bool.or_eq_true, Bool.and_eq_true, decide_eq_true_eq, beq_iff_eq] at h
  simp only [CodeSet.contains, blanks, CodeSet.insideAt]
  rcases h with (((((((((h | h) | h) | h) | h) | h) | h) | h) | h) | h) | h
  all_goals grind

theorem isNumeralPart_of_isWordStart (h : isWordStart c = true) : isNumeralPart c = false := by
  rw [isWordStart, Bool.or_eq_true, beq_iff_eq] at h
  rw [isNumeralPart, Bool.or_eq_false_iff]
  rcases h with hletter | rfl
  · refine ⟨CodeSet.contains_of_isApart letters_isApart_digits hletter, ?_⟩
    rw [beq_eq_false_iff_ne]
    rintro rfl
    exact absurd hletter (by decide)
  · decide

theorem isNumeralPart_of_isBlank (h : isBlank c = true) : isNumeralPart c = false := by
  rw [isNumeralPart, Bool.or_eq_false_iff, beq_eq_false_iff_ne]
  refine ⟨CodeSet.contains_of_isApart blanks_isApart_digits (contains_blanks h), ?_⟩
  rintro rfl
  exact absurd h (by decide)

theorem isWordStart_of_isBlank (h : isBlank c = true) : isWordStart c = false := by
  rw [isWordStart, Bool.or_eq_false_iff, beq_eq_false_iff_ne]
  refine ⟨CodeSet.contains_of_isApart blanks_isApart_letters (contains_blanks h), ?_⟩
  rintro rfl
  exact absurd h (by decide)

theorem isWordPart_of_isBlank (h : isBlank c = true) : isWordPart c = false := by
  rw [isWordPart, Bool.or_eq_false_iff, Bool.or_eq_false_iff, beq_eq_false_iff_ne]
  refine ⟨⟨CodeSet.contains_of_isApart blanks_isApart_letters (contains_blanks h),
    CodeSet.contains_of_isApart blanks_isApart_numerics (contains_blanks h)⟩, ?_⟩
  rintro rfl
  exact absurd h (by decide)

end WeakestPre.Text
