import WeakestPre.Document.Json
import Mathlib.Data.List.Chain

/-!
# Strings in JSON text

**Escapes** (`Escaped`). A code point is written in one of four ways: as it is, by a letter, by its
code, or by the codes of a pair of surrogates.

**Pairs.** The reader takes the codes of a pair for one character. So text is read as it was written
only if no two surrogates that form a pair stand side by side (`Unpaired`); strings are such text.
Text with pairs is written as the text in which they have been joined (`joinPairs`).

**Theorem** (`readString_escapes`). Text without pairs is read from its escapes.
-/

namespace WeakestPre

/-! ## Hexadecimal numerals -/

namespace Text

theorem hexValue?_digitChar {d : Nat} (h : d < 16) : hexValue? d.digitChar = some d := by
  revert d
  decide

theorem readHex?_concat (cs : List Char) (c : Char) :
    readHex? (cs ++ [c]) = (readHex? cs).bind fun n => (hexValue? c).map (16 * n + ·) := by
  rw [readHex?, List.foldl_append]
  rfl

theorem readHex?_toDigits (n : Nat) : readHex? (Nat.toDigits 16 n) = some n := by
  induction n using Nat.strongRecOn with
  | ind n ih =>
    by_cases hn : n < 16
    · rw [Nat.toDigits_of_lt_base hn, ← List.nil_append [n.digitChar], readHex?_concat,
        hexValue?_digitChar hn]
      simp [readHex?]
    · rw [Nat.toDigits_of_base_le (by decide) (Nat.not_lt.1 hn), readHex?_concat,
        ih (n / 16) (by omega), hexValue?_digitChar (Nat.mod_lt n (by decide))]
      simp [Nat.div_add_mod]

theorem readHex?_zeros (k : Nat) (cs : List Char) :
    readHex? (List.replicate k '0' ++ cs) = readHex? cs := by
  induction k with
  | zero => rfl
  | succ k ih => exact ih

theorem readHex?_hexDigits (width n : Nat) : readHex? (hexDigits width n) = some n := by
  rw [hexDigits, readHex?_zeros, readHex?_toDigits]

theorem length_hexDigits {width n : Nat} (hwidth : 0 < width) (h : n < Nat.pow 16 width) :
    (hexDigits width n).length = width := by
  have hle : (Nat.toDigits 16 n).length ≤ width :=
    (Nat.length_toDigits_le_iff (by decide) hwidth).2 h
  rw [hexDigits, List.length_append, List.length_replicate]
  omega

/-! ## Code points -/

namespace CodePoint

theorem ofNat_toNat (p : CodePoint) : ofNat p.toNat = p := by
  cases p with
  | char c =>
    have hvalid : c.toNat.isValidChar := c.valid
    rw [toNat, ofNat, if_pos hvalid, Char.ofNat_toNat]
  | surrogate offset =>
    have hlt := offset.isLt
    have hinvalid : ¬ (firstSurrogate + offset.val).isValidChar := by
      simp only [firstSurrogate, Nat.isValidChar]
      omega
    rw [toNat, ofNat, if_neg hinvalid, Nat.add_sub_cancel_left, Fin.ofNat_val_eq_self]

theorem toNat_of_ofPair? {m n : Nat} {p : CodePoint} (h : ofPair? m n = some p) :
    (0xd800 ≤ m ∧ m < 0xdc00 ∧ 0xdc00 ≤ n ∧ n < 0xe000) ∧
      ∃ c, p = .char c ∧ c.toNat = 0x10000 + 0x400 * (m - 0xd800) + (n - 0xdc00) := by
  rw [ofPair?] at h
  split at h
  · next hrange =>
    have hvalid : (0x10000 + 0x400 * (m - 0xd800) + (n - 0xdc00)).isValidChar := by
      rw [Nat.isValidChar]
      omega
    refine ⟨hrange, _, (Option.some.inj h).symm, ?_⟩
    rw [Char.ofNat, dif_pos hvalid]
    rfl
  · cases h

/-- A character is no half of a pair. -/
theorem ofPair?_char (c : Char) (n : Nat) :
    ofPair? c.toNat n = none ∧ ofPair? n c.toNat = none := by
  have hvalid : c.toNat.isValidChar := c.valid
  rw [Nat.isValidChar] at hvalid
  constructor
  · exact if_neg (by omega)
  · exact if_neg (by omega)

end CodePoint

/-- No two surrogates that form a pair stand side by side. -/
def Unpaired (w : Wide) : Prop :=
  w.IsChain fun p q => CodePoint.ofPair? p.toNat q.toNat = none

theorem unpaired_wide (s : String) : Unpaired (wide s) := by
  rw [Unpaired, wide, List.isChain_map]
  generalize s.toList = cs
  induction cs with
  | nil => exact .nil
  | cons c cs ih =>
    cases cs with
    | nil => exact .singleton c
    | cons d cs => exact List.isChain_cons_cons.2 ⟨(CodePoint.ofPair?_char c _).1, ih⟩

/-- Joins surrogates that form a pair. -/
def joinPairs : Wide → Wide
  | [] => []
  | [p] => [p]
  | p :: q :: rest =>
    match CodePoint.ofPair? p.toNat q.toNat with
    | some c => c :: joinPairs rest
    | none => p :: joinPairs (q :: rest)

theorem string?_eq_some_iff {w : Wide} {s : String} : string? w = some s ↔ w = wide s := by
  have hchars : ∀ (w : Wide) (cs : List Char),
      w.mapM CodePoint.char? = some cs ↔ w = cs.map .char := by
    intro w
    induction w with
    | nil => simp [eq_comm]
    | cons p w ih =>
      intro cs
      cases p with
      | char c =>
        cases cs <;> simp [CodePoint.char?, Option.bind_eq_some_iff, ih, and_comm, eq_comm (a := c)]
      | surrogate offset => cases cs <;> simp [CodePoint.char?]
  rw [string?, Option.map_eq_some_iff, wide]
  constructor
  · rintro ⟨cs, hcs, rfl⟩
    rw [String.toList_ofList]
    exact (hchars w cs).1 hcs
  · intro hw
    exact ⟨s.toList, (hchars w _).2 hw, String.ofList_toList⟩

end Text

theorem Document.ofWide_wide (s : String) : ofWide (Text.wide s) = .text s := by
  rw [ofWide, Text.string?_eq_some_iff.2 rfl]

namespace Json

open Text

/-! ## Escapes -/

/-- How a code point may be written. -/
inductive Escaped : CodePoint → List Char → Prop
  | plain {c : Char} (hquote : c ≠ '"') (hslash : c ≠ '\\') (hcontrol : 0x20 ≤ c.toNat) :
      Escaped (.char c) [c]
  | letter {l c : Char} (hl : l ≠ 'u') (hc : escape? l = some c) : Escaped (.char c) ['\\', l]
  | code {p : CodePoint} (hp : p.toNat < 0x10000) : Escaped p (unicodeEscape p.toNat)
  | pair {m n : Nat} {p : CodePoint} (hp : CodePoint.ofPair? m n = some p) :
      Escaped p (unicodeEscape m ++ unicodeEscape n)

theorem escapeChar_of_large {c : Char} (h : 0x10000 ≤ c.toNat) :
    escapeChar c = unicodeEscape (0xd800 + (c.toNat - 0x10000) / 0x400) ++
      unicodeEscape (0xdc00 + (c.toNat - 0x10000) % 0x400) := by
  have hne : ∀ d : Char, d.toNat < 0x10000 → c ≠ d := by
    rintro d hd rfl
    omega
  rw [escapeChar, if_neg (hne _ (by decide)), if_neg (hne _ (by decide)),
    if_neg (hne _ (by decide)), if_neg (hne _ (by decide)), if_neg (hne _ (by decide))]
  exact (if_neg (by omega)).trans ((if_neg (by omega)).trans
    ((if_neg (by omega)).trans (if_neg (by omega))))

/-- The character of a pair is written as the pair. -/
theorem escapePoint_of_ofPair? {m n : Nat} {p : CodePoint} (h : CodePoint.ofPair? m n = some p) :
    escapePoint p = unicodeEscape m ++ unicodeEscape n := by
  obtain ⟨hrange, c, rfl, hc⟩ := CodePoint.toNat_of_ofPair? h
  have hhigh : 0xd800 + (c.toNat - 0x10000) / 0x400 = m := by omega
  have hlow : 0xdc00 + (c.toNat - 0x10000) % 0x400 = n := by omega
  rw [escapePoint, escapeChar_of_large (by omega), hhigh, hlow]

/-- A character that is not as small as others is that of a pair. -/
theorem exists_ofPair?_of_large {c : Char} (h : 0x10000 ≤ c.toNat) :
    ∃ m n, CodePoint.ofPair? m n = some (.char c) := by
  have hvalid : c.toNat.isValidChar := c.valid
  rw [Nat.isValidChar] at hvalid
  refine ⟨0xd800 + (c.toNat - 0x10000) / 0x400, 0xdc00 + (c.toNat - 0x10000) % 0x400, ?_⟩
  rw [CodePoint.ofPair?, if_pos (by omega)]
  have hcode : 0x10000 + 0x400 * (0xd800 + (c.toNat - 0x10000) / 0x400 - 0xd800) +
      (0xdc00 + (c.toNat - 0x10000) % 0x400 - 0xdc00) = c.toNat := by omega
  rw [hcode, Char.ofNat_toNat]

theorem escaped_escapePoint (p : CodePoint) : Escaped p (escapePoint p) := by
  cases p with
  | surrogate offset =>
    have hlt := offset.isLt
    exact .code (by rw [CodePoint.toNat, firstSurrogate]; omega)
  | char c =>
    by_cases hlarge : 0x10000 ≤ c.toNat
    · obtain ⟨m, n, hpair⟩ := exists_ofPair?_of_large hlarge
      rw [escapePoint_of_ofPair? hpair]
      exact .pair hpair
    have hletter : ∀ d l : Char, c = d → l ≠ 'u' → escape? l = some d →
        Escaped (.char c) ['\\', l] := by
      rintro _ l rfl hl hescape
      exact .letter hl hescape
    have hcode : ∀ n, c.toNat = n → c = Char.ofNat n := by
      rintro _ rfl
      exact (Char.ofNat_toNat c).symm
    have hbranch {b : Prop} [Decidable b] {v w : List Char} (hv : b → Escaped (.char c) v)
        (hw : ¬ b → Escaped (.char c) w) : Escaped (.char c) (if b then v else w) :=
      iteInduction hv hw
    rw [escapePoint, escapeChar]
    refine hbranch (fun h => hletter _ _ h (by decide) rfl) fun hquote => ?_
    refine hbranch (fun h => hletter _ _ h (by decide) rfl) fun hslash => ?_
    refine hbranch (fun h => hletter _ _ h (by decide) rfl) fun _ => ?_
    refine hbranch (fun h => hletter _ _ h (by decide) rfl) fun _ => ?_
    refine hbranch (fun h => hletter _ _ h (by decide) rfl) fun _ => ?_
    refine hbranch (fun h => hletter _ _ (hcode _ h) (by decide) rfl) fun _ => ?_
    refine hbranch (fun h => hletter _ _ (hcode _ h) (by decide) rfl) fun _ => ?_
    refine hbranch (fun h => .plain hquote hslash h.1) fun _ => ?_
    rw [if_pos (by omega)]
    exact .code (Nat.not_le.1 hlarge)

/-! ## Reading escapes -/

variable {m n : Nat} {acc : Wide} {rest : List Char}

theorem exists_hexDigits_four (h : n < 0x10000) :
    ∃ a b c d, hexDigits 4 n = [a, b, c, d] ∧ readHex? [a, b, c, d] = some n := by
  have hlength : (hexDigits 4 n).length = 4 := length_hexDigits (by decide) h
  have hread := readHex?_hexDigits 4 n
  generalize hexDigits 4 n = ds at hlength hread
  obtain ⟨a, b, c, d, rfl⟩ := List.length_eq_four.1 hlength
  exact ⟨a, b, c, d, rfl, hread⟩

/-- A code on its own. -/
theorem readPoints_code (hn : n < 0x10000) (hrest : ∀ tail, rest ≠ '\\' :: 'u' :: tail) :
    readPoints acc (unicodeEscape n ++ rest) = readPoints (.ofNat n :: acc) rest := by
  obtain ⟨a, b, c, d, hdigits, hread⟩ := exists_hexDigits_four hn
  rw [unicodeEscape, hdigits]
  show readPoints acc ('\\' :: 'u' :: a :: b :: c :: d :: rest) = _
  rw [readPoints, hread]
  intro e f g h tail htail
  exact hrest _ htail

theorem readPoints_two_codes (hm : m < 0x10000) (hn : n < 0x10000) :
    readPoints acc (unicodeEscape m ++ (unicodeEscape n ++ rest)) =
      ((CodePoint.ofPair? m n).map fun p => readPoints (p :: acc) rest).getD
        (readPoints (.ofNat m :: acc) (unicodeEscape n ++ rest)) := by
  obtain ⟨a, b, c, d, hdigits, hread⟩ := exists_hexDigits_four hm
  obtain ⟨e, f, g, h, hdigits', hread'⟩ := exists_hexDigits_four hn
  rw [unicodeEscape, unicodeEscape, hdigits, hdigits']
  show readPoints acc
    ('\\' :: 'u' :: a :: b :: c :: d :: '\\' :: 'u' :: e :: f :: g :: h :: rest) = _
  rw [readPoints, hread, hread']
  cases hpair : CodePoint.ofPair? m n with
  | none => simp [hpair]
  | some p => simp [hpair]

/-- What follows a code point does not start with a code, or starts with one that makes no pair. -/
theorem start_of_unpaired {p : CodePoint} {w : Wide} (h : Unpaired (p :: w)) (rest : List Char) :
    (∀ tail, w.flatMap escapePoint ++ '"' :: rest ≠ '\\' :: 'u' :: tail) ∨
      ∃ n tail, n < 0x10000 ∧ CodePoint.ofPair? p.toNat n = none ∧
        w.flatMap escapePoint ++ '"' :: rest = unicodeEscape n ++ tail := by
  cases w with
  | nil => exact .inl (by simp)
  | cons q w =>
    obtain ⟨hpair, -⟩ := List.isChain_cons_cons.1 h
    rw [List.flatMap_cons, List.append_assoc]
    have hescaped := escaped_escapePoint q
    generalize escapePoint q = text at hescaped
    cases hescaped with
    | plain hquote hslash hcontrol => exact .inl (by simp [hslash])
    | letter hl hc => exact .inl (by simp [hl])
    | code hq => exact .inr ⟨_, _, hq, hpair, rfl⟩
    | @pair m n _ hq =>
      obtain ⟨hrange, -⟩ := CodePoint.toNat_of_ofPair? hq
      refine .inr ⟨m, _, by omega, ?_, List.append_assoc ..⟩
      exact if_neg (by omega)

/-- One step of the reader: it takes the escape of a code point. -/
theorem readPoints_escapePoint {p : CodePoint} {w : Wide} (h : Unpaired (p :: w)) :
    readPoints acc (escapePoint p ++ (w.flatMap escapePoint ++ '"' :: rest)) =
      readPoints (p :: acc) (w.flatMap escapePoint ++ '"' :: rest) := by
  have hstart := start_of_unpaired h rest
  have hescaped := escaped_escapePoint p
  generalize escapePoint p = text at hescaped
  generalize w.flatMap escapePoint ++ '"' :: rest = more at hstart
  cases hescaped with
  | plain hquote hslash hcontrol =>
    show readPoints acc (_ :: more) = _
    rw [readPoints]
    · exact if_neg (by omega)
    · exact hquote
    all_goals simp [hslash]
  | letter hl hc =>
    show readPoints acc ('\\' :: _ :: more) = _
    rw [readPoints, hc]
    all_goals simp [hl]
  | code hp =>
    rcases hstart with hstart | ⟨n, tail, hn, hpair, rfl⟩
    · rw [readPoints_code hp hstart, CodePoint.ofNat_toNat]
    · rw [readPoints_two_codes hp hn, hpair, CodePoint.ofNat_toNat]
      rfl
  | pair hp =>
    obtain ⟨hrange, -⟩ := CodePoint.toNat_of_ofPair? hp
    rw [List.append_assoc, readPoints_two_codes (by omega) (by omega), hp]
    rfl

/-- **Text without pairs is read from its escapes.** -/
theorem readString_escapes {w : Wide} (h : Unpaired w) (rest : List Char) :
    readString (w.flatMap escapePoint ++ '"' :: rest) = some (w, rest) := by
  have hpoints : ∀ (w acc : Wide), Unpaired w →
      readPoints acc (w.flatMap escapePoint ++ '"' :: rest) = some (w.reverse ++ acc, rest) := by
    intro w
    induction w with
    | nil =>
      intro acc _
      rw [List.flatMap_nil, List.nil_append, readPoints]
      rfl
    | cons p w ih =>
      intro acc h
      rw [List.flatMap_cons, List.append_assoc, readPoints_escapePoint h, ih _ h.tail,
        List.reverse_cons, List.append_assoc]
      rfl
  rw [readString, hpoints w [] h, List.append_nil, Option.map_some]
  exact congrArg (fun v => some (v, rest)) w.reverse_reverse

/-! ## Joined pairs -/

theorem escapePoint_of_surrogate {p : CodePoint} (hlow : 0xd800 ≤ p.toNat)
    (hhigh : p.toNat < 0xe000) : escapePoint p = unicodeEscape p.toNat := by
  cases p with
  | char c =>
    have hvalid : c.toNat.isValidChar := c.valid
    rw [Nat.isValidChar] at hvalid
    rw [CodePoint.toNat] at hlow hhigh
    omega
  | surrogate offset => rfl

/-- Text is written as the text with its pairs joined. -/
theorem writeWide_joinPairs (w : Wide) : writeWide (joinPairs w) = writeWide w := by
  have hescapes : (joinPairs w).flatMap escapePoint = w.flatMap escapePoint := by
    fun_induction joinPairs w with
    | case1 => rfl
    | case2 p => rfl
    | case3 p q rest c hpair ih =>
      obtain ⟨hrange, -⟩ := CodePoint.toNat_of_ofPair? hpair
      rw [List.flatMap_cons, List.flatMap_cons, List.flatMap_cons, ih, escapePoint_of_ofPair? hpair,
        escapePoint_of_surrogate (p := p) (by omega) (by omega),
        escapePoint_of_surrogate (p := q) (by omega) (by omega), List.append_assoc]
    | case4 p q rest hpair ih => rw [List.flatMap_cons, List.flatMap_cons, ih]
  rw [writeWide, writeWide, hescapes]

theorem unpaired_joinPairs (w : Wide) : Unpaired (joinPairs w) := by
  -- What comes first is as before, or a character.
  have hhead : ∀ q rest, ∀ x ∈ (joinPairs (q :: rest)).head?, x = q ∨ ∃ c, x = .char c := by
    intro q rest x hx
    cases rest with
    | nil => exact .inl (by simpa [joinPairs] using hx.symm)
    | cons r rest =>
      rw [joinPairs] at hx
      cases hpair : CodePoint.ofPair? q.toNat r.toNat with
      | none => exact .inl (by simpa [hpair] using hx.symm)
      | some c =>
        obtain ⟨-, d, rfl, -⟩ := CodePoint.toNat_of_ofPair? hpair
        exact .inr ⟨d, by simpa [hpair] using hx.symm⟩
  fun_induction joinPairs w with
  | case1 => exact .nil
  | case2 p => exact .singleton p
  | case3 p q rest c hpair ih =>
    obtain ⟨-, d, rfl, -⟩ := CodePoint.toNat_of_ofPair? hpair
    exact List.isChain_cons.2 ⟨fun y _ => (CodePoint.ofPair?_char d _).1, ih⟩
  | case4 p q rest hpair ih =>
    refine List.isChain_cons.2 ⟨fun y hy => ?_, ih⟩
    rcases hhead q rest y hy with rfl | ⟨c, rfl⟩
    · exact hpair
    · exact (CodePoint.ofPair?_char c _).2

end Json

end WeakestPre
