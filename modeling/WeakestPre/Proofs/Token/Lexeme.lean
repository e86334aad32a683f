import Mathlib.Data.List.TakeWhile
import WeakestPre.Proofs.Text.Class
import WeakestPre.Token.Basic

/-!
# The lexical classes

**Lexemes** (`IsLexeme`). A numeral is a run of digits and points, a word goes on from its first
letter, and operators and punctuation marks are those of the tables.

**Where lexemes end** (`EndsBefore`). The next character of the text, if there is one, does not
continue the lexeme: it belongs to no longer numeral or word, and it makes no operator of two
characters out of one.

**Reading one lexeme** (`lexeme?_append`, `exists_of_lexeme?`). What is read at the front of a text
is exactly the lexeme that ends before the rest. No other lexeme at the front is longer
(`IsLexeme.exists_longer`), and blanks start none.
-/

namespace WeakestPre

/-! ## Lexemes -/

/-- The characters form a lexeme of the kind. -/
inductive IsLexeme : TokenKind → List Char → Prop
  | number {v : List Char} (hne : v ≠ []) (hv : ∀ c ∈ v, Text.isNumeralPart c = true) :
      IsLexeme .number v
  | word {c : Char} {v : List Char} (hc : Text.isWordStart c = true)
      (hv : ∀ d ∈ v, Text.isWordPart d = true) : IsLexeme .identifier (c :: v)
  | longOperator {v : List Char} (hv : v ∈ longOperators) : IsLexeme .operator v
  | shortOperator {c : Char} (hc : c ∈ shortOperators) : IsLexeme .operator [c]
  | mark {c : Char} (hc : c ∈ punctuationMarks) : IsLexeme .punctuation [c]

/-- Whether a character behind a lexeme of the kind belongs to it. -/
def TokenKind.continues : TokenKind → List Char → Char → Bool
  | .number, _, c => Text.isNumeralPart c
  | .identifier, _, c => Text.isWordPart c
  | .operator, v, c => longOperators.contains (v ++ [c])
  | .punctuation, _, _ | .endOfInput, _, _ => false

/-- The text behind a lexeme does not continue it. -/
def EndsBefore (kind : TokenKind) (v r : List Char) : Prop :=
  ∀ c ∈ r.head?, kind.continues v c = false

/-- Only the next character counts. -/
theorem EndsBefore.of_head? {kind : TokenKind} {v r r' : List Char} (h : EndsBefore kind v r)
    (hhead : r'.head? = r.head?) : EndsBefore kind v r' := by
  intro c hc
  exact h c (hhead ▸ hc)

theorem endsBefore_nil (kind : TokenKind) (v : List Char) : EndsBefore kind v [] := by
  intro c hc
  simp at hc

/-- All characters of operators and punctuation marks. -/
def symbols : List Char := longOperators.flatten ++ shortOperators ++ punctuationMarks

theorem class_of_mem_symbols {c : Char} (h : c ∈ symbols) :
    Text.isBlank c = false ∧ Text.isNumeralPart c = false ∧ Text.isWordStart c = false := by
  have hall : (symbols.all fun c =>
      !Text.isBlank c && (!Text.isNumeralPart c && !Text.isWordStart c)) = true := by
    decide
  simpa using List.all_eq_true.1 hall c h

theorem notMem_symbols_of_isBlank {c : Char} (h : Text.isBlank c = true) : c ∉ symbols := by
  intro hc
  simp [(class_of_mem_symbols hc).1] at h

theorem mem_symbols_of_longOperator {c : Char} {v : List Char} (h : v ∈ longOperators)
    (hc : c ∈ v) : c ∈ symbols :=
  List.mem_append_left _ (List.mem_append_left _ (List.mem_flatten_of_mem h hc))

theorem mem_symbols_of_shortOperator {c : Char} (h : c ∈ shortOperators) : c ∈ symbols :=
  List.mem_append_left _ (List.mem_append_right _ h)

theorem mem_symbols_of_mark {c : Char} (h : c ∈ punctuationMarks) : c ∈ symbols :=
  List.mem_append_right _ h

theorem not_operator_of_mark {c : Char} (h : c ∈ punctuationMarks) :
    c ∉ longOperators.flatten ∧ c ∉ shortOperators := by
  have hall : (punctuationMarks.all fun c =>
      !longOperators.flatten.contains c && !shortOperators.contains c) = true := by
    decide
  simpa using List.all_eq_true.1 hall c h

namespace IsLexeme

variable {kind : TokenKind} {v : List Char}

theorem ne_nil (h : IsLexeme kind v) : v ≠ [] := by
  cases h with
  | number hne => exact hne
  | word => simp
  | longOperator hv =>
    rintro rfl
    exact absurd hv (by decide)
  | shortOperator => simp
  | mark => simp

/-- The mark of the end is no lexeme. -/
theorem kind_ne (h : IsLexeme kind v) : kind ≠ .endOfInput := by
  cases h <;> simp

/-- **No lexeme has a blank in it.** -/
theorem blank_notMem {b : Char} (h : IsLexeme kind v) (hb : Text.isBlank b = true) : b ∉ v := by
  have hnumeral := Text.isNumeralPart_of_isBlank hb
  have hsymbol := notMem_symbols_of_isBlank hb
  intro hmem
  cases h with
  | number _ hv => simp [hv b hmem] at hnumeral
  | word hc hv =>
    rcases List.mem_cons.1 hmem with rfl | hmem
    · simp [Text.isWordStart_of_isBlank hb] at hc
    · simpa [Text.isWordPart_of_isBlank hb] using hv b hmem
  | longOperator hv => exact hsymbol (mem_symbols_of_longOperator hv hmem)
  | shortOperator hc =>
    obtain rfl := List.mem_singleton.1 hmem
    exact hsymbol (mem_symbols_of_shortOperator hc)
  | mark hc =>
    obtain rfl := List.mem_singleton.1 hmem
    exact hsymbol (mem_symbols_of_mark hc)

theorem isBlank_head {c : Char} (h : IsLexeme kind (c :: v)) : Text.isBlank c = false := by
  rw [← Bool.not_eq_true]
  intro hb
  exact h.blank_notMem hb List.mem_cons_self

end IsLexeme

/-! ## Reading one lexeme -/

section Reading

variable {c : Char} {cs v r : List Char} {kind : TokenKind}

theorem lexeme?_numeral (hc : Text.isNumeralPart c = true) (cs : List Char) :
    lexeme? (c :: cs) = some (.number, c :: cs.takeWhile Text.isNumeralPart) := by
  rw [lexeme?, if_pos hc]

theorem lexeme?_word (hc : Text.isWordStart c = true) (cs : List Char) :
    lexeme? (c :: cs) = some (.identifier, c :: cs.takeWhile Text.isWordPart) := by
  have hnumeral := Text.isNumeralPart_of_isWordStart hc
  rw [lexeme?, if_neg (by simp [hnumeral]), if_pos hc]

theorem lexeme?_symbol (hc : c ∈ symbols) (cs : List Char) :
    lexeme? (c :: cs) =
      if longOperators.contains ((c :: cs).take 2) then some (.operator, (c :: cs).take 2)
      else if shortOperators.contains c then some (.operator, [c])
      else if punctuationMarks.contains c then some (.punctuation, [c])
      else none := by
  obtain ⟨-, hnumeral, hword⟩ := class_of_mem_symbols hc
  rw [lexeme?, if_neg (by simp [hnumeral]), if_neg (by simp [hword])]

theorem length_of_mem_longOperators : ∀ v ∈ longOperators, v.length = 2 := by
  decide

theorem lexeme?_longOperator (hv : v ∈ longOperators) (r : List Char) :
    lexeme? (v ++ r) = some (.operator, v) := by
  match v, hv, length_of_mem_longOperators v hv with
  | [a, b], hv, _ =>
    rw [List.cons_append, lexeme?_symbol (mem_symbols_of_longOperator hv List.mem_cons_self)]
    simp [hv]

/-- The first character, as the library speaks of it where a text is cut. -/
theorem not_get_zero {p : Char → Bool} (h : ∀ c ∈ r.head?, p c = false) :
    ∀ hr : 0 < r.length, ¬ p (r.get ⟨0, hr⟩) = true := by
  cases r with
  | nil => simp
  | cons c r => simp [h c rfl]

theorem takeWhile_append_eq {p : Char → Bool} (hv : ∀ c ∈ v, p c = true)
    (hr : ∀ c ∈ r.head?, p c = false) : (v ++ r).takeWhile p = v := by
  rw [List.takeWhile_append_of_pos hv, List.takeWhile_eq_nil_iff.2 (not_get_zero hr),
    List.append_nil]

/-- **A lexeme that ends before the rest is read.** -/
theorem lexeme?_append (hv : IsLexeme kind v) (hend : EndsBefore kind v r) :
    lexeme? (v ++ r) = some (kind, v) := by
  cases hv with
  | number hne hv =>
    obtain ⟨c, v, rfl⟩ := List.exists_cons_of_ne_nil hne
    rw [List.cons_append, lexeme?_numeral (hv c List.mem_cons_self),
      takeWhile_append_eq (fun d hd => hv d (List.mem_cons_of_mem c hd)) hend]
  | word hc hv => rw [List.cons_append, lexeme?_word hc, takeWhile_append_eq hv hend]
  | longOperator hv => exact lexeme?_longOperator hv r
  | @shortOperator c hc =>
    have hlong : [c] ++ r.take 1 ∉ longOperators := by
      cases r with
      | nil =>
        intro hmem
        simpa using length_of_mem_longOperators _ hmem
      | cons d r => simpa [TokenKind.continues] using hend d rfl
    rw [List.cons_append, lexeme?_symbol (mem_symbols_of_shortOperator hc)]
    simp_all
  | @mark c hc =>
    obtain ⟨hnone, hshort⟩ := not_operator_of_mark hc
    have hlong : [c] ++ r.take 1 ∉ longOperators := fun hmem =>
      hnone (List.mem_flatten_of_mem hmem List.mem_cons_self)
    rw [List.cons_append, lexeme?_symbol (mem_symbols_of_mark hc)]
    simp_all

theorem of_mem_takeWhile {p : Char → Bool} : ∀ c ∈ cs.takeWhile p, p c = true :=
  List.all_eq_true.1 List.all_takeWhile

theorem of_mem_head?_dropWhile {p : Char → Bool} : ∀ c ∈ (cs.dropWhile p).head?, p c = false := by
  intro c hc
  have hnot := List.head?_dropWhile_not p cs
  rw [Option.mem_def.1 hc] at hnot
  exact hnot

/-- **What is read is a lexeme that ends before the rest.** -/
theorem exists_of_lexeme? (h : lexeme? cs = some (kind, v)) :
    ∃ r, cs = v ++ r ∧ IsLexeme kind v ∧ EndsBefore kind v r := by
  cases cs with
  | nil => simp [lexeme?] at h
  | cons c cs =>
    rw [lexeme?] at h
    split at h
    next hc =>
      obtain ⟨rfl, rfl⟩ := Prod.mk.inj (Option.some.inj h)
      refine ⟨cs.dropWhile Text.isNumeralPart, by simp, .number (by simp) ?_,
        of_mem_head?_dropWhile⟩
      intro d hd
      rcases List.mem_cons.1 hd with rfl | hd
      · exact hc
      · exact of_mem_takeWhile d hd
    split at h
    next hc =>
      obtain ⟨rfl, rfl⟩ := Prod.mk.inj (Option.some.inj h)
      exact ⟨cs.dropWhile Text.isWordPart, by simp, .word hc of_mem_takeWhile,
        of_mem_head?_dropWhile⟩
    split at h
    next hlong =>
      obtain ⟨rfl, rfl⟩ := Prod.mk.inj (Option.some.inj h)
      have hmem := List.contains_iff_mem.1 hlong
      refine ⟨(c :: cs).drop 2, (List.take_append_drop 2 _).symm, .longOperator hmem, ?_⟩
      -- No operator has three characters.
      intro d _
      rw [TokenKind.continues, ← Bool.not_eq_true, List.contains_iff_mem]
      intro hmem'
      have hlength := length_of_mem_longOperators _ hmem'
      rw [List.length_append, length_of_mem_longOperators _ hmem] at hlength
      simp at hlength
    next hlong =>
      split at h
      next hc =>
        obtain ⟨rfl, rfl⟩ := Prod.mk.inj (Option.some.inj h)
        refine ⟨cs, rfl, .shortOperator (List.contains_iff_mem.1 hc), ?_⟩
        intro d hd
        obtain ⟨cs, rfl⟩ := List.head?_eq_some_iff.1 hd
        simpa [TokenKind.continues] using hlong
      split at h
      next hc =>
        obtain ⟨rfl, rfl⟩ := Prod.mk.inj (Option.some.inj h)
        exact ⟨cs, rfl, .mark (List.contains_iff_mem.1 hc), fun _ _ => rfl⟩
      next => cases h

/-- No lexeme at the front of a text is longer than the one that is read. -/
theorem IsLexeme.exists_longer (hv : IsLexeme kind v) (r : List Char) :
    ∃ kind' v', lexeme? (v ++ r) = some (kind', v') ∧ v.length ≤ v'.length := by
  cases hv with
  | number hne hv =>
    obtain ⟨c, v, rfl⟩ := List.exists_cons_of_ne_nil hne
    refine ⟨_, _, lexeme?_numeral (hv c List.mem_cons_self) (v ++ r), ?_⟩
    rw [List.takeWhile_append_of_pos fun d hd => hv d (List.mem_cons_of_mem c hd)]
    simp
  | @word c v hc hv =>
    refine ⟨_, _, lexeme?_word hc (v ++ r), ?_⟩
    rw [List.takeWhile_append_of_pos hv]
    simp
  | longOperator hv => exact ⟨_, _, lexeme?_longOperator hv r, Nat.le_refl _⟩
  | @shortOperator c hc =>
    rw [List.cons_append, lexeme?_symbol (mem_symbols_of_shortOperator hc)]
    split
    · exact ⟨_, _, rfl, by simp⟩
    · exact ⟨_, _, if_pos (by simpa using hc), Nat.le_refl _⟩
  | mark hc => exact ⟨_, _, lexeme?_append (.mark hc) fun _ _ => rfl, Nat.le_refl _⟩

end Reading

end WeakestPre
