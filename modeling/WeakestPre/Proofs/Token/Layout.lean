import WeakestPre.Grammar.SyntaxError
import WeakestPre.Proofs.Token.Position

/-!
# Texts as lexemes and blanks

**Layouts** (`Layout`). A text is laid out as lexemes with blanks around them, where every lexeme
ends before what follows it. Nothing of the text is dropped and nothing is read twice.

**The longest layout** (`Layout.isLongest`). A layout that stops in front of a character that is no
blank and starts no lexeme is the longest one: blanks and lexemes at the front of a text are
determined, so any other layout runs through the same pieces until it ends.

**Tokens of a text** (`layout_of_tokenize`). A text that has tokens is laid out as them. In any
other text the unknown character stands behind the longest front that can be laid out.
-/

namespace WeakestPre

/-! ## Layouts -/

/-- The text in front of `r` is laid out as the lexemes, with blanks around them. -/
inductive Layout (r : List Char) : List Char → List (TokenKind × List Char) → Prop
  | blanks {w : List Char} (hw : ∀ c ∈ w, Text.isBlank c = true) : Layout r w []
  | lexeme {w v s : List Char} {kind : TokenKind} {ls : List (TokenKind × List Char)}
      (hw : ∀ c ∈ w, Text.isBlank c = true) (hv : IsLexeme kind v)
      (hend : EndsBefore kind v (s ++ r)) (hs : Layout r s ls) :
      Layout r (w ++ (v ++ s)) ((kind, v) :: ls)

/-- Neither a blank nor a lexeme stands at the front. -/
structure Stuck (r : List Char) : Prop where
  not_blank : ∀ c ∈ r.head?, Text.isBlank c = false
  no_lexeme : ∀ kind v, IsLexeme kind v → ¬ v <+: r

/-- Of all layouts of fronts of `p ++ r`, whatever follows them, that of `p` is the longest. It is a
layout in front of `r` and as a text of its own. -/
structure IsLongestLayout (p r : List Char) (ls : List (TokenKind × List Char)) : Prop where
  layout : Layout r p ls
  alone : Layout [] p ls
  longest : ∀ p' r' ls', p' <+: p ++ r → Layout r' p' ls' → p'.length ≤ p.length

variable {r p w v : List Char} {kind : TokenKind} {ls : List (TokenKind × List Char)}

theorem stuck_of_lexeme? (hblank : ∀ c ∈ r.head?, Text.isBlank c = false)
    (hnone : lexeme? r = none) : Stuck r := by
  refine ⟨hblank, ?_⟩
  rintro kind v hv ⟨t, rfl⟩
  obtain ⟨kind', v', hsome, -⟩ := hv.exists_longer t
  rw [hnone] at hsome
  cases hsome

/-- The blanks in front of a lexeme are all blanks at the front. -/
theorem takeWhile_isBlank (hw : ∀ c ∈ w, Text.isBlank c = true) (hv : IsLexeme kind v)
    (t : List Char) : (w ++ (v ++ t)).takeWhile Text.isBlank = w := by
  obtain ⟨c, v, rfl⟩ := List.exists_cons_of_ne_nil hv.ne_nil
  refine takeWhile_append_eq hw ?_
  intro d hd
  obtain rfl : c = d := by simpa using hd
  exact hv.isBlank_head

theorem length_le_takeWhile {p : Char → Bool} {l : List Char} (hw : ∀ c ∈ w, p c = true)
    (hpre : w <+: l) : w.length ≤ (l.takeWhile p).length := by
  obtain ⟨t, rfl⟩ := hpre
  rw [List.takeWhile_append_of_pos hw, List.length_append]
  exact Nat.le_add_right _ _

namespace Layout

/-- What follows a layout does not matter for the layout. -/
theorem alone (h : Layout r p ls) : Layout [] p ls := by
  induction h with
  | blanks hw => exact .blanks hw
  | @lexeme w v s kind ls hw hv hend hs ih =>
    refine .lexeme hw hv ?_ ih
    cases s with
    | nil => exact endsBefore_nil kind v
    | cons c s => exact hend.of_head? rfl

theorem kind_ne (h : Layout r p ls) : ∀ l ∈ ls, l.1 ≠ .endOfInput := by
  induction h with
  | blanks => simp
  | lexeme hw hv hend hs ih => simpa [hv.kind_ne] using ih

/-- A layout of a front of `w ++ t`, where `w` holds all blanks at the front, ends within `w` or has
its first lexeme at the front of `t`. -/
theorem ends_or_lexeme {t : List Char} (h : Layout r p ls) (hpre : p <+: w ++ t)
    (hw : (w ++ t).takeWhile Text.isBlank = w) :
    p.length ≤ w.length ∨ ∃ kind v s ls', IsLexeme kind v ∧ EndsBefore kind v (s ++ r) ∧
      Layout r s ls' ∧ v ++ s <+: t ∧ p.length = w.length + (v.length + s.length) := by
  cases h with
  | blanks hw' =>
    have hle := length_le_takeWhile hw' hpre
    rw [hw] at hle
    exact .inl hle
  | @lexeme w' v s kind ls' hw' hv hend hs =>
    obtain ⟨t', heq⟩ := hpre
    rw [List.append_assoc, List.append_assoc] at heq
    have hfront := takeWhile_isBlank hw' hv (s ++ t')
    rw [heq, hw] at hfront
    subst hfront
    refine .inr ⟨kind, v, s, ls', hv, hend, hs, ⟨t', ?_⟩, by simp⟩
    rw [List.append_assoc]
    exact List.append_cancel_left heq

/-- **A layout in front of something stuck is as long as any.** -/
theorem length_le (h : Layout r p ls) (hr : Stuck r) {p' r' : List Char}
    {ls' : List (TokenKind × List Char)} (hpre : p' <+: p ++ r) (h' : Layout r' p' ls') :
    p'.length ≤ p.length := by
  induction h generalizing p' ls' with
  | @blanks w hw =>
    rcases h'.ends_or_lexeme hpre (takeWhile_append_eq hw hr.not_blank) with
      hle | ⟨kind', v', s', _, hv', _, _, hpre', _⟩
    · exact hle
    · exact absurd ((List.prefix_append v' s').trans hpre') (hr.no_lexeme kind' v' hv')
  | @lexeme w v s kind ls hw hv hend hs ih =>
    rw [List.append_assoc, List.append_assoc] at hpre
    rw [List.length_append, List.length_append]
    rcases h'.ends_or_lexeme hpre (takeWhile_isBlank hw hv (s ++ r)) with
      hle | ⟨kind', v', s', _, hv', hend', hs', ⟨t, ht⟩, hlength⟩
    · omega
    · rw [List.append_assoc] at ht
      have hread := lexeme?_append hv hend
      rw [← ht] at hread
      cases s' with
      | nil =>
        -- The other layout ends with its lexeme, which may be a part of `v` only.
        obtain ⟨_, _, hread', hle⟩ := hv'.exists_longer ([] ++ t)
        obtain ⟨rfl, rfl⟩ := Prod.mk.inj (Option.some.inj (hread'.symm.trans hread))
        simp only [List.length_nil] at hlength
        omega
      | cons c s' =>
        -- It goes on, so that its lexeme ends where `v` does.
        have hends : EndsBefore kind' v' (c :: s' ++ t) := hend'.of_head? rfl
        have hread' := lexeme?_append hv' hends
        obtain ⟨rfl, rfl⟩ := Prod.mk.inj (Option.some.inj (hread'.symm.trans hread))
        have hle := ih ⟨t, List.append_cancel_left ht⟩ hs'
        omega

theorem isLongest (h : Layout r p ls) (hr : Stuck r) : IsLongestLayout p r ls :=
  ⟨h, h.alone, fun _ _ _ hpre h' => h.length_le hr hpre h'⟩

end Layout

/-! ## Tokens of a text -/

/-- What a token is and how it is written. -/
def Token.lexeme (t : Token) : TokenKind × List Char := (t.kind, t.text.toList)

namespace Cursor

theorem stuck_scan (c : Cursor) : Stuck c.scan.2.rest := by
  fun_induction Cursor.scan c with
  | case1 c hnone =>
    refine stuck_of_lexeme? ?_ hnone
    rw [rest_skipBlanks]
    exact of_mem_head?_dropWhile
  | case2 c kind v hsome tokens stop hscan ih => rwa [hscan] at ih

/-- **What is scanned is laid out as the lexemes.** -/
theorem exists_layout_scan (c : Cursor) : ∃ p, c.rest = p ++ c.scan.2.rest ∧
    Layout c.scan.2.rest p (c.scan.1.map Token.lexeme) := by
  fun_induction Cursor.scan c with
  | case1 c hnone =>
    refine ⟨c.rest.takeWhile Text.isBlank, ?_, .blanks of_mem_takeWhile⟩
    rw [rest_skipBlanks, List.takeWhile_append_dropWhile]
  | case2 c kind v hsome tokens stop hscan ih =>
    obtain ⟨r, hrest, hv, hend⟩ := exists_of_lexeme? hsome
    obtain ⟨s, hs, hlayout⟩ := ih
    rw [hscan] at hs hlayout
    have hr : r = s ++ stop.rest := by
      rw [← hs, moveOver, hrest]
      exact List.drop_left.symm
    refine ⟨c.rest.takeWhile Text.isBlank ++ (v ++ s), ?_, ?_⟩
    · rw [List.append_assoc, List.append_assoc, ← hr, ← hrest, rest_skipBlanks,
        List.takeWhile_append_dropWhile]
    · have htoken : (c.skipBlanks.tokenHere kind v).lexeme = (kind, v) := by
        simp [Token.lexeme, tokenHere]
      rw [List.map_cons, htoken]
      exact .lexeme of_mem_takeWhile hv (hr ▸ hend) hlayout

end Cursor

/-- **Texts are read without loss, lexeme by lexeme.** -/
theorem layout_of_tokenize (source text : String) :
    match tokenize source text with
    | .ok tokens => ∃ lexemes mark, tokens = lexemes ++ [mark] ∧
        mark.kind = .endOfInput ∧ mark.text = "" ∧ (∀ t ∈ lexemes, t.kind ≠ .endOfInput) ∧
        Layout [] text.toList (lexemes.map Token.lexeme)
    | .error u => ∃ p r ls, text.toList = p ++ u.char :: r ∧
        IsLongestLayout p (u.char :: r) ls ∧ Stuck (u.char :: r) ∧
        (SyntaxError.unknownCharacter u).diagnostic.kind = .unknownCharacter ∧
        (SyntaxError.unknownCharacter u).diagnostic.location =
          some (Location.inText source text p.length) ∧
        (SyntaxError.unknownCharacter u).diagnostic.message =
          Text.wide ("Unknown character '" ++ String.singleton u.char ++ "'") := by
  obtain ⟨p, hp, hlayout⟩ := (Cursor.ofText source text).exists_layout_scan
  have hstuck := (Cursor.ofText source text).stuck_scan
  have hstop := (Cursor.standsIn_ofText source text).scan.1
  rw [tokenize]
  cases hrest : (Cursor.ofText source text).scan.2.rest with
  | nil =>
    rw [hrest, List.append_nil] at hp
    rw [hrest, ← hp] at hlayout
    rw [Cursor.tokenize_of_nil hrest]
    refine ⟨_, _, rfl, rfl, rfl, fun t ht => ?_, hlayout⟩
    exact hlayout.kind_ne t.lexeme (List.mem_map_of_mem ht)
  | cons ch r =>
    have hlocation := hstop.location_eq
    rw [hstop.offset_eq_length hp] at hlocation
    rw [hrest] at hp hlayout hstuck
    rw [Cursor.tokenize_of_cons hrest]
    exact ⟨p, r, _, hp, hlayout.isLongest hstuck, hstuck, rfl, congrArg some hlocation, rfl⟩

end WeakestPre
