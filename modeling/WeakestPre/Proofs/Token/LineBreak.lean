import WeakestPre.Proofs.Grammar.Placement
import WeakestPre.Text.Utf8

/-!
# Line breaks of a file

Reading a file turns the line breaks `\r\n` and `\r` into `\n`. All of these are blanks: they stand
between the lexemes of a text and never within one, so the text keeps its lexemes, and where it has
a character that starts none it keeps that too (`tokenize_unifyBreaks`).

**Texts that are cut alike** (`CutAlike`) are read alike: as the same tree, or with the same error
up to its place (`readText_of_cutAlike`). Only the places move, since two characters may become one
and a line may end where none did.
-/

namespace WeakestPre

/-! ## Line breaks among characters -/

namespace Text

variable {c : Char} {cs v : List Char} {p : Char → Bool}

theorem unifyBreaks_cons (h : c ≠ '\r') (cs : List Char) :
    unifyBreaks (c :: cs) = c :: unifyBreaks cs := by
  rw [unifyBreaks] <;> simp [h]

/-- Whatever follows, a carriage return starts a line break. -/
theorem exists_unifyBreaks_return (cs : List Char) : ∃ rest,
    unifyBreaks ('\r' :: cs) = '\n' :: rest := by
  rcases cs with _ | ⟨d, cs⟩
  · exact ⟨[], rfl⟩
  by_cases hd : d = '\n'
  · subst hd
    exact ⟨_, rfl⟩
  · refine ⟨unifyBreaks (d :: cs), ?_⟩
    rw [unifyBreaks]
    simp [hd]

theorem unifyBreaks_append (h : '\r' ∉ v) (cs : List Char) :
    unifyBreaks (v ++ cs) = v ++ unifyBreaks cs := by
  induction v with
  | nil => rfl
  | cons c v ih =>
    rw [List.mem_cons, not_or] at h
    rw [List.cons_append, unifyBreaks_cons (Ne.symm h.1), ih h.2, List.cons_append]

theorem unifyBreaks_eq_self (h : '\r' ∉ cs) : unifyBreaks cs = cs := by
  simpa [unifyBreaks] using unifyBreaks_append h []

/-- A class that all line breaks belong to. -/
theorem dropWhile_unifyBreaks (hreturn : p '\r' = true) (hfeed : p '\n' = true) (cs : List Char) :
    (unifyBreaks cs).dropWhile p = unifyBreaks (cs.dropWhile p) := by
  fun_induction unifyBreaks cs with
  | case1 => rfl
  | case2 rest ih => simpa [hreturn, hfeed] using ih
  | case3 rest _ ih => simpa [hreturn, hfeed] using ih
  | case4 c rest _ hc ih =>
    cases hp : p c with
    | true => simpa [hp] using ih
    | false => simp [hp, unifyBreaks_cons hc]

/-- A class that no line break belongs to. -/
theorem takeWhile_unifyBreaks (hreturn : p '\r' = false) (hfeed : p '\n' = false)
    (cs : List Char) : (unifyBreaks cs).takeWhile p = cs.takeWhile p := by
  fun_induction unifyBreaks cs with
  | case1 => rfl
  | case2 rest ih => simp [hreturn, hfeed]
  | case3 rest _ ih => simp [hreturn, hfeed]
  | case4 c rest _ hc ih => simp [List.takeWhile_cons, ih]

end Text

open Text

variable {c : Char} {cs v : List Char} {kind : TokenKind}

/-! ## Lexemes -/

/-- No operator of two characters ends with a line break. -/
theorem break_not_mem_longOperators (c : Char) {d : Char} (hd : d = '\r' ∨ d = '\n') :
    [c, d] ∉ longOperators := by
  have hflat : d ∉ longOperators.flatten := by rcases hd with rfl | rfl <;> decide
  intro hmem
  exact hflat (List.mem_flatten_of_mem hmem (by simp))

/-- **The lexeme at the front stays the same.** -/
theorem lexeme?_unifyBreaks (h : ∀ c ∈ cs.head?, isBlank c = false) :
    lexeme? (unifyBreaks cs) = lexeme? cs := by
  rcases cs with _ | ⟨c, cs⟩
  · rfl
  have hc : c ≠ '\r' := by
    rintro rfl
    exact absurd (h _ rfl) (by decide)
  rw [unifyBreaks_cons hc, lexeme?, lexeme?, takeWhile_unifyBreaks (by decide) (by decide),
    takeWhile_unifyBreaks (by decide) (by decide)]
  -- What is left to compare is the operator of two characters.
  rcases cs with _ | ⟨d, cs⟩
  · rfl
  by_cases hd : d = '\r'
  · subst hd
    obtain ⟨rest, hrest⟩ := exists_unifyBreaks_return cs
    simp [hrest, break_not_mem_longOperators]
  · rw [unifyBreaks_cons hd]
    rfl

namespace Cursor

/-- **A scan finds the same lexemes and stops at the same character.** -/
theorem scan_unifyBreaks (c : Cursor) : ∀ {c' : Cursor}, c'.rest = unifyBreaks c.rest →
    c'.scan.1.map Token.lexeme = c.scan.1.map Token.lexeme ∧
      c'.scan.2.rest = unifyBreaks c.scan.2.rest := by
  have hskip : ∀ c c' : Cursor, c'.rest = unifyBreaks c.rest →
      c'.skipBlanks.rest = unifyBreaks c.skipBlanks.rest := by
    intro c c' h
    rw [rest_skipBlanks, rest_skipBlanks, h, dropWhile_unifyBreaks (by decide) (by decide)]
  have hhead : ∀ c : Cursor, ∀ d ∈ c.skipBlanks.rest.head?, isBlank d = false := by
    intro c
    rw [rest_skipBlanks]
    exact of_mem_head?_dropWhile
  fun_induction Cursor.scan c with
  | case1 c hnone =>
    intro c' h
    have hnone' : lexeme? c'.skipBlanks.rest = none := by
      rw [hskip c c' h, lexeme?_unifyBreaks (hhead c), hnone]
    rw [scan_of_none hnone']
    exact ⟨rfl, hskip c c' h⟩
  | case2 c kind v hsome tokens stop hscan ih =>
    intro c' h
    have hsome' : lexeme? c'.skipBlanks.rest = some (kind, v) := by
      rw [hskip c c' h, lexeme?_unifyBreaks (hhead c), hsome]
    obtain ⟨r, hr, hv, -⟩ := exists_of_lexeme? hsome
    have hmove : (c'.skipBlanks.moveOver v).rest = unifyBreaks (c.skipBlanks.moveOver v).rest := by
      rw [moveOver, moveOver, hskip c c' h, hr, unifyBreaks_append (hv.blank_notMem (by decide))]
      simp
    obtain ⟨htokens, hstop⟩ := ih hmove
    rw [hscan] at htokens hstop
    rw [scan_of_some hsome', List.map_cons, List.map_cons, htokens]
    exact ⟨rfl, hstop⟩

end Cursor

/-! ## Texts that are cut alike -/

/-- Two texts are cut into the same lexemes, or as far as the same unknown character. -/
inductive CutAlike :
    Except UnknownCharacter (List Token) → Except UnknownCharacter (List Token) → Prop
  | tokens {ts ts' : List Token} (h : ts.map Token.lexeme = ts'.map Token.lexeme) :
      CutAlike (.ok ts) (.ok ts')
  | unknown {u u' : UnknownCharacter} (h : u.char = u'.char) : CutAlike (.error u) (.error u')

variable {source source' text text' : String}

/-- **Line breaks do not matter for how a text is cut.** -/
theorem tokenize_unifyBreaks (source source' text : String) : CutAlike (tokenize source text)
    (tokenize source' (String.ofList (unifyBreaks text.toList))) := by
  have hrest : (Cursor.ofText source' (String.ofList (unifyBreaks text.toList))).rest =
      unifyBreaks (Cursor.ofText source text).rest := by
    simp [Cursor.ofText]
  obtain ⟨htokens, hstop⟩ := (Cursor.ofText source text).scan_unifyBreaks hrest
  have hstuck := (Cursor.ofText source text).stuck_scan
  rw [tokenize, tokenize]
  cases h : (Cursor.ofText source text).scan.2.rest with
  | nil =>
    rw [h] at hstop
    rw [Cursor.tokenize_of_nil h, Cursor.tokenize_of_nil hstop]
    refine .tokens ?_
    rw [List.map_append, List.map_append, htokens]
    rfl
  | cons d r =>
    rw [h] at hstop hstuck
    have hd : d ≠ '\r' := by
      rintro rfl
      exact absurd (hstuck.not_blank _ rfl) (by decide)
    rw [unifyBreaks_cons hd] at hstop
    rw [Cursor.tokenize_of_cons h, Cursor.tokenize_of_cons hstop]
    exact .unknown rfl

theorem isBlankText_of_unknown {u : UnknownCharacter} (h : tokenize source text = .error u) :
    Text.isBlankText text = false := by
  rw [← Bool.not_eq_true]
  intro hblank
  obtain ⟨w, mark, htokens, -⟩ :=
    Layout.exists_tokens (Layout.blanks (List.all_eq_true.1 hblank)) source
  rw [htokens] at h
  cases h

/-- **Texts that are cut alike are read alike.** -/
theorem readText_of_cutAlike {α : Type} {rule : Rule α} (hrule : rule.Blind)
    (h : CutAlike (tokenize source text) (tokenize source' text')) :
    (readText rule source text).tokenCount? = (readText rule source' text').tokenCount? ∧
    (readText rule source text).result.mapError SyntaxError.unplaced =
      (readText rule source' text').result.mapError SyntaxError.unplaced := by
  generalize hcut : tokenize source text = cut at h
  generalize hcut' : tokenize source' text' = cut' at h
  cases h with
  | @tokens ts ts' hlexemes =>
    refine ⟨?_, readText_congr hrule hcut hcut' hlexemes⟩
    have hlength : ts.length = ts'.length := by simpa using congrArg List.length hlexemes
    have hblank : Text.isBlankText text = Text.isBlankText text' := by
      rw [Bool.eq_iff_iff, isBlankText_iff hcut, isBlankText_iff hcut', hlength]
    rw [readText, readText, hcut, hcut', hblank]
    split
    · rfl
    · exact congrArg some hlength
  | @unknown u u' hchar =>
    have hread : readText rule source text = ⟨none, .error (.unknownCharacter u)⟩ := by
      rw [readText, hcut, if_neg (by simp [isBlankText_of_unknown hcut])]
    have hread' : readText rule source' text' = ⟨none, .error (.unknownCharacter u')⟩ := by
      rw [readText, hcut', if_neg (by simp [isBlankText_of_unknown hcut'])]
    rw [hread, hread']
    refine ⟨rfl, ?_⟩
    show Except.error (SyntaxError.unknownCharacter ⟨u.char, .nowhere⟩) = _
    rw [hchar]
    rfl

end WeakestPre
