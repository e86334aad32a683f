import WeakestPre.Proofs.Token.Layout

/-!
# Joining texts

**Delimiters.** Some characters continue no lexeme, whatever the lexeme is: the blank, parentheses,
braces and the semicolon. Texts that are laid out on their own are laid out as before when such a
character follows (`Layout.before_delimiter`), and layouts that fit together join
(`Layout.append`).

**Layouts and tokens** (`tokenize_eq_ok_iff`). A text has tokens iff it is laid out as their
lexemes. So the tokens of a joined text can be read off the layouts of its parts.
-/

namespace WeakestPre

variable {p s w : List Char} {ls ls' : List (TokenKind × List Char)}

/-! ## Delimiters -/

/-- Characters that continue no lexeme. -/
def delimiters : List Char := [' ', '(', ')', ';', '\x7b', '\x7d']

theorem class_of_mem_delimiters {c : Char} (h : c ∈ delimiters) :
    Text.isNumeralPart c = false ∧ Text.isWordPart c = false ∧ c ∉ longOperators.flatten := by
  have hall : (delimiters.all fun c => !Text.isNumeralPart c &&
      (!Text.isWordPart c && !longOperators.flatten.contains c)) = true := by
    decide
  simpa using List.all_eq_true.1 hall c h

/-- A character of no class that goes on ends every lexeme. -/
theorem endsBefore_of_class {c : Char} (hnumeral : Text.isNumeralPart c = false)
    (hword : Text.isWordPart c = false) (hlong : c ∉ longOperators.flatten) (kind : TokenKind)
    (v r : List Char) : EndsBefore kind v (c :: r) := by
  intro d hd
  obtain rfl : c = d := by simpa using hd
  cases kind with
  | number => exact hnumeral
  | identifier => exact hword
  | operator =>
    rw [TokenKind.continues, ← Bool.not_eq_true, List.contains_iff_mem]
    intro hmem
    exact hlong (List.mem_flatten_of_mem hmem (by simp))
  | punctuation | endOfInput => rfl

/-- **Every lexeme ends before a delimiter.** -/
theorem endsBefore_delimiter {c : Char} (hc : c ∈ delimiters) (kind : TokenKind) (v r : List Char) :
    EndsBefore kind v (c :: r) := by
  obtain ⟨hnumeral, hword, hlong⟩ := class_of_mem_delimiters hc
  exact endsBefore_of_class hnumeral hword hlong kind v r

/-! ## Layouts that fit together -/

namespace Layout

variable {r : List Char}

theorem blanks_append (hw : ∀ c ∈ w, Text.isBlank c = true) (h : Layout r s ls) :
    Layout r (w ++ s) ls := by
  cases h with
  | blanks hw' => exact .blanks (List.forall_mem_append.2 ⟨hw, hw'⟩)
  | lexeme hw' hv hend hs =>
    rw [← List.append_assoc]
    exact .lexeme (List.forall_mem_append.2 ⟨hw, hw'⟩) hv hend hs

/-- **Layouts join**, if the first one is a layout in front of the second text. -/
theorem append (h : Layout (s ++ r) p ls) (h' : Layout r s ls') :
    Layout r (p ++ s) (ls ++ ls') := by
  induction h with
  | blanks hw => exact h'.blanks_append hw
  | lexeme hw hv hend hs ih =>
    rw [List.append_assoc, List.append_assoc]
    exact .lexeme hw hv (by rwa [List.append_assoc]) ih

/-- A layout of a text of its own is one in front of a delimiter. -/
theorem before_delimiter {c : Char} (hc : c ∈ delimiters) (h : Layout [] p ls) :
    Layout (c :: r) p ls := by
  induction h with
  | blanks hw => exact .blanks hw
  | @lexeme w v s kind ls hw hv hend hs ih =>
    refine .lexeme hw hv ?_ ih
    cases s with
    | nil => exact endsBefore_delimiter hc kind v r
    | cons d s => exact hend.of_head? rfl

/-- A delimiter in front of a text of its own joins it with any other. -/
theorem append_delimiter {c : Char} (hc : c ∈ delimiters) (h : Layout [] p ls)
    (h' : Layout [] (c :: s) ls') : Layout [] (p ++ c :: s) (ls ++ ls') :=
  append (h.before_delimiter hc) h'

/-- A lexeme in front of a text. -/
theorem cons {kind : TokenKind} {v : List Char} (hv : IsLexeme kind v)
    (hend : EndsBefore kind v (s ++ r)) (h : Layout r s ls) :
    Layout r (v ++ s) ((kind, v) :: ls) :=
  lexeme (w := []) (by simp) hv hend h

theorem mark_cons {c : Char} (hc : c ∈ punctuationMarks) (h : Layout r s ls) :
    Layout r (c :: s) ((.punctuation, [c]) :: ls) :=
  cons (.mark hc) (fun _ _ => rfl) h

theorem blank_cons (h : Layout r s ls) : Layout r (' ' :: s) ls :=
  blanks_append (w := [' ']) (List.all_eq_true.1 (by decide)) h

end Layout

/-! ## Layouts and tokens -/

namespace Token

variable {t : Token}

theorem lexeme_eq_iff {kind : TokenKind} {text : String} :
    t.lexeme = (kind, text.toList) ↔ t.kind = kind ∧ t.text = text := by
  simp [lexeme, String.toList_inj]

theorem isPunctuation_of_lexeme {c : Char} (h : t.lexeme = (.punctuation, [c])) :
    t.isPunctuation (String.singleton c) = true := by
  rw [← String.toList_singleton, lexeme_eq_iff] at h
  simp [isPunctuation, h]

theorem isEnd_of_lexeme (h : t.lexeme = (.endOfInput, [])) : t.isEnd = true := by
  simp [isEnd, (Prod.mk.inj h).1]

end Token

namespace Cursor

theorem scan_of_none {c : Cursor} (h : lexeme? c.skipBlanks.rest = none) :
    c.scan = ([], c.skipBlanks) := by
  rw [scan]
  split
  · rfl
  · simp_all

theorem scan_of_some {c : Cursor} {kind : TokenKind} {v : List Char}
    (h : lexeme? c.skipBlanks.rest = some (kind, v)) :
    c.scan = (c.skipBlanks.tokenHere kind v :: (c.skipBlanks.moveOver v).scan.1,
      (c.skipBlanks.moveOver v).scan.2) := by
  rw [scan]
  split
  · simp_all
  · rename_i hsome
    obtain ⟨rfl, rfl⟩ := Prod.mk.inj (Option.some.inj (hsome.symm.trans h))
    rfl

/-- **A layout of all that is ahead is what is scanned.** -/
theorem scan_of_layout (h : Layout [] p ls) : ∀ {c : Cursor}, c.rest = p →
    c.scan.1.map Token.lexeme = ls ∧ c.scan.2.rest = [] := by
  induction h with
  | @blanks w hw =>
    intro c hc
    have hrest : c.skipBlanks.rest = [] := by
      rw [rest_skipBlanks, hc]
      simpa using @List.dropWhile_append_of_pos _ _ w [] hw
    rw [scan_of_none (by rw [hrest]; rfl)]
    exact ⟨rfl, hrest⟩
  | @lexeme w v s kind ls hw hv hend hs ih =>
    intro c hc
    rw [List.append_nil] at hend
    have hskip : c.skipBlanks.rest = v ++ s := by
      have hsplit := @List.takeWhile_append_dropWhile _ Text.isBlank c.rest
      rw [← rest_skipBlanks, hc, takeWhile_isBlank hw hv s] at hsplit
      exact List.append_cancel_left hsplit
    have hmove : (c.skipBlanks.moveOver v).rest = s := by
      rw [moveOver, hskip]
      exact List.drop_left
    rw [scan_of_some (hskip ▸ lexeme?_append hv hend)]
    obtain ⟨htokens, hstop⟩ := ih hmove
    refine ⟨?_, hstop⟩
    rw [List.map_cons, htokens]
    simp [Token.lexeme, tokenHere]

end Cursor

/-- A text with tokens is laid out as the lexemes of all but the last one. -/
theorem exists_layout_of_tokenize {source text : String} {tokens : List Token}
    (h : tokenize source text = .ok tokens) :
    ∃ lexemes mark, tokens = lexemes ++ [mark] ∧ mark.lexeme = (.endOfInput, []) ∧
      Layout [] text.toList (lexemes.map Token.lexeme) := by
  obtain ⟨p, hp, hlayout⟩ := (Cursor.ofText source text).exists_layout_scan
  rw [tokenize] at h
  cases hrest : (Cursor.ofText source text).scan.2.rest with
  | nil =>
    rw [hrest, List.append_nil] at hp
    rw [hrest, ← hp] at hlayout
    rw [Cursor.tokenize_of_nil hrest] at h
    obtain rfl := Except.ok.inj h
    exact ⟨_, _, rfl, rfl, hlayout⟩
  | cons ch r =>
    rw [Cursor.tokenize_of_cons hrest] at h
    cases h

theorem Layout.isLexeme {r : List Char} (h : Layout r p ls) : ∀ l ∈ ls, IsLexeme l.1 l.2 := by
  induction h with
  | blanks => simp
  | lexeme hw hv hend hs ih => exact List.forall_mem_cons.2 ⟨hv, ih⟩

/-- The tokens of a text are lexemes, except for the mark of its end. -/
theorem isLexeme_of_mem_tokenize {source text : String} {tokens : List Token} {t : Token}
    (h : tokenize source text = .ok tokens) (ht : t ∈ tokens) (hkind : t.kind ≠ .endOfInput) :
    IsLexeme t.kind t.text.toList := by
  obtain ⟨lexemes, mark, rfl, hmark, hlayout⟩ := exists_layout_of_tokenize h
  rcases List.mem_append.1 ht with ht | ht
  · exact hlayout.isLexeme t.lexeme (List.mem_map_of_mem ht)
  · obtain rfl := List.mem_singleton.1 ht
    exact absurd (Prod.mk.inj hmark).1 hkind

/-- **A text has tokens iff it is laid out as their lexemes.** -/
theorem tokenize_eq_ok_iff {source text : String} :
    (∃ tokens, tokenize source text = .ok tokens ∧
      tokens.map Token.lexeme = ls ++ [(.endOfInput, [])]) ↔ Layout [] text.toList ls := by
  constructor
  · rintro ⟨tokens, htokens, hlexemes⟩
    obtain ⟨lexemes, mark, rfl, -, hlayout⟩ := exists_layout_of_tokenize htokens
    rw [List.map_append] at hlexemes
    exact (List.append_inj' hlexemes rfl).1 ▸ hlayout
  · intro h
    obtain ⟨hlexemes, hrest⟩ := Cursor.scan_of_layout h (c := .ofText source text) rfl
    refine ⟨_, by rw [tokenize, Cursor.tokenize_of_nil hrest], ?_⟩
    rw [List.map_append, hlexemes]
    rfl

/-- The tokens of a text are those of its lexemes and the mark of the end. -/
theorem Layout.exists_tokens {text : String} (h : Layout [] text.toList ls) (source : String) :
    ∃ w mark, tokenize source text = .ok (w ++ [mark]) ∧ w.map Token.lexeme = ls ∧
      mark.isEnd = true := by
  obtain ⟨tokens, htokens, hmap⟩ := (@tokenize_eq_ok_iff _ source _).2 h
  obtain ⟨w, _, rfl, hw, hlast⟩ := List.map_eq_append_iff.1 hmap
  obtain ⟨mark, rfl, hmark⟩ := List.map_eq_singleton_iff.1 hlast
  exact ⟨w, mark, htokens, hw, Token.isEnd_of_lexeme hmark⟩

end WeakestPre
