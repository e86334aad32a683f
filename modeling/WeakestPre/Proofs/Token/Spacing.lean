import WeakestPre.Proofs.Grammar.Reading
import WeakestPre.Proofs.Token.Joining

/-!
# Blanks between texts

**Blanks end every lexeme** (`lexeme?_append_blank`). No lexeme has a blank in it, so the lexeme at
the front of a text is the same whether the text ends or goes on with a blank.

**Scans go on** (`Cursor.scan_extend`). A scan of a text that goes on with a blank runs through the
first part as if that were all, and from where it stops there it goes on.

**Theorem** (`tokenize_append_gap`). Two texts with blanks between them have tokens iff both have,
and their tokens are those of the first and then those of the second text. So the lexemes of a text
may be written with any blanks between them and are read again.
-/

namespace WeakestPre

/-- Blanks, at least one of them. -/
def Text.IsGap (w : String) : Prop := w ≠ "" ∧ Text.isBlankText w = true

theorem Text.IsGap.exists_cons {w : String} (h : Text.IsGap w) : ∃ b bs, w.toList = b :: bs ∧
    Text.isBlank b = true ∧ ∀ c ∈ bs, Text.isBlank c = true := by
  obtain ⟨hne, hblank⟩ := h
  cases hw : w.toList with
  | nil => exact absurd (String.toList_eq_nil_iff.1 hw) hne
  | cons b bs =>
    rw [Text.isBlankText, hw, List.all_cons, Bool.and_eq_true, List.all_eq_true] at hblank
    exact ⟨b, bs, rfl, hblank⟩

/-! ## Blanks end every lexeme -/

section Lexemes

variable {b : Char} {cs : List Char}

theorem endsBefore_blank (hb : Text.isBlank b = true) (kind : TokenKind) (v r : List Char) :
    EndsBefore kind v (b :: r) := by
  refine endsBefore_of_class (Text.isNumeralPart_of_isBlank hb) (Text.isWordPart_of_isBlank hb) ?_
    kind v r
  intro hmem
  obtain ⟨op, hop, hmem⟩ := List.mem_flatten.1 hmem
  exact notMem_symbols_of_isBlank hb (mem_symbols_of_longOperator hop hmem)

/-- What ends before the end of a text ends before a blank behind it. -/
theorem EndsBefore.append_blank {kind : TokenKind} {v : List Char} (h : EndsBefore kind v cs)
    (hb : Text.isBlank b = true) (r : List Char) : EndsBefore kind v (cs ++ b :: r) := by
  cases cs with
  | nil => exact endsBefore_blank hb kind v r
  | cons c cs => exact h.of_head? rfl

/-- **The lexeme at the front does not depend on what follows a blank.** -/
theorem lexeme?_append_blank (hcs : cs ≠ []) (hb : Text.isBlank b = true) (r : List Char) :
    lexeme? (cs ++ b :: r) = lexeme? cs := by
  cases hread : lexeme? cs with
  | some l =>
    obtain ⟨kind, v⟩ := l
    obtain ⟨t, rfl, hv, hend⟩ := exists_of_lexeme? hread
    rw [List.append_assoc]
    exact lexeme?_append hv (hend.append_blank hb r)
  | none =>
    cases hread' : lexeme? (cs ++ b :: r) with
    | none => rfl
    | some l =>
      obtain ⟨kind, v⟩ := l
      obtain ⟨t, heq, hv, -⟩ := exists_of_lexeme? hread'
      -- The lexeme would have to stop in front of the blank, so that it stood in `cs` already.
      rcases List.append_eq_append_iff.1 heq with ⟨v', hv', ht⟩ | ⟨t', rfl, -⟩
      · cases v' with
        | nil =>
          rw [List.append_nil] at hv'
          obtain ⟨_, _, hsome, -⟩ := hv.exists_longer []
          rw [List.append_nil, hv', hread] at hsome
          cases hsome
        | cons c v' =>
          obtain rfl : b = c := (List.cons.inj ht).1
          exact absurd (hv' ▸ List.mem_append_right _ List.mem_cons_self) (hv.blank_notMem hb)
      · obtain ⟨_, _, hsome, -⟩ := hv.exists_longer t'
        rw [hread] at hsome
        cases hsome

end Lexemes

/-! ## Scans go on -/

namespace Cursor

variable {c : Cursor} {b : Char} {w r : List Char}

/-- The cursor with more text behind what is ahead of it. -/
def extend (c : Cursor) (r : List Char) : Cursor := { c with rest := c.rest ++ r }

theorem extend_moveOver (h : w <+: c.rest) (r : List Char) :
    (c.moveOver w).extend r = (c.extend r).moveOver w := by
  have hdrop : (c.rest ++ r).drop w.length = c.rest.drop w.length ++ r :=
    List.drop_append_of_le_length h.length_le
  simp [extend, moveOver, hdrop]

theorem skipBlanks_moveOver (hw : ∀ ch ∈ w, Text.isBlank ch = true) (h : w <+: c.rest) :
    (c.moveOver w).skipBlanks = c.skipBlanks := by
  obtain ⟨t, ht⟩ := h
  have hrest : (c.moveOver w).rest = t := by simp [moveOver, ← ht]
  rw [skipBlanks, skipBlanks, hrest, moveOver_moveOver, ← ht, List.takeWhile_append_of_pos hw]

/-- Blanks at the front may be skipped before a scan. -/
theorem scan_moveOver (hw : ∀ ch ∈ w, Text.isBlank ch = true) (h : w <+: c.rest) :
    (c.moveOver w).scan = c.scan := by
  have hskip := skipBlanks_moveOver hw h
  cases hread : lexeme? c.skipBlanks.rest with
  | none => rw [scan_of_none hread, scan_of_none (hskip ▸ hread), hskip]
  | some l =>
    obtain ⟨kind, v⟩ := l
    rw [scan_of_some hread, scan_of_some (hskip ▸ hread), hskip]

theorem scan_skipBlanks_extend (c : Cursor) (r : List Char) :
    (c.skipBlanks.extend r).scan = (c.extend r).scan := by
  have hpre : c.rest.takeWhile Text.isBlank <+: c.rest := List.takeWhile_prefix _
  rw [skipBlanks, extend_moveOver hpre]
  exact scan_moveOver of_mem_takeWhile (hpre.trans (List.prefix_append _ _))

/-- More text does not change which blanks are skipped, unless all of the text is blank. -/
theorem skipBlanks_extend (h : c.skipBlanks.rest ≠ []) (r : List Char) :
    (c.extend r).skipBlanks = c.skipBlanks.extend r := by
  rw [rest_skipBlanks] at h
  obtain ⟨ch, cs, hcs⟩ := List.exists_cons_of_ne_nil h
  have hrest : c.rest.takeWhile Text.isBlank ++ ch :: cs = c.rest := by
    rw [← hcs, List.takeWhile_append_dropWhile]
  have hhead : ∀ d ∈ (c.rest.dropWhile Text.isBlank).head?, Text.isBlank d = false :=
    of_mem_head?_dropWhile
  have hblank : ∀ d ∈ c.rest.takeWhile Text.isBlank, Text.isBlank d = true := of_mem_takeWhile
  have htake : (c.rest ++ r).takeWhile Text.isBlank = c.rest.takeWhile Text.isBlank := by
    rw [hcs] at hhead
    have happend := @takeWhile_append_eq _ (ch :: cs ++ r) _ hblank hhead
    rwa [← List.append_assoc, hrest] at happend
  rw [skipBlanks, skipBlanks, extend_moveOver (List.takeWhile_prefix _), ← htake]
  rfl

/-- **A scan of a longer text goes on where the scan of the shorter one stops**, if a blank stands
between them. -/
theorem scan_extend (hb : Text.isBlank b = true) (r : List Char) (c : Cursor) :
    (c.extend (b :: r)).scan = (c.scan.1 ++ (c.scan.2.extend (b :: r)).scan.1,
      (c.scan.2.extend (b :: r)).scan.2) := by
  fun_induction Cursor.scan c with
  | case1 c hnone => rw [scan_skipBlanks_extend, List.nil_append]
  | case2 c kind v hsome tokens stop hscan ih =>
    obtain ⟨t, hrest, -, -⟩ := exists_of_lexeme? hsome
    have hne : c.skipBlanks.rest ≠ [] := by
      intro hnil
      simp [hnil, lexeme?] at hsome
    have hskip := skipBlanks_extend hne (b :: r)
    have hsome' : lexeme? (c.extend (b :: r)).skipBlanks.rest = some (kind, v) := by
      rw [hskip, extend, lexeme?_append_blank hne hb, hsome]
    rw [scan_of_some hsome', hskip, ← extend_moveOver ⟨t, hrest.symm⟩, ih, hscan]
    rfl

/-- What stops a scan in the middle of a text stops it in front of a blank as well. -/
theorem scan_extend_of_ne_nil (hb : Text.isBlank b = true) (r : List Char)
    (h : c.scan.2.rest ≠ []) : (c.extend (b :: r)).scan.2.rest ≠ [] := by
  have hstuck := c.stuck_scan
  have hskip : c.scan.2.skipBlanks = c.scan.2 := by
    rw [skipBlanks, List.takeWhile_eq_nil_iff.2 (not_get_zero hstuck.not_blank), moveOver_nil]
  have hnone : lexeme? (c.scan.2.extend (b :: r)).skipBlanks.rest = none := by
    rw [skipBlanks_extend (hskip.symm ▸ h), hskip, extend, lexeme?_append_blank h hb]
    cases hread : lexeme? c.scan.2.rest with
    | none => rfl
    | some l =>
      obtain ⟨kind, v⟩ := l
      obtain ⟨t, ht, hv, -⟩ := exists_of_lexeme? hread
      exact absurd ⟨t, ht.symm⟩ (hstuck.no_lexeme kind v hv)
  rw [scan_extend hb, scan_of_none hnone, skipBlanks_extend (hskip.symm ▸ h), hskip]
  exact List.append_ne_nil_of_left_ne_nil h _

/-- Cursors with the same text ahead find the same lexemes. -/
theorem scan_of_rest (c : Cursor) : ∀ {c' : Cursor}, c'.rest = c.rest →
    c'.scan.1.map Token.lexeme = c.scan.1.map Token.lexeme ∧ c'.scan.2.rest = c.scan.2.rest := by
  fun_induction Cursor.scan c with
  | case1 c hnone =>
    intro c' hrest
    have hskip : c'.skipBlanks.rest = c.skipBlanks.rest := by
      rw [rest_skipBlanks, rest_skipBlanks, hrest]
    rw [scan_of_none (hskip.symm ▸ hnone)]
    exact ⟨rfl, hskip⟩
  | case2 c kind v hsome tokens stop hscan ih =>
    intro c' hrest
    have hskip : c'.skipBlanks.rest = c.skipBlanks.rest := by
      rw [rest_skipBlanks, rest_skipBlanks, hrest]
    have hmove : (c'.skipBlanks.moveOver v).rest = (c.skipBlanks.moveOver v).rest := by
      rw [moveOver, moveOver, hskip]
    obtain ⟨htokens, hstop⟩ := ih hmove
    rw [hscan] at htokens hstop
    rw [scan_of_some (hskip.symm ▸ hsome), List.map_cons, List.map_cons, htokens]
    exact ⟨rfl, hstop⟩

theorem exists_tokenize_iff (c : Cursor) :
    (∃ tokens, c.tokenize.1 = .ok tokens) ↔ c.scan.2.rest = [] := by
  cases hrest : c.scan.2.rest with
  | nil => simp [tokenize_of_nil hrest]
  | cons ch rest => simp [tokenize_of_cons hrest]

/-- The cursor behind a gap that follows what a scan has gone through. -/
def behindGap (c : Cursor) (w r : List Char) : Cursor := (c.scan.2.extend (w ++ r)).moveOver w

theorem scan_extend_gap (hb : Text.isBlank b = true) (hw : ∀ ch ∈ w, Text.isBlank ch = true)
    (r : List Char) (h : c.scan.2.rest = []) :
    (c.extend (b :: w ++ r)).scan = (c.scan.1 ++ (c.behindGap (b :: w) r).scan.1,
      (c.behindGap (b :: w) r).scan.2) ∧ (c.behindGap (b :: w) r).rest = r := by
  have hpre : b :: w <+: (c.scan.2.extend (b :: w ++ r)).rest := by
    rw [extend, h]
    exact List.prefix_append _ _
  have hblank : ∀ ch ∈ b :: w, Text.isBlank ch = true := List.forall_mem_cons.2 ⟨hb, hw⟩
  refine ⟨?_, ?_⟩
  · rw [behindGap, scan_moveOver hblank hpre]
    exact scan_extend hb (w ++ r) c
  · rw [behindGap, moveOver, extend, h]
    exact List.drop_left

end Cursor

/-! ## Tokens -/

section Tokens

variable {w : String} (hw : Text.IsGap w) (source a b : String)

include hw

theorem Cursor.ofText_append_gap : ∃ c cs, Text.isBlank c = true ∧
    (∀ ch ∈ cs, Text.isBlank ch = true) ∧
    ofText source (a ++ w ++ b) = (ofText source a).extend (c :: cs ++ b.toList) := by
  obtain ⟨c, cs, hcs, hc, hblank⟩ := hw.exists_cons
  refine ⟨c, cs, hc, hblank, ?_⟩
  simp [ofText, extend, hcs]

/-- **Two texts with a gap between them can be cut into tokens iff both can.** -/
theorem exists_tokenize_append_gap : (∃ tokens, tokenize source (a ++ w ++ b) = .ok tokens) ↔
    (∃ tokens, tokenize source a = .ok tokens) ∧ ∃ tokens, tokenize source b = .ok tokens := by
  obtain ⟨c, cs, hc, hcs, hcursor⟩ := Cursor.ofText_append_gap hw source a b
  simp only [tokenize, Cursor.exists_tokenize_iff, hcursor]
  by_cases hstop : (Cursor.ofText source a).scan.2.rest = []
  · obtain ⟨hscan, hrest⟩ := Cursor.scan_extend_gap hc hcs b.toList hstop
    have hsame := ((Cursor.ofText source b).scan_of_rest hrest).2
    rw [hscan, hsame]
    simp [hstop]
  · have hne := Cursor.scan_extend_of_ne_nil hc (cs ++ b.toList) hstop
    simp [hstop, hne]

/-- **The tokens of the first text stay as they are, and the others are those of the second.** -/
theorem exists_tokens_append_gap {tokens tokens₁ tokens₂ : List Token}
    (h : tokenize source (a ++ w ++ b) = .ok tokens) (h₁ : tokenize source a = .ok tokens₁)
    (h₂ : tokenize source b = .ok tokens₂) :
    ∃ rest, tokens = tokens₁.dropLast ++ rest ∧
      rest.map Token.lexeme = tokens₂.map Token.lexeme := by
  obtain ⟨c, cs, hc, hcs, hcursor⟩ := Cursor.ofText_append_gap hw source a b
  have hstop₁ := (Cursor.exists_tokenize_iff _).1 ⟨_, h₁⟩
  have hstop₂ := (Cursor.exists_tokenize_iff _).1 ⟨_, h₂⟩
  obtain ⟨hscan, hrest⟩ := Cursor.scan_extend_gap hc hcs b.toList hstop₁
  obtain ⟨hlexemes, hsame⟩ := (Cursor.ofText source b).scan_of_rest hrest
  have hstop : (Cursor.ofText source (a ++ w ++ b)).scan.2.rest = [] := by
    rw [hcursor, hscan, hsame, hstop₂]
  rw [tokenize, Cursor.tokenize_of_nil hstop, hcursor, hscan] at h
  rw [tokenize, Cursor.tokenize_of_nil hstop₁] at h₁
  rw [tokenize, Cursor.tokenize_of_nil hstop₂] at h₂
  obtain rfl := Except.ok.inj h
  obtain rfl := Except.ok.inj h₁
  obtain rfl := Except.ok.inj h₂
  rw [List.dropLast_concat, List.append_assoc]
  refine ⟨_, rfl, ?_⟩
  rw [List.map_append, List.map_append, hlexemes]
  rfl

end Tokens

/-! ## Lexemes written apart -/

/-- Texts one after another with gaps between them. -/
def Text.spaced (gaps : Nat → String) : List String → String
  | [] => ""
  | [v] => v
  | v :: v' :: rest => v ++ gaps 0 ++ spaced (fun i => gaps (i + 1)) (v' :: rest)

section Spaced

variable {gaps : Nat → String} (hgaps : ∀ i, Text.IsGap (gaps i))

include hgaps

/-- Behind the first text stand blanks, unless it is the last one. -/
theorem Text.toList_spaced_cons (v : String) (vs : List String) : ∃ g,
    (spaced gaps (v :: vs)).toList =
      v.toList ++ (g ++ (spaced (fun i => gaps (i + 1)) vs).toList) ∧
    (∀ c ∈ g, isBlank c = true) ∧ (g = [] → vs = []) := by
  cases vs with
  | nil => exact ⟨[], by simp [spaced], by simp, fun _ => rfl⟩
  | cons v' rest =>
    obtain ⟨b, bs, hgap, hb, hbs⟩ := (hgaps 0).exists_cons
    refine ⟨b :: bs, ?_, List.forall_mem_cons.2 ⟨hb, hbs⟩, by simp⟩
    simp [spaced, hgap]

/-- **Lexemes with gaps between them are a layout.** An empty text may stand behind the last gap. -/
theorem layout_spaced {lexemes : List Token}
    (h : ∀ t ∈ lexemes, IsLexeme t.kind t.text.toList) {tail : List String}
    (htail : tail = [] ∨ tail = [""]) :
    Layout [] (Text.spaced gaps (lexemes.map Token.text ++ tail)).toList
      (lexemes.map Token.lexeme) := by
  induction lexemes generalizing gaps with
  | nil =>
    rcases htail with rfl | rfl
    · exact .blanks (by simp [Text.spaced])
    · exact .blanks (by simp [Text.spaced])
  | cons t lexemes ih =>
    obtain ⟨ht, hlexemes⟩ := List.forall_mem_cons.1 h
    have hrest := ih (fun i => hgaps (i + 1)) hlexemes
    obtain ⟨g, hchars, hg, hlast⟩ :=
      Text.toList_spaced_cons hgaps t.text (lexemes.map Token.text ++ tail)
    rw [List.map_cons, List.cons_append, hchars]
    refine .cons ht ?_ (hrest.blanks_append hg)
    cases g with
    | nil =>
      rw [hlast rfl]
      exact endsBefore_nil t.kind _
    | cons b bs => exact endsBefore_blank (hg b List.mem_cons_self) t.kind _ _

theorem exists_tokenize_spaced {source text : String} {tokens : List Token}
    (h : tokenize source text = .ok tokens) {values : List String}
    (hvalues : values = tokens.map Token.text ∨ values = tokens.dropLast.map Token.text) :
    ∃ tokens', tokenize source (Text.spaced gaps values) = .ok tokens' ∧
      tokens'.map Token.lexeme = tokens.map Token.lexeme := by
  obtain ⟨lexemes, mark, rfl, hmark, hlayout⟩ := exists_layout_of_tokenize h
  have hkinds : ∀ t ∈ lexemes, IsLexeme t.kind t.text.toList := fun t ht =>
    hlayout.isLexeme t.lexeme (List.mem_map_of_mem ht)
  have hempty : mark.text = "" := (Token.lexeme_eq_iff.1 hmark).2
  obtain ⟨tail, htail, rfl⟩ : ∃ tail, (tail = [] ∨ tail = [""]) ∧
      values = lexemes.map Token.text ++ tail := by
    rcases hvalues with rfl | rfl
    · exact ⟨[""], .inr rfl, by simp [hempty]⟩
    · exact ⟨[], .inl rfl, by simp⟩
  obtain ⟨tokens', htokens', hsame⟩ :=
    (@tokenize_eq_ok_iff _ source _).2 (layout_spaced hgaps hkinds htail)
  refine ⟨tokens', htokens', ?_⟩
  rw [hsame, List.map_append, List.map_singleton, hmark]

end Spaced

/-- **Cutting a text into tokens distributes over gaps**: each side of a gap is cut as if it were
all, and the first side keeps its places. So the texts of tokens, with that of the last one or
without it, are cut into the same tokens when they are written with any gaps between them. -/
theorem tokenize_append_gap (source : String) :
    (∀ a w b : String, Text.IsGap w →
      ((∃ tokens, tokenize source (a ++ w ++ b) = .ok tokens) ↔
        (∃ tokens, tokenize source a = .ok tokens) ∧ ∃ tokens, tokenize source b = .ok tokens) ∧
      ∀ tokens tokens₁ tokens₂, tokenize source (a ++ w ++ b) = .ok tokens →
        tokenize source a = .ok tokens₁ → tokenize source b = .ok tokens₂ →
        ∃ rest, tokens = tokens₁.dropLast ++ rest ∧
          rest.map Token.lexeme = tokens₂.map Token.lexeme) ∧
    ∀ (text : String) (tokens : List Token) (gaps : Nat → String) (values : List String),
      tokenize source text = .ok tokens → (∀ i, Text.IsGap (gaps i)) →
      values = tokens.map Token.text ∨ values = tokens.dropLast.map Token.text →
      ∃ tokens', tokenize source (Text.spaced gaps values) = .ok tokens' ∧
        tokens'.map Token.lexeme = tokens.map Token.lexeme := by
  refine ⟨fun a w b hw => ⟨exists_tokenize_append_gap hw source a b, ?_⟩, ?_⟩
  · intro tokens tokens₁ tokens₂ h h₁ h₂
    exact exists_tokens_append_gap hw source a b h h₁ h₂
  · intro text tokens gaps values h hgaps hvalues
    exact exists_tokenize_spaced hgaps h hvalues

/-- An em space and a line break. -/
def wideGap : String := "\u2003\n"

/-- Written together, the two sides have an operator in common and a character that starts no
lexeme. -/
theorem tokenize_append_gap_inequality :
    (tokenize "" ("x !" ++ "== 1.5")).isOk = false ∧ Text.IsGap wideGap ∧
    ∃ tokens tokens₁ tokens₂ tokens', tokenize "" ("x !" ++ wideGap ++ "== 1.5") = .ok tokens ∧
      tokenize "" "x !" = .ok tokens₁ ∧ tokenize "" "== 1.5" = .ok tokens₂ ∧
      (∃ rest, tokens = tokens₁.dropLast ++ rest ∧
        rest.map Token.lexeme = tokens₂.map Token.lexeme) ∧
      tokenize "" (Text.spaced (fun _ => wideGap) (tokens.map Token.text)) = .ok tokens' ∧
      tokens'.map Token.lexeme = tokens.map Token.lexeme := by
  have hgap : Text.IsGap wideGap := ⟨by decide, by decide +kernel⟩
  obtain ⟨happend, hspaced⟩ := tokenize_append_gap ""
  obtain ⟨hiff, htokens⟩ := happend "x !" wideGap "== 1.5" hgap
  have hok : (tokenize "" "x !").isOk = true ∧ (tokenize "" "== 1.5").isOk = true := by
    decide +kernel
  obtain ⟨tokens₁, h₁⟩ := exists_ok_of_isOk hok.1
  obtain ⟨tokens₂, h₂⟩ := exists_ok_of_isOk hok.2
  obtain ⟨tokens, h⟩ := hiff.2 ⟨⟨tokens₁, h₁⟩, ⟨tokens₂, h₂⟩⟩
  obtain ⟨tokens', h'⟩ := hspaced _ tokens (fun _ => wideGap) _ h (fun _ => hgap) (.inl rfl)
  exact ⟨by decide +kernel, hgap, tokens, tokens₁, tokens₂, tokens', h, h₁, h₂,
    htokens tokens tokens₁ tokens₂ h h₁ h₂, h'⟩

end WeakestPre
