import WeakestPre.Grammar.Reading
import WeakestPre.Proofs.Grammar.Exchange
import WeakestPre.Proofs.Token.Lexeme
import WeakestPre.Stmt.Printer

/-!
# Texts and their derivations

**Tokens of a text** (`EndsOnce`). The last token of a text marks its end and no other token does,
so a rule that stops in front of such a mark has read everything.

**Texts that are read** (`Stmt.ofText_eq_ok_iff`). As long as rules are not nested too deeply, a
text is read iff the grammar derives its tokens, and it is read as the tree of the derivation with
all branches exhausted.
-/

namespace WeakestPre

/-! ## Tokens of a text -/

/-- The last token marks the end of the text, and no other token does. -/
def EndsOnce (tokens : List Token) : Prop :=
  ∃ lexemes mark, tokens = lexemes ++ [mark] ∧ mark.isEnd = true ∧ ∀ t ∈ lexemes, t.isEnd = false

namespace EndsOnce

variable {tokens : List Token}

theorem ended (h : EndsOnce tokens) : Ended tokens := by
  obtain ⟨lexemes, mark, rfl, hmark, -⟩ := h
  induction lexemes with
  | nil => exact hmark
  | cons t lexemes ih =>
    cases lexemes with
    | nil => exact hmark
    | cons u lexemes => exact ih

theorem eq_singleton_of_suffix (h : EndsOnce tokens) {t : Token} {rest : List Token}
    (hsuffix : t :: rest <:+ tokens) (ht : t.isEnd = true) : rest = [] := by
  obtain ⟨lexemes, mark, rfl, -, hlexemes⟩ := h
  obtain ⟨before, happend⟩ := hsuffix
  rcases List.eq_nil_or_concat rest with rfl | ⟨rest', u, rfl⟩
  · rfl
  · have hsplit : (before ++ t :: rest') ++ [u] = lexemes ++ [mark] := by simpa using happend
    have hmem : t ∈ lexemes := by
      rw [← (List.append_inj' hsplit rfl).1]
      simp
    exact absurd ((hlexemes t hmem).symm.trans ht) (by simp)

end EndsOnce

theorem Cursor.isEnd_of_mem_scan (c : Cursor) : ∀ t ∈ c.scan.1, t.isEnd = false := by
  fun_induction Cursor.scan c with
  | case1 c h => simp
  | case2 c kind text h tokens stop hscan ih =>
    intro t ht
    rcases List.mem_cons.1 ht with rfl | ht
    · obtain ⟨_, _, hlexeme, _⟩ := exists_of_lexeme? h
      simpa [Token.isEnd, Cursor.tokenHere] using hlexeme.kind_ne
    · exact ih t (by rw [hscan]; exact ht)

variable {α : Type} {source text : String} {tokens : List Token}

theorem endsOnce_of_tokenize (h : tokenize source text = .ok tokens) : EndsOnce tokens := by
  have hscan := Cursor.isEnd_of_mem_scan (Cursor.ofText source text)
  rw [tokenize, Cursor.tokenize] at h
  split at h
  rename_i lexemes stop heq
  rw [heq] at hscan
  split at h
  · obtain rfl := Except.ok.inj h
    exact ⟨lexemes, _, rfl, rfl, hscan⟩
  · cases h

/-- A blank text has only the token that marks its end. -/
theorem length_of_isBlankText (h : tokenize source text = .ok tokens)
    (hblank : Text.isBlankText text = true) : tokens.length = 1 := by
  have hskip : (Cursor.ofText source text).skipBlanks.rest = [] := by
    have htake : text.toList.takeWhile Text.isBlank = text.toList := by
      simpa using @List.takeWhile_append_of_pos _ _ text.toList [] (List.all_eq_true.1 hblank)
    simp [Cursor.skipBlanks, Cursor.moveOver, Cursor.ofText, htake]
  have hscan : (Cursor.ofText source text).scan = ([], (Cursor.ofText source text).skipBlanks) := by
    rw [Cursor.scan]
    split
    · rfl
    · rename_i hlexeme
      simp [hskip, lexeme?] at hlexeme
  rw [tokenize, Cursor.tokenize, hscan] at h
  simp only [hskip] at h
  obtain rfl := Except.ok.inj h
  rfl

/-! ## Reading by one rule -/

/-- Reading a text that is not blank. -/
theorem readText_result (rule : Rule α) (htokens : tokenize source text = .ok tokens)
    (hblank : Text.isBlankText text = false) : ∃ s, s.toList = tokens ∧
      (readText rule source text).result = match rule s with
        | .done a r => if r.current.isEnd then .ok a else .error (.trailing r.current)
        | .failed e _ => .error e := by
  obtain ⟨lexemes, mark, htoks, -, -⟩ := endsOnce_of_tokenize htokens
  cases tokens with
  | nil => simp at htoks
  | cons t rest =>
    refine ⟨⟨t, rest⟩, rfl, ?_⟩
    rw [readText, if_neg (by simp [hblank]), htokens]
    simp only [TokenStream.ofList?]
    show ((Rule.bind rule _) _).toExcept = _
    rw [Rule.bind]
    cases rule ⟨t, rest⟩ with
    | failed e r => rfl
    | done a r =>
      simp only [Rule.expectEnd_bind]
      split <;> rfl

/-- What a text is read as, the rule reads up to the mark of the end. -/
theorem exists_done_of_readText {rule : Rule α} {a : α}
    (htokens : tokenize source text = .ok tokens) (h : (readText rule source text).result = .ok a) :
    ∃ s r, s.toList = tokens ∧ rule s = .done a r ∧ r.current.isEnd = true := by
  cases hblank : Text.isBlankText text with
  | true => simp [readText, hblank] at h
  | false =>
    obtain ⟨s, hs, hresult⟩ := readText_result rule htokens hblank
    rw [hresult] at h
    cases hrule : rule s with
    | failed e r => simp [hrule] at h
    | done a' r =>
      cases hend : r.current.isEnd with
      | false => simp [hrule, hend] at h
      | true =>
        obtain rfl : a' = a := by simpa [hrule, hend] using h
        exact ⟨s, r, hs, hrule, hend⟩

/-- What the rule reads up to the mark of the end, the text is read as, unless rules are nested too
deeply. -/
theorem exists_readText_eq_ok {rule : Rule α} {P : α → Prop}
    (htokens : tokenize source text = .ok tokens) (hlt : 1 < tokens.length)
    (hdepth : ∀ t, (readText rule source text).result ≠ .error (.tooDeep t))
    (h : ∀ s, s.toList = tokens →
      (rule s).Satisfies (fun a r => P a ∧ r.current.isEnd = true) TooDeep) :
    ∃ a, P a ∧ (readText rule source text).result = .ok a := by
  cases hblank : Text.isBlankText text with
  | true =>
    have := length_of_isBlankText htokens hblank
    omega
  | false =>
    obtain ⟨s, hs, hresult⟩ := readText_result rule htokens hblank
    have hs' := h s hs
    cases hrule : rule s with
    | done a r =>
      rw [hrule] at hs' hresult
      obtain ⟨ha, hend⟩ := hs'
      exact ⟨a, ha, by simp [hresult, hend]⟩
    | failed e r =>
      rw [hrule] at hs' hresult
      obtain ⟨t, rfl⟩ := hs'
      exact absurd hresult (hdepth t)

theorem ne_error_of_isOk {ε : Type} {x : Except ε α} (h : x.isOk = true) (e : ε) :
    x ≠ .error e := by
  rintro rfl
  cases h

theorem exists_ok_of_isOk {ε : Type} {x : Except ε α} (h : x.isOk = true) : ∃ a, x = .ok a := by
  cases x with
  | ok a => exact ⟨a, rfl⟩
  | error e => cases h

/-! ## Derivations of a whole text -/

namespace Grammar

open TokenStream Outcome

variable {d : Nat} {s : TokenStream} {t : Stmt} {ends : Bool → List Token → Prop}

theorem InputAt.mono {ends' : Bool → List Token → Prop}
    (hle : ∀ trailing r, ends trailing r → ends' trailing r) (h : InputAt ends tokens t) :
    InputAt ends' tokens t := by
  obtain ⟨body, trailing, mark, hlist, hmark, ht⟩ := h
  exact ⟨body, trailing, mark, hlist.mono hle, hmark, ht⟩

theorem InputAt.one_lt_length (h : InputAt ends tokens t) : 1 < tokens.length := by
  obtain ⟨body, trailing, mark, hlist, -, -⟩ := h
  exact hlist.isSuffix.2

theorem inputAt_of_statementList (hs : EndsOnce s.toList) {r : TokenStream}
    (h : statementList d s = .done t r) (hend : r.current.isEnd = true) :
    InputAt Exhausted s.toList t := by
  have hsound := (statement_sound d).2 s hs.ended
  rw [h] at hsound
  obtain ⟨body, trailing, ht, hlist, -⟩ := hsound
  have hr : r.toList = [r.current] := by
    rw [toList, hs.eq_singleton_of_suffix hlist.isSuffix.1 hend]
  exact ⟨body, trailing, r.current, hr ▸ hlist, hend, ht⟩

theorem isEnd_of_toList {mark : Token} (h : s.toList = [mark]) (hmark : mark.isEnd = true) :
    s.current.isEnd = true := by
  rw [current_eq h, hmark]

theorem statementList_of_exhausted (h : InputAt Exhausted s.toList t) :
    (statementList d s).Satisfies (fun t' r => t' = t ∧ r.current.isEnd = true) TooDeep := by
  obtain ⟨body, trailing, mark, hlist, hmark, rfl⟩ := h
  have hlast := endsList_of_isEnd hmark
  exact ((statement_complete d).2 s body trailing _ hlist (follows_endsList hlast)
    (exhausted_of_endsList hlast)).mono fun _ _ h => ⟨h.1, isEnd_of_toList h.2 hmark⟩

theorem statementList_of_anywhere (hs : Ended s.toList) (h : InputAt Anywhere s.toList t) :
    (statementList d s).Satisfies (fun _ r => True ∧ r.current.isEnd = true) TooDeep := by
  obtain ⟨body, trailing, mark, hlist, hmark, rfl⟩ := h
  have hbase := isBase_of_endsList (endsList_of_isEnd hmark) []
  refine ((statement_keepsOpen d).2 hbase hs hlist (.base rfl)).mono ?_
  rintro _ r ⟨_, hr⟩
  cases hr with
  | base hr => exact ⟨trivial, isEnd_of_toList hr hmark⟩

end Grammar

open Grammar in
/-- **A text is read iff the grammar derives its tokens**, unless rules are nested too deeply. It
is read as the tree of the derivation in which every branch takes the semicolons and statements
behind it that it can. -/
theorem Stmt.ofText_eq_ok_iff {limit : Nat} (htokens : tokenize source text = .ok tokens)
    (hdepth : ∀ t, (Stmt.ofText limit source text).result ≠ .error (.tooDeep t)) :
    ((∃ t, (Stmt.ofText limit source text).result = .ok t) ↔ ∃ t, InputAt Anywhere tokens t) ∧
      ∀ t, (Stmt.ofText limit source text).result = .ok t ↔ InputAt Exhausted tokens t := by
  have hends := endsOnce_of_tokenize htokens
  have hderived : ∀ t, (Stmt.ofText limit source text).result = .ok t →
      InputAt Exhausted tokens t := by
    intro t h
    obtain ⟨s, r, rfl, hdone, hend⟩ := exists_done_of_readText htokens h
    exact inputAt_of_statementList hends hdone hend
  refine ⟨⟨?_, ?_⟩, fun t => ⟨hderived t, fun h => ?_⟩⟩
  · rintro ⟨t, h⟩
    exact ⟨t, (hderived t h).mono fun _ _ _ => trivial⟩
  · rintro ⟨t, h⟩
    obtain ⟨t', -, hread⟩ := exists_readText_eq_ok htokens h.one_lt_length hdepth
      fun s hs => statementList_of_anywhere (hs ▸ hends.ended) (hs ▸ h)
    exact ⟨t', hread⟩
  · obtain ⟨t', rfl, hread⟩ := exists_readText_eq_ok htokens h.one_lt_length hdepth
      fun s hs => statementList_of_exhausted (hs ▸ h)
    exact hread

/-- The first semicolon may end the second branch or the list around the conditional; a second one
in the place of the other follows. -/
def semicolonsBehindBranch : String := "if (a) x := b else y := b ; ; z := b"

open Grammar in
theorem inputAt_semicolonsBehindBranch : ∃ tokens t,
    tokenize "" semicolonsBehindBranch = .ok tokens ∧ InputAt Exhausted tokens t ∧
      t.outline = "(seq (if $a (:= x $b) (:= y $b)) (:= z $b))" := by
  have houtline : (Stmt.ofText 100 "" semicolonsBehindBranch).result.toOption.map Stmt.outline =
      some "(seq (if $a (:= x $b) (:= y $b)) (:= z $b))" := by decide +kernel
  have htokens : (tokenize "" semicolonsBehindBranch).isOk = true := by decide +kernel
  cases hresult : (Stmt.ofText 100 "" semicolonsBehindBranch).result with
  | error e => simp [hresult, Except.toOption] at houtline
  | ok t =>
    cases htoks : tokenize "" semicolonsBehindBranch with
    | error u => simp [htoks, Except.isOk, Except.toBool] at htokens
    | ok tokens =>
      refine ⟨tokens, t, rfl, ?_, ?_⟩
      · exact ((Stmt.ofText_eq_ok_iff htoks (by simp [hresult])).2 t).1 hresult
      · simpa [hresult, Except.toOption] using houtline

end WeakestPre
