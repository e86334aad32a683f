import WeakestPre.Proofs.Composition
import WeakestPre.Proofs.Grammar.Depth
import WeakestPre.Proofs.Grammar.Printed

/-!
# Texts within parentheses and braces

Marks around a text do not change how the text is cut into tokens (`exists_tokenize_enclosed`), and
a rule that read the text up to its end reads it up to the closing mark as well: no operator can go
on there, and no branch can take more statements.

**Theorem** (`ofText_enclosed`). An expression in parentheses is read as the same expression, and a
program in braces as the same program, so a block is read as the list of statements within it. Only
the depth of the nesting can be in the way, which takes a text of many tokens
(`readText_readsAs`).
-/

namespace WeakestPre

open Grammar

variable {α : Type} {limit : Nat} {source source' text : String} {w : List Token} {mark : Token}

/-! ## Nesting -/

/-- Read as `a`, or nested more deeply than a limit, which does not happen to texts of few
tokens. -/
def Reading.ReadsAs (limit : Nat) (reading : Reading α) (a : α) : Prop :=
  reading.result = .ok a ∨ ∃ t n, reading.result = .error (.tooDeep t) ∧
    reading.tokenCount? = some n ∧ limit < 2 * n

theorem Reading.ReadsAs.result_eq {reading : Reading α} {a : α} (h : reading.ReadsAs limit a)
    (hok : reading.result.isOk = true) : reading.result = .ok a := by
  rcases h with h | ⟨t, _, h, -⟩
  · exact h
  · exact absurd h (ne_error_of_isOk hok _)

theorem tokenCount?_readText (rule : Rule α) {tokens : List Token}
    (htokens : tokenize source text = .ok tokens) (hblank : Text.isBlankText text = false) :
    (readText rule source text).tokenCount? = some tokens.length := by
  rw [readText, if_neg (by simp [hblank]), htokens]

/-- **A rule that is nested no deeper than twice its tokens refuses only long texts as nested too
deeply.** -/
theorem lt_of_tooDeep {rule : Rule α}
    (hrule : ∀ s, Ended s.toList → 2 * s.remaining + 1 < limit → (rule s).Shallow)
    {t : Token} (h : (readText rule source text).result = .error (.tooDeep t)) :
    ∃ n, (readText rule source text).tokenCount? = some n ∧ limit < 2 * n := by
  cases hblank : Text.isBlankText text with
  | true => simp [readText, hblank] at h
  | false =>
    cases htokens : tokenize source text with
    | error u => simp [readText, hblank, htokens] at h
    | ok tokens =>
      refine ⟨_, tokenCount?_readText rule htokens hblank, ?_⟩
      obtain ⟨s, rfl, hresult⟩ := readText_result rule htokens hblank
      by_contra hlt
      have hlength : s.toList.length = s.remaining + 1 := rfl
      have hshallow := hrule s (endsOnce_of_tokenize htokens).ended (by omega)
      rw [hresult] at h
      cases hdone : rule s with
      | done a r =>
        cases hend : r.current.isEnd with
        | true => simp [hdone, hend] at h
        | false => simp [hdone, hend] at h
      | failed e r =>
        rw [hdone] at h
        obtain rfl := Except.error.inj h
        exact hshallow t r hdone

theorem readText_readsAs {rule : Rule α} {a : α}
    (hrule : ∀ s, Ended s.toList → 2 * s.remaining + 1 < limit → (rule s).Shallow)
    (h : (∀ t, (readText rule source text).result ≠ .error (.tooDeep t)) →
      (readText rule source text).result = .ok a) :
    (readText rule source text).ReadsAs limit a := by
  by_cases hdepth : ∃ t, (readText rule source text).result = .error (.tooDeep t)
  · obtain ⟨t, ht⟩ := hdepth
    obtain ⟨n, hcount, hlt⟩ := lt_of_tooDeep hrule ht
    exact .inr ⟨t, n, ht, hcount, hlt⟩
  · exact .inl (h fun t ht => hdepth ⟨t, ht⟩)

/-! ## Tokens between marks -/

theorem lexemes_of_tokenize {ls : List (TokenKind × List Char)} (h : Layout [] text.toList ls)
    (htokens : tokenize source text = .ok (w ++ [mark])) :
    w.map Token.lexeme = ls ∧ mark.lexeme = (.endOfInput, []) := by
  obtain ⟨tokens, htokens', hlexemes⟩ := (@tokenize_eq_ok_iff _ source _).2 h
  obtain rfl : w ++ [mark] = tokens := Except.ok.inj (htokens.symm.trans htokens')
  rw [List.map_append] at hlexemes
  obtain ⟨hw, hmark⟩ := List.append_inj' hlexemes rfl
  exact ⟨hw, (List.cons.inj hmark).1⟩

/-- **Marks around a text leave its tokens as they are.** -/
theorem exists_tokenize_enclosed {ls : List (TokenKind × List Char)} {o c : Char} {whole : String}
    (h : Layout [] text.toList ls) (ho : o ∈ punctuationMarks) (hc : c ∈ punctuationMarks)
    (hchars : whole.toList = o :: (text.toList ++ [c])) (source : String) :
    ∃ first w last mark, tokenize source whole = .ok (first :: (w ++ [last]) ++ [mark]) ∧
      first.isPunctuation (String.singleton o) = true ∧
      last.isPunctuation (String.singleton c) = true ∧
      w.map Token.lexeme = ls ∧ mark.lexeme = (.endOfInput, []) := by
  have hdelimiter : c ∈ delimiters := List.mem_cons_of_mem _ hc
  have hlayout : Layout [] whole.toList
      ((.punctuation, [o]) :: (ls ++ [(.punctuation, [c])])) := by
    rw [hchars]
    refine .mark_cons ho (h.append_delimiter hdelimiter (.mark_cons hc ?_))
    exact .blanks (by simp)
  obtain ⟨tokens, htokens, hlexemes⟩ := (@tokenize_eq_ok_iff _ source _).2 hlayout
  simp only [List.cons_append, List.append_assoc, List.nil_append, List.map_eq_cons_iff,
    List.map_eq_append_iff, List.map_eq_nil_iff] at hlexemes
  obtain ⟨first, _, rfl, hfirst, w, _, rfl, hw, last, _, rfl, hlast, mark, _, rfl, hmark, rfl⟩ :=
    hlexemes
  refine ⟨first, w, last, mark, ?_, Token.isPunctuation_of_lexeme hfirst,
    Token.isPunctuation_of_lexeme hlast, hw, hmark⟩
  simpa using htokens

/-- Between the two marks the rule reads the tokens as `a`, whatever stands behind the marks, and
twice as many levels as there are tokens are enough for it. -/
def ReadsBetween (rule : Nat → Rule α) (opening closing : String) (w : List Token) (a : α) : Prop :=
  ∀ (d : Nat) (s : TokenStream) (o c : Token) (rest : List Token), o.isPunctuation opening = true →
    c.isPunctuation closing = true → rest ≠ [] → s.toList = o :: (w ++ c :: rest) →
    Reads a rest (rule d s) ∧
      (Ended s.toList → 2 * s.remaining < d → ∃ r, rule d s = .done a r ∧ r.toList = rest)

theorem done_of_shallow {o : Outcome α} {a : α} {rest : List Token} (h : Reads a rest o)
    (hshallow : o.Shallow) : ∃ r, o = .done a r ∧ r.toList = rest := by
  cases o with
  | done a' r =>
    obtain ⟨rfl, hr⟩ := h
    exact ⟨r, rfl, hr⟩
  | failed e r =>
    obtain ⟨t, rfl⟩ := h
    exact absurd rfl (hshallow t r)

/-! ## Expressions -/

namespace Expr

variable {e : Expr}

theorem exists_layout_of_ofText (h : (Expr.ofText limit source text).result = .ok e) :
    ∃ ls, Layout [] text.toList ls ∧ ∀ (w : List Token) (mark : Token), w.map Token.lexeme = ls →
      mark.lexeme = (.endOfInput, []) → ExprAt 1 w e [] := by
  obtain ⟨ls, hlayout, hread⟩ := ((expression_blind limit).2 0).exists_done_of_readText h
  refine ⟨ls, hlayout, fun w mark hw hmark => ?_⟩
  obtain ⟨s, r, hs, hends, hdone, hend⟩ := hread w mark hw hmark
  have hsound := (expression_sound limit).2 0 s hends.ended
  rw [hdone] at hsound
  have hexpr : ExprAt 1 s.toList e r.toList := hsound.1
  -- the text ends only once, so no token in front of the mark is left over
  have hr : r.toList = [r.current] := by
    rw [TokenStream.toList, hends.eq_singleton_of_suffix hexpr.isSuffix.1 hend]
  obtain ⟨v, hv⟩ := hexpr.isSuffix.1
  obtain ⟨rfl, hlast⟩ := List.append_inj' (hv.trans hs) (by simp [hr])
  rw [← hv] at hexpr
  exact ExprAt.append_iff.1 hexpr

/-- **Parentheses around an expression make an operand.** -/
theorem exprAt_parenthesized {o c : Token} (ho : o.isPunctuation "(" = true)
    (hc : c.isPunctuation ")" = true) (h : ExprAt 1 w e []) (rest : List Token) :
    ExprAt 7 (o :: (w ++ c :: rest)) e rest :=
  .group ho (ExprAt.append_iff.2 h) hc

theorem primary_readsBetween (h : ExprAt 1 w e []) : ReadsBetween primary "(" ")" w e := by
  intro d s o c rest ho hc hrest hs
  have hgroup : ExprAt 7 s.toList e rest := hs ▸ exprAt_parenthesized ho hc h rest
  have hread := (expression_complete d).1 s e rest hgroup hrest
  exact ⟨hread, fun hended hlt =>
    done_of_shallow hread ((expression_shallow d).1 s hended hlt)⟩

theorem ofText_parenthesized (h : (Expr.ofText limit source text).result = .ok e)
    (source' : String) : (Expr.ofText limit source' ("(" ++ text ++ ")")).ReadsAs limit e := by
  obtain ⟨ls, hlayout, hexpr⟩ := exists_layout_of_ofText h
  have hchars : ("(" ++ text ++ ")").toList = '(' :: (text.toList ++ [')']) := by simp
  obtain ⟨o, w, c, mark, htokens, ho, hc, hw, hmark⟩ :=
    exists_tokenize_enclosed hlayout (by decide) (by decide) hchars source'
  refine readText_readsAs ((expression_shallow limit).2 0) fun hdepth => ?_
  have hgroup := exprAt_parenthesized ho hc (hexpr w mark hw hmark) []
  exact ofText_of_exprAt htokens (Token.isEnd_of_lexeme hmark) hgroup (by decide) hdepth

end Expr

/-! ## Programs -/

namespace Stmt

variable {S : Stmt}

theorem block_readsBetween (h : InputAt Exhausted (w ++ [mark]) S) :
    ReadsBetween (fun d => block (statement d)) "\x7b" "\x7d" w S := by
  intro d s o c rest ho hc hrest hs
  obtain ⟨-, body, trailing, rfl, hbody⟩ := h.before
  -- the closing brace ends the list, and its open branches, as the end of the text does
  have hlist := (hbody c rest (endsList_close hc)).mono fun _ _ => exhausted_of_closed
  have hread :=
    block_complete (statement_complete d).1 hs ho hlist.items hlist.body_ne_nil hc hrest
  refine ⟨hread, fun hended hlt => done_of_shallow hread ?_⟩
  exact block_shallow (statement_consumes d) hended fun r hr hlt' =>
    (statement_shallow d).1 r hr (by omega)

/-- **A program in braces is a program.** -/
theorem inputAt_braced {o c mark' : Token} (h : InputAt Exhausted (w ++ [mark]) S)
    (ho : o.isPunctuation "\x7b" = true) (hc : c.isPunctuation "\x7d" = true)
    (hmark : mark'.isEnd = true) : InputAt Exhausted (o :: (w ++ [c]) ++ [mark']) S := by
  obtain ⟨-, body, trailing, rfl, hbody⟩ := h.before
  have hblock := (hbody c [mark'] (endsList_close hc)).block ho hc
  have hlist : ListAt Closed (o :: (w ++ c :: [mark'])) [.ofList body] false [mark'] :=
    .mk hblock .stop
  refine ⟨[.ofList body], false, mark', ?_, hmark, rfl⟩
  simpa using hlist.mono fun _ _ => exhausted_of_closed

theorem ofText_braced (h : (Stmt.ofText limit source text).result = .ok S) (source' : String) :
    (Stmt.ofText limit source' ("\x7b" ++ text ++ "\x7d")).ReadsAs limit S := by
  obtain ⟨ls, hlayout, hinput⟩ := exists_layout_of_ofText h
  have hchars : ("\x7b" ++ text ++ "\x7d").toList = '\x7b' :: (text.toList ++ ['\x7d']) := by simp
  obtain ⟨o, w, c, mark, htokens, ho, hc, hw, hmark⟩ :=
    exists_tokenize_enclosed hlayout (by decide) (by decide) hchars source'
  refine readText_readsAs (statement_shallow limit).2 fun hdepth => ?_
  have hbraced := inputAt_braced (hinput w mark hw hmark) ho hc (Token.isEnd_of_lexeme hmark)
  obtain ⟨_, rfl, hread⟩ := exists_readText_eq_ok htokens hbraced.one_lt_length hdepth
    fun s hs => statementList_of_exhausted (hs ▸ hbraced)
  exact hread

end Stmt

/-! ## Both -/

/-- **Parentheses and braces around a text that is read leave its tree as it is**, and so they do
around its tokens within a longer text. -/
theorem ofText_enclosed (limit : Nat) (source source' text : String) :
    (∀ e, (Expr.ofText limit source text).result = .ok e →
      (Expr.ofText limit source' ("(" ++ text ++ ")")).ReadsAs limit e ∧
      ∀ w mark, tokenize source text = .ok (w ++ [mark]) →
        ReadsBetween primary "(" ")" w e) ∧
    ∀ S, (Stmt.ofText limit source text).result = .ok S →
      (Stmt.ofText limit source' ("\x7b" ++ text ++ "\x7d")).ReadsAs limit S ∧
      ∀ w mark, tokenize source text = .ok (w ++ [mark]) →
        ReadsBetween (fun d => block (statement d)) "\x7b" "\x7d" w S := by
  refine ⟨fun e h => ⟨Expr.ofText_parenthesized h source', ?_⟩,
    fun S h => ⟨Stmt.ofText_braced h source', ?_⟩⟩
  · intro w mark htokens
    obtain ⟨ls, hlayout, hexpr⟩ := Expr.exists_layout_of_ofText h
    obtain ⟨hw, hmark⟩ := lexemes_of_tokenize hlayout htokens
    exact Expr.primary_readsBetween (hexpr w mark hw hmark)
  · intro w mark htokens
    obtain ⟨ls, hlayout, hinput⟩ := Stmt.exists_layout_of_ofText h
    obtain ⟨hw, hmark⟩ := lexemes_of_tokenize hlayout htokens
    exact Stmt.block_readsBetween (hinput w mark hw hmark)

/-- Its loosest operator stands between two tighter ones. -/
def quotientBound : String := "x / y <= -z && !b"

theorem ofText_enclosed_branch : ∃ e S w mark,
    (Expr.ofText 100 "" quotientBound).result = .ok e ∧
    (Expr.ofText 100 "" ("(" ++ quotientBound ++ ")")).result = .ok e ∧
    (Stmt.ofText 100 "" semicolonsBehindBranch).result = .ok S ∧
    (Stmt.ofText 100 "" ("\x7b" ++ semicolonsBehindBranch ++ "\x7d")).result = .ok S ∧
    tokenize "" semicolonsBehindBranch = .ok (w ++ [mark]) ∧
    ReadsBetween (fun d => block (statement d)) "\x7b" "\x7d" w S := by
  have hread : (Expr.ofText 100 "" quotientBound).result.isOk = true ∧
      (Expr.ofText 100 "" ("(" ++ quotientBound ++ ")")).result.isOk = true ∧
      (Stmt.ofText 100 "" semicolonsBehindBranch).result.isOk = true ∧
      (Stmt.ofText 100 "" ("\x7b" ++ semicolonsBehindBranch ++ "\x7d")).result.isOk = true := by
    decide +kernel
  obtain ⟨hexpr, hexpr', hstmt, hstmt'⟩ := hread
  obtain ⟨e, he⟩ := exists_ok_of_isOk hexpr
  obtain ⟨S, hS⟩ := exists_ok_of_isOk hstmt
  obtain ⟨tokens, htokens⟩ := exists_tokenize_of_readText hS
  obtain ⟨w, mark, rfl, -, -⟩ := exists_layout_of_tokenize htokens
  obtain ⟨hgrouped, -⟩ := (ofText_enclosed 100 "" "" quotientBound).1 e he
  obtain ⟨hbraced, hblock⟩ := (ofText_enclosed 100 "" "" semicolonsBehindBranch).2 S hS
  exact ⟨e, S, w, mark, he, hgrouped.result_eq hexpr', hS, hbraced.result_eq hstmt', htokens,
    hblock w mark htokens⟩

end WeakestPre
