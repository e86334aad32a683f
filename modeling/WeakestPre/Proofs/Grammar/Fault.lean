import WeakestPre.Proofs.Grammar.Completion
import WeakestPre.Proofs.Grammar.Depth

/-!
# Errors are reported at the first impossible token

**Acceptance** (`Accepts`). A rule accepts some lexemes if it reads all of them, up to the mark of
the end, as soon as it may be nested deeply enough.

**The first impossible token** (`FirstImpossible`). An error is reported at the first token that
cannot stand where it stands: the tokens in front of it can be completed to accepted ones, and with
it they cannot. Where the text is over too early, that token is the mark of the end.

Both halves come from the theory of the rules (`ReadsLanguage`). What was read can be completed
to a word of the grammar, and every such word is accepted. If on the other hand the tokens up to the
refused one could be completed, then the rule would read the completion, although it looks at no
token behind the refused one and refuses it again.
-/

namespace WeakestPre

open Outcome TokenStream Grammar Rule

variable {α : Type}

/-- The rule reads all of the lexemes, if it may be nested deeply enough. -/
def Accepts (rule : Nat → Rule α) (lexemes : List Token) : Prop :=
  (∀ t ∈ lexemes, t.isEnd = false) ∧
    ∃ depth s mark a r, s.toList = lexemes ++ [mark] ∧ mark.isEnd = true ∧
      rule depth s = .done a r ∧ r.current.isEnd = true

/-- The error is reported at the token with index `i`. In front of it everything can still be
completed, and with it nothing can. -/
def FirstImpossible (Accepted : List Token → Prop) (tokens : List Token) (e : SyntaxError) : Prop :=
  ∃ i t, tokens[i]? = some t ∧ e.diagnostic.location = some t.location ∧
    e.diagnostic.details.lookup "found" = some (.text t.describe) ∧
    (∃ rest, Accepted (tokens.take i ++ rest)) ∧
    (t.isEnd = false → ∀ rest, ¬ Accepted (tokens.take (i + 1) ++ rest)) ∧
    (t.isEnd = true → ¬ Accepted (tokens.take i)) ∧
    (e.kind = .unexpectedEndOfInput → t.isEnd = true) ∧
    (e.kind = .unexpectedToken ∨ e.kind = .trailingTokens → t.isEnd = false)

/-! ## Rules and their languages -/

/-- All that is known of a rule and the words that the grammar derives for it. -/
structure ReadsLanguage (rule : Nat → Rule α) (D : List Token → Prop) : Prop where
  recognizes : ∀ depth, Recognizes D (rule depth)
  localAt : ∀ depth s, EndsOnce s.toList → LocalAt (rule depth) s
  complete : ∀ depth s w mark, D w → s.toList = w ++ [mark] → mark.isEnd = true →
    (rule depth s).Satisfies (fun _ r => r.current.isEnd = true) TooDeep
  shallow : ∀ s, Ended s.toList → ∃ depth, (rule depth s).Shallow
  unmarked : ∀ w, D w → ∀ t ∈ w, t.isEnd = false

theorem readsLanguage_expression : ReadsLanguage (fun depth => expression depth 0) (IsExpr 1) where
  recognizes := expression_recognizes_isExpr
  localAt depth := (expression_localAt depth).2 0
  complete := by
    rintro depth s w mark ⟨e, he⟩ hs hmark
    have hstop : Stops 0 [mark] := stops_cons (binaryOp?_eq_none (endsList_of_isEnd hmark).kind)
    have hreads := (expression_complete depth).2 0 s e [mark] (hs ▸ ExprAt.append_iff.2 he)
      (List.cons_ne_nil _ _) hstop
    exact hreads.mono fun _ _ h => isEnd_of_toList h.2 hmark
  shallow s hs := ⟨_, (expression_shallow _).2 0 s hs (Nat.lt_succ_self _)⟩
  unmarked _ h := h.unmarked

theorem readsLanguage_statementList : ReadsLanguage statementList IsList where
  recognizes depth := (statement_recognizes depth).2
  localAt depth := (statement_localAt depth).2
  complete := by
    rintro depth s w mark ⟨body, trailing, hlist⟩ hs hmark
    have hinput : InputAt Anywhere s.toList (.ofList body) :=
      ⟨body, trailing, mark, hs ▸ hlist.append [mark], hmark, rfl⟩
    have hends : EndsOnce s.toList :=
      ⟨w, mark, hs, hmark, IsList.unmarked ⟨body, trailing, hlist⟩⟩
    exact (statementList_of_anywhere hends.ended hinput).mono fun _ _ h => h.2
  shallow s hs := ⟨_, (statement_shallow _).2 s hs (Nat.lt_succ_self _)⟩
  unmarked _ h := h.unmarked

namespace ReadsLanguage

variable {rule : Nat → Rule α} {D : List Token → Prop} (h : ReadsLanguage rule D)

include h

/-- A word as a stream that the rule reads to its end, unless rules are nested too deeply. -/
theorem exists_stream {w : List Token} (hD : D w) (depth : Nat) :
    ∃ s mark, s.toList = w ++ [mark] ∧ mark.isEnd = true ∧ EndsOnce s.toList ∧
      (rule depth s).Satisfies (fun _ r => r.current.isEnd = true) TooDeep := by
  obtain ⟨s, hs⟩ := exists_toList_eq (l := w ++ [filler .endOfInput ""]) (by simp)
  exact ⟨s, _, hs, rfl, ⟨w, _, hs, rfl, h.unmarked w hD⟩, h.complete depth s w _ hD hs rfl⟩

/-- **A rule accepts exactly the words of its language.** -/
theorem accepts_iff {w : List Token} : Accepts rule w ↔ D w := by
  constructor
  · rintro ⟨hunmarked, depth, s, mark, a, r, hs, hmark, hdone, hend⟩
    have hends : EndsOnce s.toList := ⟨w, mark, hs, hmark, hunmarked⟩
    have hreads := h.recognizes depth s hends.ended
    rw [hdone] at hreads
    obtain ⟨v, hv, hD⟩ := hreads
    have hsuffix : r.current :: r.upcoming <:+ s.toList := hv ▸ List.suffix_append v _
    have hsplit : v ++ [r.current] = w ++ [mark] := by
      rw [← hs, hv, toList, hends.eq_singleton_of_suffix hsuffix hend]
    rw [← (List.append_inj' hsplit rfl).1]
    exact hD
  · intro hD
    obtain ⟨s, mark, hs, hmark, hends, -⟩ := h.exists_stream hD 0
    obtain ⟨depth, hshallow⟩ := h.shallow s hends.ended
    have hreads := h.complete depth s w mark hD hs hmark
    cases hrule : rule depth s with
    | done a r =>
      rw [hrule] at hreads
      exact ⟨h.unmarked w hD, depth, s, mark, a, r, hs, hmark, hrule, hreads⟩
    | failed e r =>
      rw [hrule] at hreads
      obtain ⟨t, rfl⟩ := hreads
      exact absurd hrule (hshallow t r)

variable {depth : Nat} {s : TokenStream} (hs : EndsOnce s.toList)

include hs

/-- A token that the rule refuses is the first impossible one. -/
theorem of_failed {e : SyntaxError} {r : TokenStream} (hfailed : rule depth s = .failed e r)
    (hdeep : ∀ t, e ≠ .tooDeep t) : ∃ w t u, s.toList = w ++ t :: u ∧ Refuses e r (t :: u) ∧
      (∃ rest, D (w ++ rest)) ∧ (∀ rest, ¬ D (w ++ t :: rest)) ∧ (t.isEnd = true → ¬ D w) := by
  have hlocal := h.localAt depth s hs
  have hreads := h.recognizes depth s hs.ended
  rw [LocalAt, hfailed] at hlocal
  rw [hfailed] at hreads
  obtain ⟨w, t, u, hw, hrefuses, hfails⟩ := hlocal
  rcases hreads with ⟨t', rfl⟩ | ⟨w', u', hw', hrefuses', hstarts⟩
  · exact absurd rfl (hdeep t')
  -- both statements are about the same token
  obtain rfl := hrefuses.unique hrefuses'
  obtain rfl := List.append_cancel_right (hw.symm.trans hw')
  refine ⟨w, t, u, hw, hrefuses, hstarts, fun rest hD => ?_, fun hend hD => ?_⟩
  · obtain ⟨s', mark, hs', -, hends, hreads⟩ := h.exists_stream hD depth
    obtain ⟨r', -, hr'⟩ := hfails s' (rest ++ [mark]) hends (by simpa using hs')
    rw [hr'] at hreads
    obtain ⟨t', rfl⟩ := hreads
    exact hdeep t' rfl
  · have hu := hs.eq_singleton_of_suffix (hw ▸ List.suffix_append w _) hend
    have hreads := h.complete depth s w t hD (hu ▸ hw) hend
    rw [hfailed] at hreads
    obtain ⟨t', rfl⟩ := hreads
    exact hdeep t' rfl

/-- A token behind what the rule reads is the first impossible one. -/
theorem of_done {a : α} {r : TokenStream} (hdone : rule depth s = .done a r)
    (hend : r.current.isEnd = false) : ∃ w, s.toList = w ++ r.toList ∧ D w ∧
      ∀ rest, ¬ D (w ++ r.current :: rest) := by
  have hlocal := h.localAt depth s hs
  have hreads := h.recognizes depth s hs.ended
  rw [LocalAt, hdone] at hlocal
  rw [hdone] at hreads
  obtain ⟨w, hw, hsame⟩ := hlocal
  obtain ⟨v, hv, hD⟩ := hreads
  obtain rfl := List.append_cancel_right (hw.symm.trans hv)
  refine ⟨w, hw, hD, fun rest hD' => ?_⟩
  obtain ⟨s', mark, hs', -, hends, hreads⟩ := h.exists_stream hD' depth
  have hdone' := hsame s' ⟨r.current, rest ++ [mark]⟩ hends (by simpa [toList] using hs') rfl
  rw [hdone'] at hreads
  exact absurd (hend.symm.trans hreads) (by simp)

end ReadsLanguage

/-! ## Texts that are refused -/

/-- The diagnostic is about this token. -/
structure IsAbout (e : SyntaxError) (t : Token) : Prop where
  location : e.diagnostic.location = some t.location
  found : e.diagnostic.details.lookup "found" = some (.text t.describe)
  ended : e.kind = .unexpectedEndOfInput → t.isEnd = true
  standing : e.kind = .unexpectedToken ∨ e.kind = .trailingTokens → t.isEnd = false

theorem Refuses.isAbout {e : SyntaxError} {r : TokenStream} {t : Token} {u : List Token}
    (h : Refuses e r (t :: u)) : IsAbout e t := by
  cases h with
  | unexpected x t rest =>
    cases hend : t.isEnd with
    | false => exact ⟨rfl, rfl, by simp [SyntaxError.kind, hend], fun _ => hend⟩
    | true => exact ⟨rfl, rfl, fun _ => hend, by simp [SyntaxError.kind, hend]⟩
  | missingElse | tooDeep | badNumber | emptyBlock =>
    exact ⟨rfl, rfl, by simp [SyntaxError.kind], by simp [SyntaxError.kind]⟩

theorem isAbout_trailing {t : Token} (h : t.isEnd = false) : IsAbout (.trailing t) t :=
  ⟨rfl, rfl, by simp [SyntaxError.kind], fun _ => h⟩

theorem firstImpossible_of_append {Accepted : List Token → Prop} {w u : List Token} {t : Token}
    {e : SyntaxError} (habout : IsAbout e t) (hstarts : ∃ rest, Accepted (w ++ rest))
    (hnext : ∀ rest, ¬ Accepted (w ++ t :: rest)) (hend : t.isEnd = true → ¬ Accepted w) :
    FirstImpossible Accepted (w ++ t :: u) e := by
  have htake : (w ++ t :: u).take (w.length + 1) = w ++ [t] := by
    have hsplit : w ++ t :: u = (w ++ [t]) ++ u := by simp
    rw [hsplit, List.take_left' (by simp)]
  refine ⟨w.length, t, by simp, habout.location, habout.found, by simpa using hstarts, ?_,
    by simpa using hend, habout.ended, habout.standing⟩
  intro _ rest
  rw [htake]
  simpa using hnext rest

variable {source text : String} {tokens : List Token} {e : SyntaxError}

theorem ReadsLanguage.firstImpossible {rule : Nat → Rule α} {D : List Token → Prop}
    (h : ReadsLanguage rule D) {depth : Nat} (htokens : tokenize source text = .ok tokens)
    (herror : (readText (rule depth) source text).result = .error e)
    (hempty : e.kind ≠ .emptyInput) (hdeep : e.kind ≠ .nestingTooDeep) :
    FirstImpossible (Accepts rule) tokens e := by
  have hdeep' : ∀ t, e ≠ .tooDeep t := by
    rintro t rfl
    exact hdeep rfl
  cases hblank : Text.isBlankText text with
  | true =>
    obtain rfl : SyntaxError.blankInput = e := by simpa [readText, hblank] using herror
    exact absurd rfl hempty
  | false =>
    obtain ⟨s, rfl, hresult⟩ := readText_result (rule depth) htokens hblank
    have hs := endsOnce_of_tokenize htokens
    rw [hresult] at herror
    cases hrule : rule depth s with
    | failed e' r =>
      obtain rfl : e' = e := by simpa [hrule] using herror
      obtain ⟨w, t, u, hw, hrefuses, hstarts, hnext, hend⟩ := h.of_failed hs hrule hdeep'
      rw [hw]
      simp only [← h.accepts_iff] at hstarts hnext hend
      exact firstImpossible_of_append hrefuses.isAbout hstarts hnext hend
    | done a r =>
      cases hcurrent : r.current.isEnd with
      | true => simp [hrule, hcurrent] at herror
      | false =>
        obtain rfl : SyntaxError.trailing r.current = e := by simpa [hrule, hcurrent] using herror
        obtain ⟨w, hw, hD, hnext⟩ := h.of_done hs hrule hcurrent
        rw [hw]
        simp only [← h.accepts_iff] at hD hnext
        have hstarts : ∃ ext, Accepts rule (w ++ ext) := ⟨[], by simpa using hD⟩
        refine firstImpossible_of_append (isAbout_trailing hcurrent) hstarts hnext ?_
        simp [hcurrent]

/-- **Errors are reported at the first impossible token**, in programs and in expressions, unless
the text is blank or rules are nested too deeply. -/
theorem firstImpossible_of_ofText {limit : Nat} (htokens : tokenize source text = .ok tokens)
    (hempty : e.kind ≠ .emptyInput) (hdeep : e.kind ≠ .nestingTooDeep) :
    ((Stmt.ofText limit source text).result = .error e →
      FirstImpossible (Accepts statementList) tokens e) ∧
    ((Expr.ofText limit source text).result = .error e →
      FirstImpossible (Accepts fun depth => expression depth 0) tokens e) :=
  ⟨fun herror => readsLanguage_statementList.firstImpossible htokens herror hempty hdeep,
    fun herror => readsLanguage_expression.firstImpossible htokens herror hempty hdeep⟩

/-- As a program it fails at the closing brace, which has been read by then; as an expression it
fails at its first word. -/
def emptyBranch : String := "if (a) \x7b \x7d else y := b"

theorem firstImpossible_emptyBranch : ∃ tokens e e', tokenize "" emptyBranch = .ok tokens ∧
    e.kind = .emptySequence ∧ e.location? = some ⟨1, 10, ""⟩ ∧
    (Stmt.ofText 100 "" emptyBranch).result = .error e ∧
    FirstImpossible (Accepts statementList) tokens e ∧
    e'.kind = .unexpectedToken ∧ e'.location? = some ⟨1, 1, ""⟩ ∧
    (Expr.ofText 100 "" emptyBranch).result = .error e' ∧
    FirstImpossible (Accepts fun depth => expression depth 0) tokens e' := by
  have htokens : (tokenize "" emptyBranch).isOk = true := by decide +kernel
  have hstmt : (match (Stmt.ofText 100 "" emptyBranch).result with
      | .error e => some (e.kind, e.location?)
      | .ok _ => none) = some (.emptySequence, some ⟨1, 10, ""⟩) := by decide +kernel
  have hexpr : (match (Expr.ofText 100 "" emptyBranch).result with
      | .error e => some (e.kind, e.location?)
      | .ok _ => none) = some (.unexpectedToken, some ⟨1, 1, ""⟩) := by decide +kernel
  cases htoks : tokenize "" emptyBranch with
  | error u => simp [htoks, Except.isOk, Except.toBool] at htokens
  | ok tokens =>
    cases hs : (Stmt.ofText 100 "" emptyBranch).result with
    | ok t => simp [hs] at hstmt
    | error e =>
      cases he : (Expr.ofText 100 "" emptyBranch).result with
      | ok t => simp [he] at hexpr
      | error e' =>
        obtain ⟨hkind, hlocation⟩ : e.kind = .emptySequence ∧ e.location? = some ⟨1, 10, ""⟩ := by
          simpa [hs] using hstmt
        obtain ⟨hkind', hlocation'⟩ : e'.kind = .unexpectedToken ∧
            e'.location? = some ⟨1, 1, ""⟩ := by
          simpa [he] using hexpr
        refine ⟨tokens, e, e', rfl, hkind, hlocation, rfl, ?_, hkind', hlocation', rfl, ?_⟩
        · exact (firstImpossible_of_ofText htoks (by simp [hkind]) (by simp [hkind])).1 hs
        · exact (firstImpossible_of_ofText htoks (by simp [hkind']) (by simp [hkind'])).2 he

end WeakestPre
