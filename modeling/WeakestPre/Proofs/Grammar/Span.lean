import WeakestPre.Proofs.Grammar.Expression

/-!
# Expressions between two tokens of a list

A derivation takes some tokens from the front of a list and does not depend on those behind them
(`ExprAt.word`), so it can be stated about a stretch of a list alone. `ExprSpan tokens i least e j`
says that the tokens from index `i` up to index `j` derive `e` from the layer that is read with
least precedence `least`, and that the token at `j` is no operator that could go on.

**Climbing finds the span** (`expression_eq_done_iff`). Started at any index with any least
precedence, the rule for expressions reads `e` and stops at `j` iff `e` spans the tokens from there
up to `j`. There is at most one such span.
-/

namespace WeakestPre.Grammar

open TokenStream Outcome

theorem isEnd_eq_false_of_kind {t : Token} {kind : TokenKind} (h : t.kind = kind)
    (hne : kind ≠ .endOfInput) : t.isEnd = false := by
  simpa [Token.isEnd, h] using hne

theorem isEnd_eq_false_of_isPunctuation {t : Token} {mark : String}
    (h : t.isPunctuation mark = true) : t.isEnd = false :=
  isEnd_eq_false_of_kind (Token.isPunctuation_iff.1 h).1 (by decide)

theorem isEnd_eq_false_of_isOperator {t : Token} {text : String} (h : t.isOperator text = true) :
    t.isEnd = false :=
  isEnd_eq_false_of_kind (Token.isOperator_iff.1 h).1 (by decide)

theorem isEnd_eq_false_of_isWord {t : Token} {text : String} (h : t.isWord text = true) :
    t.isEnd = false :=
  isEnd_eq_false_of_kind (Token.isWord_iff.1 h).1 (by decide)

namespace ExprAt

variable {k : Nat} {s r w : List Token} {e : Expr}

/-- **A derivation is about a word**: the tokens that it takes, among which is no mark of the end.
Behind them anything may stand. -/
theorem word (h : ExprAt k s e r) :
    ∃ w, s = w ++ r ∧ (∀ t ∈ w, t.isEnd = false) ∧ ∀ r', ExprAt k (w ++ r') e r' := by
  induction h with
  | @number t v r ht hv =>
    refine ⟨[t], rfl, ?_, fun r' => .number ht hv⟩
    simpa using isEnd_eq_false_of_kind ht (by decide)
  | @name t r ht hname =>
    refine ⟨[t], rfl, ?_, fun r' => .name ht hname⟩
    simpa using isEnd_eq_false_of_kind ht (by decide)
  | @abs t o c s r e ht ho he hc ih =>
    obtain ⟨w, rfl, hw, hany⟩ := ih
    refine ⟨t :: o :: (w ++ [c]), by simp, ?_, fun r' => ?_⟩
    · simpa [isEnd_eq_false_of_isWord ht, isEnd_eq_false_of_isPunctuation ho,
        isEnd_eq_false_of_isPunctuation hc, or_imp, forall_and] using hw
    · have := ExprAt.abs ht ho (hany (c :: r')) hc
      simpa using this
  | @not t s r e ht he ih =>
    obtain ⟨w, rfl, hw, hany⟩ := ih
    refine ⟨t :: w, rfl, ?_, fun r' => .not ht (hany r')⟩
    simpa [isEnd_eq_false_of_isOperator ht] using hw
  | @neg t s r e ht he ih =>
    obtain ⟨w, rfl, hw, hany⟩ := ih
    refine ⟨t :: w, rfl, ?_, fun r' => .neg ht (hany r')⟩
    simpa [isEnd_eq_false_of_isOperator ht] using hw
  | @group o c s r e ho he hc ih =>
    obtain ⟨w, rfl, hw, hany⟩ := ih
    refine ⟨o :: (w ++ [c]), by simp, ?_, fun r' => ?_⟩
    · simpa [isEnd_eq_false_of_isPunctuation ho, isEnd_eq_false_of_isPunctuation hc, or_imp,
        forall_and] using hw
    · have := ExprAt.group ho (hany (c :: r')) hc
      simpa using this
  | tighter _ ih =>
    obtain ⟨w, hs, hw, hany⟩ := ih
    exact ⟨w, hs, hw, fun r' => .tighter (hany r')⟩
  | @binary k s s' r t op e e' _ ht hop _ ih ih' =>
    obtain ⟨w, rfl, hw, hany⟩ := ih
    obtain ⟨w', rfl, hw', hany'⟩ := ih'
    have htend := isEnd_eq_false_of_kind (kind_of_binaryOp? ht) (by decide)
    refine ⟨w ++ t :: w', by simp, ?_, fun r' => ?_⟩
    · intro u hu
      rcases List.mem_append.1 hu with hu | hu
      · exact hw u hu
      · rcases List.mem_cons.1 hu with rfl | hu
        · exact htend
        · exact hw' u hu
    · have := ExprAt.binary (hany (t :: (w' ++ r'))) ht hop (hany' r')
      simpa using this

theorem append_iff : ExprAt k (w ++ r) e r ↔ ExprAt k w e [] := by
  constructor
  · intro h
    obtain ⟨w', hw', -, hany⟩ := h.word
    obtain rfl := List.append_cancel_right hw'
    simpa using hany []
  · intro h
    obtain ⟨w', hw', -, hany⟩ := h.word
    obtain rfl : w = w' := by simpa using hw'
    exact hany r

end ExprAt

/-- The tokens from index `i` up to index `j` derive `e` from the layer of `least`, and the token
at `j` is no operator of precedence at least `least`. -/
def ExprSpan (tokens : List Token) (i : Nat) (least : Int) (e : Expr) (j : Nat) : Prop :=
  ExprAt (layer least) (tokens.extract i j) e [] ∧
    ∃ t, tokens[j]? = some t ∧ ∀ op, binaryOp? t = some op → op.precedence < least

variable {tokens : List Token} {i j : Nat} {s : TokenStream} {e : Expr} {least : Int}

/-- The stream at an index starts with the token there, or with the last one behind the list. -/
theorem toList_of_at? (h : TokenStream.at? tokens i = some s) :
    s.toList = tokens.drop (min i (tokens.length - 1)) := by
  rw [TokenStream.at?] at h
  cases hdrop : tokens.drop (min i (tokens.length - 1)) with
  | nil => simp [hdrop, ofList?] at h
  | cons t rest =>
    obtain rfl : (⟨t, rest⟩ : TokenStream) = s := by simpa [hdrop, ofList?] using h
    rfl

theorem drop_eq_extract_append (hij : i ≤ j) :
    tokens.drop i = tokens.extract i j ++ tokens.drop j := by
  have hsplit := List.take_append_drop (j - i) (tokens.drop i)
  rw [List.drop_drop, Nat.add_sub_cancel' hij] at hsplit
  rw [List.extract_eq_take_drop, hsplit]

theorem stops_drop_iff : Stops least (tokens.drop j) ↔
    ∀ t, tokens[j]? = some t → ∀ op, binaryOp? t = some op → op.precedence < least := by
  rw [Stops, List.head?_drop]
  rfl

/-- A span is a derivation from the tokens at its start in front of those at its end. -/
theorem exprSpan_iff (hs : TokenStream.at? tokens i = some s) :
    ExprSpan tokens i least e j ↔ ExprAt (layer least) s.toList e (tokens.drop j) ∧
      j < tokens.length ∧ Stops least (tokens.drop j) := by
  rw [toList_of_at? hs, stops_drop_iff]
  constructor
  · rintro ⟨he, t, ht, hop⟩
    have hj : j < tokens.length := (List.getElem?_eq_some_iff.1 ht).1
    have hij : i < j := by
      apply Nat.lt_of_not_le
      intro hle
      exact he.ne_nil (by simp [List.extract_eq_take_drop, Nat.sub_eq_zero_of_le hle])
    rw [Nat.min_eq_left (by omega), drop_eq_extract_append (Nat.le_of_lt hij), ExprAt.append_iff]
    refine ⟨he, hj, fun t' ht' => ?_⟩
    obtain rfl : t = t' := Option.some.inj (ht.symm.trans ht')
    exact hop
  · rintro ⟨he, hj, hstop⟩
    have hlen := he.isSuffix.2
    simp only [List.length_drop] at hlen
    have hmin : min i (tokens.length - 1) = i := by omega
    rw [hmin, drop_eq_extract_append (j := j) (by omega), ExprAt.append_iff] at he
    exact ⟨he, _, List.getElem?_eq_getElem hj, hstop _ (List.getElem?_eq_getElem hj)⟩

/-- **Climbing finds the span.** From any index, with any least precedence, the rule reads `e` and
stops at `j` iff `e` spans the tokens from there up to `j`, unless rules are nested too deeply; and
there is at most one span. -/
theorem expression_eq_done_iff (hends : Ended tokens) (hs : TokenStream.at? tokens i = some s)
    {depth : Nat} (hdepth : ∀ t r, expression depth least s ≠ .failed (.tooDeep t) r) :
    (∀ e j, (∃ r, expression depth least s = .done e r ∧ r.toList = tokens.drop j) ↔
      ExprSpan tokens i least e j) ∧
    ∀ e j e' j', ExprSpan tokens i least e j → ExprSpan tokens i least e' j' → e = e' ∧ j = j' := by
  have hreads : ∀ e j, (∃ r, expression depth least s = .done e r ∧ r.toList = tokens.drop j) ↔
      ExprSpan tokens i least e j := by
    intro e j
    rw [exprSpan_iff hs]
    constructor
    · rintro ⟨r, hdone, hr⟩
      have hs' : Ended s.toList := by
        rw [toList_of_at? hs]
        exact hends.of_suffix (List.drop_suffix _ _) (toList_of_at? hs ▸ toList_ne_nil)
      have hsound := (expression_sound depth).2 least s hs'
      rw [hdone] at hsound
      refine ⟨hr ▸ hsound.1, ?_, hr ▸ hsound.2⟩
      apply Nat.lt_of_not_le
      intro hj
      exact r.toList_ne_nil (by rw [hr, List.drop_eq_nil_of_le hj])
    · rintro ⟨he, hj, hstop⟩
      have hne : tokens.drop j ≠ [] := by simpa using hj
      have hcomplete := (expression_complete depth).2 least s e _ he hne hstop
      cases hrule : expression depth least s with
      | done e' r =>
        rw [hrule] at hcomplete
        obtain ⟨rfl, hr⟩ := hcomplete
        exact ⟨r, rfl, hr⟩
      | failed err r =>
        rw [hrule] at hcomplete
        obtain ⟨t, rfl⟩ := hcomplete
        exact absurd hrule (hdepth t r)
  refine ⟨hreads, fun e j e' j' h h' => ?_⟩
  obtain ⟨r, hdone, hr⟩ := (hreads e j).2 h
  obtain ⟨r', hdone', hr'⟩ := (hreads e' j').2 h'
  obtain ⟨rfl, rfl⟩ : e = e' ∧ r = r' := by simpa using hdone.symm.trans hdone'
  have hlen := congrArg List.length (hr.symm.trans hr')
  have hj := ((exprSpan_iff hs).1 h).2.1
  have hj' := ((exprSpan_iff hs).1 h').2.1
  simp only [List.length_drop] at hlen
  exact ⟨rfl, by omega⟩

/-- The tokens of `x := a - b - c * d`, all at one place. -/
def differenceTokens : List Token :=
  let token (kind : TokenKind) (text : String) : Token := ⟨kind, text, ⟨1, 1, ""⟩⟩
  [token .identifier "x", token .operator ":=", token .identifier "a", token .operator "-",
    token .identifier "b", token .operator "-", token .identifier "c", token .operator "*",
    token .identifier "d", token .endOfInput ""]

/-- From the first operand on, subtractions group to the left and a product is an operand. -/
theorem exprSpan_differenceTokens : Ended differenceTokens ∧ ExprSpan differenceTokens 2 5
    (.binary .sub (.binary .sub (.var "a") (.var "b")) (.binary .mul (.var "c") (.var "d"))) 9 := by
  have hends : Ended differenceTokens := rfl
  have hdone : expression 9 5 ⟨differenceTokens[2], differenceTokens.drop 3⟩ =
      .done (.binary .sub (.binary .sub (.var "a") (.var "b")) (.binary .mul (.var "c") (.var "d")))
        ⟨differenceTokens[9], []⟩ := by
    rfl
  refine ⟨hends, ((expression_eq_done_iff hends rfl ?_).1 _ 9).1 ⟨_, hdone, rfl⟩⟩
  intro t r
  simp [hdone]

end WeakestPre.Grammar
