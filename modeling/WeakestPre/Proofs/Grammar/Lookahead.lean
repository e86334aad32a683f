import WeakestPre.Proofs.Grammar.Reading
import WeakestPre.Proofs.Grammar.Span

/-!
# Rules look one token ahead

**Refused tokens** (`Refuses`). A rule that fails does so because of one token. Most errors are
about the token at which the rule gave up; a bad numeral and the closing brace of an empty block
have been read before they are refused.

**One token of lookahead** (`LocalAt`). What a rule does depends on the tokens that it reads and on
the one behind them: on any other text with the same tokens up to there it does the same. If it
fails, then it fails in the same way and at the same place on every text with the same tokens up to
the refused one.

The property is kept by `bind`, so each rule inherits it from its parts. The loops take their fuel
from the length of the text, which may be different in another text; but a loop whose body reads
tokens does the same with any fuel that suffices (`IsLoop.fuel`).
-/

namespace WeakestPre

variable {α β : Type}

namespace TokenStream

theorem ext_toList {s r : TokenStream} (h : s.toList = r.toList) : s = r := by
  obtain ⟨hcurrent, hupcoming⟩ := List.cons.inj h
  cases s
  cases r
  simp_all

theorem exists_toList_eq {l : List Token} (h : l ≠ []) : ∃ s : TokenStream, s.toList = l := by
  cases l with
  | nil => exact absurd rfl h
  | cons t rest => exact ⟨⟨t, rest⟩, rfl⟩

/-- Streams that start alike have the same current token. -/
theorem current_eq_of_append {s s' : TokenStream} {w l l' : List Token} (hs : s.toList = w ++ l)
    (hs' : s'.toList = w ++ l') (hl : l'.head? = l.head?) : s'.current = s.current := by
  have hhead : s'.toList.head? = s.toList.head? := by
    rw [hs, hs', List.head?_append, List.head?_append, hl]
  exact Option.some.inj hhead

end TokenStream

theorem EndsOnce.of_suffix {l r : List Token} (h : EndsOnce l) (hsuffix : r <:+ l) (hr : r ≠ []) :
    EndsOnce r := by
  obtain ⟨lexemes, mark, rfl, hmark, hlexemes⟩ := h
  obtain ⟨before, happend⟩ := hsuffix
  rcases List.eq_nil_or_concat r with rfl | ⟨r', u, rfl⟩
  · exact absurd rfl hr
  · have hsplit : (before ++ r') ++ [u] = lexemes ++ [mark] := by simpa using happend
    obtain ⟨hlex, hlast⟩ := List.append_inj' hsplit rfl
    obtain rfl : u = mark := by simpa using hlast
    refine ⟨r', u, by simp, hmark, fun t ht => hlexemes t ?_⟩
    rw [← hlex]
    exact List.mem_append_right _ ht

/-! ## Refused tokens -/

/-- `Refuses e r u`: a rule that failed with `e` at `r` has refused the first token of `u`. -/
inductive Refuses : SyntaxError → TokenStream → List Token → Prop
  | unexpected (x : Expectation) (t : Token) (rest : List Token) :
      Refuses (.unexpected x t) ⟨t, rest⟩ (t :: rest)
  | missingElse (t : Token) (rest : List Token) : Refuses (.missingElse t) ⟨t, rest⟩ (t :: rest)
  | tooDeep (t : Token) (rest : List Token) : Refuses (.tooDeep t) ⟨t, rest⟩ (t :: rest)
  | badNumber (t : Token) (r : TokenStream) : Refuses (.badNumber t) r (t :: r.toList)
  | emptyBlock (t : Token) (r : TokenStream) : Refuses (.emptyBlock t) r (t :: r.toList)

theorem Refuses.unique {e : SyntaxError} {r : TokenStream} {u u' : List Token}
    (h : Refuses e r u) (h' : Refuses e r u') : u = u' := by
  cases h <;> cases h' <;> rfl

/-- The token at the front of another text is refused there as well. -/
theorem Refuses.of_current {e : SyntaxError} {s s' : TokenStream} (h : Refuses e s s.toList)
    (hs' : s'.current = s.current) : Refuses e s' s'.toList := by
  generalize hl : s.toList = l at h
  cases h with
  | unexpected x t rest =>
    obtain rfl : s'.current = t := hs'
    exact .unexpected x _ _
  | missingElse t rest =>
    obtain rfl : s'.current = t := hs'
    exact .missingElse _ _
  | tooDeep t rest =>
    obtain rfl : s'.current = t := hs'
    exact .tooDeep _ _
  | badNumber t r => exact absurd (congrArg List.length hl) (by simp)
  | emptyBlock t r => exact absurd (congrArg List.length hl) (by simp)

/-! ## One token of lookahead -/

namespace Rule

open TokenStream Outcome

/-- The rule ends well after some tokens, whatever follows the next one; or it refuses a token,
whatever follows that one. -/
def LocalAt (rule : Rule α) (s : TokenStream) : Prop :=
  (rule s).Satisfies
    (fun a r => ∃ w, s.toList = w ++ r.toList ∧ ∀ s' r' : TokenStream, EndsOnce s'.toList →
      s'.toList = w ++ r'.toList → r'.current = r.current → rule s' = .done a r')
    (fun e r => ∃ w t u, s.toList = w ++ t :: u ∧ Refuses e r (t :: u) ∧
      ∀ (s' : TokenStream) (u' : List Token), EndsOnce s'.toList → s'.toList = w ++ t :: u' →
        ∃ r', Refuses e r' (t :: u') ∧ rule s' = .failed e r')

theorem bind_of_done {r : Rule α} {f : α → Rule β} {s s₁ : TokenStream} {a : α}
    (h : r s = .done a s₁) : (r >>= f) s = f a s₁ := by
  show Rule.bind r f s = _
  rw [Rule.bind, h]

theorem bind_of_failed {r : Rule α} {f : α → Rule β} {s s₁ : TokenStream} {e : SyntaxError}
    (h : r s = .failed e s₁) : (r >>= f) s = .failed e s₁ := by
  show Rule.bind r f s = _
  rw [Rule.bind, h]

theorem bind_eq_of_eq {r r' : Rule α} {f : α → Rule β} {s : TokenStream} (h : r s = r' s) :
    (r >>= f) s = (r' >>= f) s := by
  show Rule.bind r f s = Rule.bind r' f s
  rw [Rule.bind, Rule.bind, h]

/-- Two sequences do the same if their first rules do, and the others where these end. -/
theorem bind_eq_bind {r r' : Rule α} {f f' : α → Rule β} {s : TokenStream} (h : r s = r' s)
    (hf : ∀ a s₁, r' s = .done a s₁ → f a s₁ = f' a s₁) : (r >>= f) s = (r' >>= f') s := by
  rw [bind_eq_of_eq h]
  cases hrule : r' s with
  | done a s₁ => rw [bind_of_done hrule, bind_of_done hrule, hf a s₁ hrule]
  | failed e s₁ => rw [bind_of_failed hrule, bind_of_failed hrule]

namespace LocalAt

variable {rule rule' : Rule α} {s : TokenStream}

/-- Only texts with the same current token matter. -/
theorem congr (hs : EndsOnce s.toList)
    (h : ∀ s', EndsOnce s'.toList → s'.current = s.current → rule s' = rule' s')
    (hlocal : LocalAt rule' s) : LocalAt rule s := by
  rw [LocalAt, h s hs rfl]
  rw [LocalAt] at hlocal
  cases hrule : rule' s with
  | done a r =>
    rw [hrule] at hlocal
    obtain ⟨w, hw, hdone⟩ := hlocal
    refine ⟨w, hw, fun s' r' hends hs' hr' => ?_⟩
    rw [h s' hends (current_eq_of_append hw hs' (congrArg some hr'))]
    exact hdone s' r' hends hs' hr'
  | failed e r =>
    rw [hrule] at hlocal
    obtain ⟨w, t, u, hw, hrefuses, hfails⟩ := hlocal
    refine ⟨w, t, u, hw, hrefuses, fun s' u' hends hs' => ?_⟩
    rw [h s' hends (current_eq_of_append hw hs' rfl)]
    exact hfails s' u' hends hs'

theorem current_bind {f : Token → Rule α} (hs : EndsOnce s.toList)
    (h : LocalAt (f s.current) s) : LocalAt (current >>= f) s := by
  refine congr hs (fun s' _ hs' => ?_) h
  rw [Rule.current_bind, hs']

theorem pure (a : α) : LocalAt (Pure.pure a : Rule α) s := by
  refine ⟨[], rfl, fun s' r' _ hs' _ => ?_⟩
  rw [ext_toList hs']
  rfl

theorem fail {e : SyntaxError} (h : Refuses e s s.toList) : LocalAt (Rule.fail e : Rule α) s := by
  refine ⟨[], s.current, s.upcoming, rfl, h, fun s' u' _ hs' => ⟨s', ?_, rfl⟩⟩
  rw [List.nil_append] at hs'
  exact hs' ▸ h.of_current (current_eq hs')

/-- Reading a token of another text that starts with the same one. -/
theorem read_same (hs : s.current.isEnd = false) {s' : TokenStream} (hends : EndsOnce s'.toList)
    {l : List Token} (hs' : s'.toList = s.current :: l) :
    s'.current = s.current ∧ s'.advance.toList = l ∧ EndsOnce s'.advance.toList := by
  have hcurrent := current_eq hs'
  obtain ⟨hread, -⟩ := read_of_not_isEnd hends.ended (hcurrent ▸ hs)
  refine ⟨hcurrent, (List.cons.inj (hread.symm.trans hs')).2, ?_⟩
  exact hends.of_suffix (hread ▸ List.suffix_cons _ _) toList_ne_nil

/-- A rule that reads a token and goes on. -/
theorem next_bind {f : Token → Rule α} (hs : EndsOnce s.toList) (hend : s.current.isEnd = false)
    (h : EndsOnce s.advance.toList → LocalAt (f s.current) s.advance) :
    LocalAt (next >>= f) s := by
  obtain ⟨hread, -⟩ := read_of_not_isEnd hs.ended hend
  have hlocal := h (read_same hend hs hread).2.2
  rw [LocalAt] at hlocal ⊢
  rw [Rule.next_bind]
  cases hrule : f s.current s.advance with
  | done a r =>
    rw [hrule] at hlocal
    obtain ⟨w, hw, hdone⟩ := hlocal
    refine ⟨s.current :: w, by rw [hread, hw]; rfl, fun s' r' hends hs' hr' => ?_⟩
    obtain ⟨hcurrent, hadv, hends'⟩ := read_same hend hends hs'
    rw [Rule.next_bind, hcurrent]
    exact hdone _ r' hends' hadv hr'
  | failed e r =>
    rw [hrule] at hlocal
    obtain ⟨w, t, u, hw, hrefuses, hfails⟩ := hlocal
    refine ⟨s.current :: w, t, u, by rw [hread, hw]; rfl, hrefuses, fun s' u' hends hs' => ?_⟩
    obtain ⟨hcurrent, hadv, hends'⟩ := read_same hend hends hs'
    rw [Rule.next_bind, hcurrent]
    exact hfails _ u' hends' hadv

/-- A rule that refuses the token that it has read. -/
theorem next_fail {e : Token → SyntaxError} (hs : EndsOnce s.toList)
    (hend : s.current.isEnd = false) (h : ∀ t r, Refuses (e t) r (t :: r.toList)) :
    LocalAt (next >>= fun t => (Rule.fail (e t) : Rule α)) s := by
  obtain ⟨hread, -⟩ := read_of_not_isEnd hs.ended hend
  refine ⟨[], s.current, s.advance.toList, hread, h _ _, fun s' u' hends hs' => ?_⟩
  obtain ⟨hcurrent, hadv, -⟩ := read_same hend hends hs'
  refine ⟨s'.advance, hadv ▸ h _ _, ?_⟩
  rw [Rule.next_bind, hcurrent]
  rfl

/-- **One rule after another.** The second one starts where the first one ends, and the token
there is one that the first one may have looked at. -/
theorem bind {r : Rule α} {f : α → Rule β} (hs : EndsOnce s.toList) (hr : LocalAt r s)
    (hf : ∀ a s₁, r s = .done a s₁ → EndsOnce s₁.toList → LocalAt (f a) s₁) :
    LocalAt (r >>= f) s := by
  rw [LocalAt] at hr ⊢
  cases hrule : r s with
  | failed e s₁ =>
    rw [hrule] at hr
    obtain ⟨w, t, u, hw, hrefuses, hfails⟩ := hr
    rw [bind_of_failed hrule]
    refine ⟨w, t, u, hw, hrefuses, fun s' u' hends hs' => ?_⟩
    obtain ⟨r', hrefuses', hr'⟩ := hfails s' u' hends hs'
    exact ⟨r', hrefuses', bind_of_failed hr'⟩
  | done a s₁ =>
    rw [hrule] at hr
    obtain ⟨w, hw, hdone⟩ := hr
    have hs₁ : EndsOnce s₁.toList := hs.of_suffix (hw ▸ List.suffix_append _ _) toList_ne_nil
    have hlocal := hf a s₁ hrule hs₁
    -- on a text that starts alike, up to a token behind `w`, the first rule ends at the same place
    have hfirst : ∀ (s' : TokenStream) (l : List Token), EndsOnce s'.toList → s'.toList = w ++ l →
        l.head? = s₁.toList.head? →
        ∃ s₁', s₁'.toList = l ∧ EndsOnce s₁'.toList ∧ (r >>= f) s' = f a s₁' := by
      intro s' l hends hs' hl
      have hne : l ≠ [] := by
        rintro rfl
        simp [toList] at hl
      obtain ⟨s₁', rfl⟩ := exists_toList_eq hne
      refine ⟨s₁', rfl, hends.of_suffix (hs' ▸ List.suffix_append _ _) toList_ne_nil, ?_⟩
      exact bind_of_done (hdone s' s₁' hends hs' (Option.some.inj hl))
    rw [LocalAt] at hlocal
    rw [bind_of_done hrule]
    cases hrule' : f a s₁ with
    | done b r₁ =>
      rw [hrule'] at hlocal
      obtain ⟨w₁, hw₁, hdone₁⟩ := hlocal
      refine ⟨w ++ w₁, by rw [hw, hw₁, List.append_assoc], fun s' r' hends hs' hr' => ?_⟩
      rw [List.append_assoc] at hs'
      obtain ⟨s₁', hs₁', hends₁, heq⟩ := hfirst s' _ hends hs' (by
        rw [hw₁, List.head?_append, List.head?_append]
        exact congrArg _ (congrArg some hr'))
      rw [heq]
      exact hdone₁ s₁' r' hends₁ hs₁' hr'
    | failed e r₁ =>
      rw [hrule'] at hlocal
      obtain ⟨w₁, t, u, hw₁, hrefuses, hfails⟩ := hlocal
      refine ⟨w ++ w₁, t, u, by rw [hw, hw₁, List.append_assoc], hrefuses,
        fun s' u' hends hs' => ?_⟩
      rw [List.append_assoc] at hs'
      obtain ⟨s₁', hs₁', hends₁, heq⟩ := hfirst s' _ hends hs' (by
        rw [hw₁, List.head?_append, List.head?_append]
        rfl)
      rw [heq]
      exact hfails s₁' u' hends₁ hs₁'

theorem expectMark (hs : EndsOnce s.toList) (mark : String) (x : Expectation) :
    LocalAt (Rule.expectMark mark x) s := by
  rw [Rule.expectMark]
  refine current_bind hs ?_
  split
  · rename_i hmark
    exact next_bind hs (Grammar.isEnd_eq_false_of_isPunctuation hmark) fun _ => pure _
  · exact fail (.unexpected _ _ _)

theorem acceptMark (hs : EndsOnce s.toList) (mark : String) :
    LocalAt (Rule.acceptMark mark) s := by
  rw [Rule.acceptMark]
  refine current_bind hs ?_
  split
  · rename_i hmark
    exact next_bind hs (Grammar.isEnd_eq_false_of_isPunctuation hmark) fun _ => pure _
  · exact pure _

end LocalAt

/-! ## Loops -/

/-- What the rule reads is not empty. -/
def Consumes (rule : Rule α) : Prop :=
  ∀ s a r, Ended s.toList → rule s = .done a r → Ended r.toList ∧ r.remaining < s.remaining

theorem Consumes.of_sound {rule : Rule α} (h : ∀ s, Ended s.toList → (rule s).Satisfies
      (fun _ r => r.toList <:+ s.toList ∧ r.toList.length < s.toList.length) AnyError) :
    Consumes rule := by
  intro s a r hs hdone
  have hsound := h s hs
  rw [hdone] at hsound
  exact ⟨hs.of_suffix hsound.1 toList_ne_nil, remaining_lt hsound.2⟩

section Loops

variable {σ : Type} {loop : Nat → σ → Rule β} {body : (σ → Rule β) → σ → Rule β}

/-- The body of a loop starts it again only when it has read a token. -/
def Guarded (body : (σ → Rule β) → σ → Rule β) : Prop :=
  ∀ {g g' : σ → Rule β} {x : σ} {s : TokenStream}, Ended s.toList →
    (∀ y r, Ended r.toList → r.remaining < s.remaining → g y r = g' y r) → body g x s = body g' x s

/-- A loop with fuel for its body. -/
structure IsLoop (loop : Nat → σ → Rule β) (body : (σ → Rule β) → σ → Rule β) : Prop where
  guarded : Guarded body
  step : ∀ fuel x s, loop (fuel + 1) x s = body (loop fuel) x s
  last : ∀ fuel g x s, s.current.isEnd = true → loop fuel x s = body g x s

/-- The loop with as much fuel as there are tokens. -/
def unbounded (loop : Nat → σ → Rule β) (x : σ) : Rule β := fun s => loop s.remaining x s

/-- Any fuel suffices that is as much as there are tokens. -/
theorem IsLoop.fuel (h : IsLoop loop body) : ∀ (fuel fuel' : Nat) (x : σ) (s : TokenStream),
    Ended s.toList → s.remaining ≤ fuel → s.remaining ≤ fuel' → loop fuel x s = loop fuel' x s := by
  intro fuel
  induction fuel with
  | zero =>
    intro fuel' x s hs hle _
    have hend := isEnd_of_remaining_eq_zero hs (by omega)
    rw [h.last 0 (loop 0) x s hend, h.last fuel' (loop 0) x s hend]
  | succ fuel ih =>
    intro fuel' x s hs hle hle'
    cases fuel' with
    | zero =>
      have hend := isEnd_of_remaining_eq_zero hs (by omega)
      rw [h.last (fuel + 1) (loop 0) x s hend, h.last 0 (loop 0) x s hend]
    | succ fuel' =>
      rw [h.step, h.step]
      exact h.guarded hs fun y r hr hlt => ih fuel' y r hr (by omega) (by omega)

theorem IsLoop.unroll (h : IsLoop loop body) {x : σ} {s : TokenStream} (hs : Ended s.toList) :
    unbounded loop x s = body (unbounded loop) x s := by
  rw [unbounded]
  cases hn : s.remaining with
  | zero => exact h.last 0 _ x s (isEnd_of_remaining_eq_zero hs hn)
  | succ n =>
    rw [h.step]
    exact h.guarded hs fun y r hr hlt => h.fuel n _ y r hr (by omega) (Nat.le_refl _)

/-- **A loop looks one token ahead** if its body does, supposing that the loop does later on. -/
theorem IsLoop.localAt (h : IsLoop loop body)
    (hbody : ∀ x s, EndsOnce s.toList → (∀ y r, EndsOnce r.toList → r.remaining < s.remaining →
      LocalAt (unbounded loop y) r) → LocalAt (body (unbounded loop) x) s) :
    ∀ (n : Nat) (x : σ) (s : TokenStream), EndsOnce s.toList → s.remaining < n →
      LocalAt (unbounded loop x) s := by
  intro n
  induction n with
  | zero => intro x s _ hlt; omega
  | succ n ih =>
    intro x s hs hlt
    refine LocalAt.congr hs (fun s' hs' _ => h.unroll hs'.ended) ?_
    exact hbody x s hs fun y r hr hlt' => ih y r hr (by omega)

end Loops

end Rule

/-! ## Expressions -/

namespace Grammar

open TokenStream Outcome Rule

theorem expression_consumes (d : Nat) (least : Int) : Consumes (expression d least) :=
  .of_sound fun s hs => ((expression_sound d).2 least s hs).mono fun _ _ h => h.1.isSuffix

/-- One round of the loop of `climb`. -/
def climbBody (operand : Int → Rule Expr) (least : Int) (g : Expr → Rule Expr) (left : Expr) :
    Rule Expr := do
  match binaryOp? (← current) with
  | none => return left
  | some op =>
    if op.precedence < least then return left
    else
      let _ ← next
      let right ← operand (op.precedence + 1)
      g (.binary op left right)

/-- A round depends on what its operands and the further rounds do later on. -/
theorem climbBody_congr {operand operand' : Int → Rule Expr} {g g' : Expr → Rule Expr}
    {least : Int} {left : Expr} {s : TokenStream} (hconsumes : ∀ k, Consumes (operand' k))
    (hs : Ended s.toList)
    (hoperand : ∀ k r, Ended r.toList → r.remaining < s.remaining → operand k r = operand' k r)
    (hg : ∀ e r, Ended r.toList → r.remaining < s.remaining → g e r = g' e r) :
    climbBody operand least g left s = climbBody operand' least g' left s := by
  rw [climbBody, climbBody, current_bind, current_bind]
  cases hop : binaryOp? s.current with
  | none => rfl
  | some op =>
    obtain ⟨hl, hadv⟩ := read_of_kind hs (kind_of_binaryOp? hop) (by decide)
    have hlen := remaining_eq hl
    simp only [ite_run]
    split
    · rfl
    · rw [next_bind, next_bind]
      refine bind_eq_bind (hoperand _ _ hadv (by omega)) fun right s₁ hdone => ?_
      obtain ⟨hs₁, hlt⟩ := hconsumes _ _ _ _ hadv hdone
      exact hg _ s₁ hs₁ (by omega)

theorem climb_isLoop {operand : Int → Rule Expr} (hoperand : ∀ k, Consumes (operand k))
    (least : Int) : IsLoop (climb operand least) (climbBody operand least) where
  guarded hs hgg' := climbBody_congr hoperand hs (fun _ _ _ _ => rfl) hgg'
  step _ _ _ := rfl
  last fuel g left s hend := by
    have hop : binaryOp? s.current = none := binaryOp?_eq_none (by simp [Token.isEnd_iff.1 hend])
    cases fuel with
    | zero => rw [climbBody, current_bind, hop]; rfl
    | succ fuel => rw [climb, climbBody, current_bind, current_bind, hop]

theorem climb_localAt {operand : Int → Rule Expr} (hconsumes : ∀ k, Consumes (operand k))
    (hoperand : ∀ k s, EndsOnce s.toList → LocalAt (operand k) s) (least : Int) (left : Expr)
    {s : TokenStream} (hs : EndsOnce s.toList) :
    LocalAt (unbounded (climb operand least) left) s := by
  refine (climb_isLoop hconsumes least).localAt ?_ (s.remaining + 1) left s hs (Nat.lt_succ_self _)
  intro left s hs hloop
  rw [climbBody]
  refine LocalAt.current_bind hs ?_
  cases hop : binaryOp? s.current with
  | none => exact LocalAt.pure _
  | some op =>
    have hend := isEnd_eq_false_of_kind (kind_of_binaryOp? hop) (by decide)
    have hlen := remaining_eq (read_of_not_isEnd hs.ended hend).1
    simp only
    split
    · exact LocalAt.pure _
    · refine LocalAt.next_bind hs hend fun hs₁ => ?_
      refine LocalAt.bind hs₁ (hoperand _ _ hs₁) fun right r hdone hr => hloop _ r hr ?_
      have := (hconsumes _ _ _ _ hs₁.ended hdone).2
      omega

theorem number_localAt {s : TokenStream} (hs : EndsOnce s.toList)
    (hkind : s.current.kind = .number) : LocalAt number s := by
  have hend := isEnd_eq_false_of_kind hkind (by decide)
  cases hv : Binary64.ofNumeral? s.current.text with
  | some v =>
    refine LocalAt.next_bind hs hend fun _ => ?_
    rw [hv]
    exact LocalAt.pure _
  | none =>
    refine LocalAt.congr hs (fun s' _ hs' => ?_) (LocalAt.next_fail hs hend .badNumber)
    rw [number, next_bind, next_bind, hs', hv]

/-- **The rules for expressions look one token ahead.** -/
theorem expression_localAt (d : Nat) :
    (∀ s, EndsOnce s.toList → LocalAt (primary d) s) ∧
    ∀ least s, EndsOnce s.toList → LocalAt (expression d least) s := by
  induction d with
  | zero =>
    have hdeep : ∀ s, EndsOnce s.toList → LocalAt (tooDeep : Rule Expr) s := fun s hs =>
      LocalAt.current_bind hs (LocalAt.fail (.tooDeep _ _))
    exact ⟨hdeep, fun _ => hdeep⟩
  | succ d ih =>
    refine ⟨fun s hs => ?_, fun least s hs => ?_⟩
    · rw [primary]
      refine LocalAt.current_bind hs ?_
      split
      · rename_i hkind
        exact number_localAt hs hkind
      split
      · rename_i habs
        refine LocalAt.next_bind hs (isEnd_eq_false_of_isWord habs) fun hs₁ => ?_
        refine LocalAt.bind hs₁ (.expectMark hs₁ _ _) fun _ s₂ _ hs₂ => ?_
        refine LocalAt.bind hs₂ (ih.2 0 s₂ hs₂) fun e s₃ _ hs₃ => ?_
        exact LocalAt.bind hs₃ (.expectMark hs₃ _ _) fun _ _ _ _ => .pure _
      split
      · rename_i hkind
        split
        · exact LocalAt.fail (.unexpected _ _ _)
        · exact LocalAt.next_bind hs (isEnd_eq_false_of_kind hkind (by decide)) fun _ => .pure _
      split
      · rename_i hnot
        refine LocalAt.next_bind hs (isEnd_eq_false_of_isOperator hnot) fun hs₁ => ?_
        exact LocalAt.bind hs₁ (ih.1 _ hs₁) fun _ _ _ _ => .pure _
      split
      · rename_i hneg
        refine LocalAt.next_bind hs (isEnd_eq_false_of_isOperator hneg) fun hs₁ => ?_
        exact LocalAt.bind hs₁ (ih.1 _ hs₁) fun _ _ _ _ => .pure _
      split
      · rename_i hopen
        refine LocalAt.next_bind hs (isEnd_eq_false_of_isPunctuation hopen) fun hs₁ => ?_
        refine LocalAt.bind hs₁ (ih.2 0 _ hs₁) fun e s₂ _ hs₂ => ?_
        exact LocalAt.bind hs₂ (.expectMark hs₂ _ _) fun _ _ _ _ => .pure _
      · exact LocalAt.fail (.unexpected _ _ _)
    · rw [expression]
      refine LocalAt.bind hs (ih.1 s hs) fun left s₁ _ hs₁ => ?_
      exact climb_localAt (expression_consumes d) ih.2 least left hs₁

/-! ## Statements -/

theorem remaining_le_of_acceptMark {mark : String} {s r : TokenStream} {b : Bool}
    (h : acceptMark mark s = .done b r) : r.remaining ≤ s.remaining := by
  rw [acceptMark, current_bind, ite_run] at h
  split at h
  · obtain ⟨-, rfl⟩ : true = b ∧ s.advance = r := by simpa [next_bind] using Outcome.done.inj h
    rw [advance]
    split
    · exact Nat.le_refl _
    · rename_i hu
      simp [remaining, hu]
  · obtain ⟨-, rfl⟩ := Outcome.done.inj h
    exact Nat.le_refl _

theorem statement_consumes (d : Nat) : Consumes (statement d) :=
  .of_sound fun s hs => ((statement_sound d).1 s hs).mono fun _ _ h => h.isSuffix

/-- One round of the loop of `moreStatements`. -/
def moreBody (inner : Rule Stmt) (g : Unit → Rule (List Stmt)) (_ : Unit) : Rule (List Stmt) := do
  if ← acceptMark ";" then
    if startsStatement (← current) then
      let s ← inner
      let rest ← g ()
      return s :: rest
    else return []
  else return []

/-- One round of the loop of `blockStatements`. -/
def blockBody (inner : Rule Stmt) (g : Unit → Rule (List Stmt)) (_ : Unit) :
    Rule (List Stmt) := do
  let t ← current
  if t.isPunctuation "\x7d" then return []
  else if t.isEnd then fail (.unexpected .closeBlock t)
  else
    let s ← inner
    let _ ← acceptMark ";"
    let rest ← g ()
    return s :: rest

section

variable {inner : Rule Stmt} (hconsumes : Consumes inner)

include hconsumes

theorem moreBody_congr {inner' : Rule Stmt} {g g' : Unit → Rule (List Stmt)} {s : TokenStream}
    (hs : Ended s.toList)
    (hinner : ∀ r, Ended r.toList → r.remaining < s.remaining → inner' r = inner r)
    (hg : ∀ u r, Ended r.toList → r.remaining < s.remaining → g u r = g' u r) :
    moreBody inner' g () s = moreBody inner g' () s := by
  rw [moreBody, moreBody, acceptMark_bind, acceptMark_bind]
  split
  · rename_i hsemi
    obtain ⟨hl, hadv⟩ := read_of_kind hs (Token.isPunctuation_iff.1 hsemi).1 (by decide)
    have hlen := remaining_eq hl
    simp only [if_true, current_bind, ite_run]
    split
    · refine bind_eq_bind (hinner _ hadv (by omega)) fun t s₁ hdone => ?_
      obtain ⟨hs₁, hlt⟩ := hconsumes _ _ _ hadv hdone
      exact bind_eq_of_eq (hg () s₁ hs₁ (by omega))
    · rfl
  · rfl

/-- The first statement of a round stands where the round starts. -/
theorem blockBody_congr {inner' : Rule Stmt} {g g' : Unit → Rule (List Stmt)} {s : TokenStream}
    (hs : Ended s.toList) (hinner : inner' s = inner s)
    (hg : ∀ u r, Ended r.toList → r.remaining < s.remaining → g u r = g' u r) :
    blockBody inner' g () s = blockBody inner g' () s := by
  rw [blockBody, blockBody, current_bind, current_bind]
  simp only [ite_run]
  split
  · rfl
  split
  · rfl
  refine bind_eq_bind hinner fun t s₁ hdone => ?_
  obtain ⟨hs₁, hlt⟩ := hconsumes _ _ _ hs hdone
  rw [acceptMark_bind, acceptMark_bind]
  split
  · rename_i hsemi
    obtain ⟨hl, hadv⟩ := read_of_kind hs₁ (Token.isPunctuation_iff.1 hsemi).1 (by decide)
    have hlen := remaining_eq hl
    exact bind_eq_of_eq (hg () _ hadv (by omega))
  · exact bind_eq_of_eq (hg () _ hs₁ hlt)

theorem moreStatements_isLoop :
    IsLoop (fun fuel (_ : Unit) => moreStatements inner fuel) (moreBody inner) where
  guarded hs hgg' := moreBody_congr hconsumes hs (fun _ _ _ => rfl) hgg'
  step _ _ _ := rfl
  last fuel g _ s hend := by
    have hsemi := (endsList_of_isEnd hend).semicolon
    cases fuel with
    | zero => simp only [moreStatements, moreBody, acceptMark_bind, hsemi]; rfl
    | succ fuel => simp only [moreStatements, moreBody, acceptMark_bind, hsemi]; rfl

theorem blockStatements_isLoop :
    IsLoop (fun fuel (_ : Unit) => blockStatements inner (fuel + 1)) (blockBody inner) where
  guarded hs hgg' := blockBody_congr hconsumes hs rfl hgg'
  step _ _ _ := rfl
  last fuel g _ s hend := by
    have hclose : ¬ s.current.isPunctuation "\x7d" = true := by
      simp [Token.isPunctuation, Token.isEnd_iff.1 hend]
    rw [blockStatements, blockBody, current_bind, current_bind]
    simp only [ite_run, if_neg hclose, if_pos hend]

variable (hinner : ∀ s, EndsOnce s.toList → LocalAt inner s)

include hinner

theorem moreStatements_localAt {s : TokenStream} (hs : EndsOnce s.toList) :
    LocalAt (fun s => moreStatements inner s.remaining s) s := by
  refine (moreStatements_isLoop hconsumes).localAt ?_ (s.remaining + 1) () s hs
    (Nat.lt_succ_self _)
  intro _ s hs hloop
  rw [moreBody]
  refine LocalAt.bind hs (.acceptMark hs _) fun b s₁ haccept hs₁ => ?_
  cases b with
  | false => exact LocalAt.pure _
  | true =>
    refine LocalAt.current_bind hs₁ ?_
    split
    · refine LocalAt.bind hs₁ (hinner _ hs₁) fun t s₂ hdone hs₂ => ?_
      refine LocalAt.bind hs₂ (hloop () s₂ hs₂ ?_) fun _ _ _ _ => .pure _
      have hlt := (hconsumes _ _ _ hs₁.ended hdone).2
      have hle := remaining_le_of_acceptMark haccept
      omega
    · exact LocalAt.pure _

theorem blockStatements_localAt {s : TokenStream} (hs : EndsOnce s.toList) :
    LocalAt (fun s => blockStatements inner (s.remaining + 1) s) s := by
  refine (blockStatements_isLoop hconsumes).localAt ?_ (s.remaining + 1) () s hs
    (Nat.lt_succ_self _)
  intro _ s hs hloop
  rw [blockBody]
  refine LocalAt.current_bind hs ?_
  split
  · exact LocalAt.pure _
  split
  · exact LocalAt.fail (.unexpected _ _ _)
  refine LocalAt.bind hs (hinner _ hs) fun t s₁ hdone hs₁ => ?_
  have hlt := (hconsumes _ _ _ hs.ended hdone).2
  refine LocalAt.bind hs₁ (.acceptMark hs₁ _) fun b s₂ haccept hs₂ => ?_
  refine LocalAt.bind hs₂ (hloop () s₂ hs₂ ?_) fun _ _ _ _ => .pure _
  have hle := remaining_le_of_acceptMark haccept
  omega

theorem block_localAt (hsound : ∀ s, Ended s.toList →
      (inner s).Satisfies (fun t r => StatementAt Exhausted s.toList t r.toList) AnyError)
    {s : TokenStream} (hs : EndsOnce s.toList) : LocalAt (block inner) s := by
  rw [block]
  refine LocalAt.bind hs (.expectMark hs _ _) fun _ s₁ _ hs₁ => ?_
  refine LocalAt.bind hs₁ (blockStatements_localAt hconsumes hinner hs₁) fun body r hdone hr => ?_
  have hclose : r.current.isPunctuation "\x7d" = true := by
    have h := blockStatements_sound hsound _ _ hs₁.ended (Nat.lt_succ_self _)
    rw [hdone] at h
    exact h.2
  have hend := isEnd_eq_false_of_isPunctuation hclose
  cases hempty : body.isEmpty with
  | true => exact LocalAt.next_fail hr hend .emptyBlock
  | false => exact LocalAt.next_bind hr hend fun _ => .pure _

end

/-- A conditional does not look at its first word, so at the end of the text it finds no guard. -/
theorem conditional_of_isEnd {guard : Rule Expr} {list : Rule Stmt} {s : TokenStream}
    (hs : EndsOnce s.toList) (hend : s.current.isEnd = true) :
    conditional guard list s = .failed (.unexpected .openAfterIf s.current) s := by
  have hadv : s.advance = s := by
    rw [advance, hs.eq_singleton_of_suffix List.suffix_rfl hend]
  have hopen : s.current.isPunctuation "(" = false := by
    simp [Token.isPunctuation, Token.isEnd_iff.1 hend]
  rw [conditional, next_bind, hadv, expectMark_bind, if_neg (by simp [hopen])]

theorem conditional_localAt {guard : Rule Expr} {list : Rule Stmt}
    (hguard : ∀ s, EndsOnce s.toList → LocalAt guard s)
    (hlist : ∀ s, EndsOnce s.toList → LocalAt list s) {s : TokenStream} (hs : EndsOnce s.toList) :
    LocalAt (conditional guard list) s := by
  by_cases hend : s.current.isEnd = true
  · refine LocalAt.congr hs (fun s' hs' hcurrent => ?_) (.fail (.unexpected .openAfterIf _ _))
    rw [conditional_of_isEnd hs' (hcurrent ▸ hend), hcurrent]
    rfl
  rw [conditional]
  refine LocalAt.next_bind hs (by simpa using hend) fun hs₁ => ?_
  refine LocalAt.bind hs₁ (.expectMark hs₁ _ _) fun _ s₂ _ hs₂ => ?_
  refine LocalAt.bind hs₂ (hguard s₂ hs₂) fun b s₃ _ hs₃ => ?_
  refine LocalAt.bind hs₃ (.expectMark hs₃ _ _) fun _ s₄ _ hs₄ => ?_
  refine LocalAt.bind hs₄ (hlist s₄ hs₄) fun t s₅ _ hs₅ => ?_
  refine LocalAt.current_bind hs₅ ?_
  split
  · rename_i helse
    refine LocalAt.next_bind hs₅ (isEnd_eq_false_of_isWord helse) fun hs₆ => ?_
    exact LocalAt.bind hs₆ (hlist _ hs₆) fun _ _ _ _ => .pure _
  · exact LocalAt.fail (.missingElse _ _)

theorem assignment_localAt (d : Nat) {s : TokenStream} (hs : EndsOnce s.toList) :
    LocalAt (assignment d) s := by
  rw [assignment]
  refine LocalAt.current_bind hs ?_
  split
  · rename_i hx
    refine LocalAt.next_bind hs (isEnd_eq_false_of_kind hx.1 (by decide)) fun hs₁ => ?_
    refine LocalAt.current_bind hs₁ ?_
    split
    · rename_i ha
      refine LocalAt.next_bind hs₁ (isEnd_eq_false_of_isOperator ha) fun hs₂ => ?_
      exact LocalAt.bind hs₂ ((expression_localAt d).2 0 _ hs₂) fun _ _ _ _ => .pure _
    · exact LocalAt.fail (.unexpected _ _ _)
  · exact LocalAt.fail (.unexpected _ _ _)

/-- **The rules for statements look one token ahead.** -/
theorem statement_localAt (d : Nat) :
    (∀ s, EndsOnce s.toList → LocalAt (statement d) s) ∧
    ∀ s, EndsOnce s.toList → LocalAt (statementList d) s := by
  induction d with
  | zero =>
    have hdeep : ∀ s, EndsOnce s.toList → LocalAt (tooDeep : Rule Stmt) s := fun s hs =>
      LocalAt.current_bind hs (LocalAt.fail (.tooDeep _ _))
    exact ⟨hdeep, hdeep⟩
  | succ d ih =>
    refine ⟨fun s hs => ?_, fun s hs => ?_⟩
    · rw [statement]
      refine LocalAt.current_bind hs ?_
      split
      · exact block_localAt (statement_consumes d) ih.1 (statement_sound d).1 hs
      split
      · exact conditional_localAt ((expression_localAt d).2 0) ih.2 hs
      · exact assignment_localAt d hs
    · rw [statementList]
      refine LocalAt.bind hs (ih.1 s hs) fun t s₁ _ hs₁ => ?_
      refine LocalAt.bind hs₁ (moreStatements_localAt (statement_consumes d) ih.1 hs₁) ?_
      exact fun _ _ _ _ => .pure _

end Grammar

end WeakestPre
