import WeakestPre.Grammar.Expression
import WeakestPre.Proofs.Grammar.Rule

/-!
# The grammar of expressions

**Layers** (`ExprAt`). The grammar has one layer for each precedence, and primaries are the seventh
layer:

    layer k := layer (k + 1) | layer k operator-of-precedence-k layer (k + 1)
    layer 7 := NUMBER | name | "abs" "(" layer 1 ")" | "!" layer 7 | "-" layer 7 | "(" layer 1 ")"

`ExprAt k s e r` says that `e` is derived from layer `k` at the front of the tokens `s`, and that
`r` is left of them. As the rules are left recursive, operators of one precedence group to the left.

**The rules read the layers.** Whatever the rule for expressions reads with least precedence `k` is
derived from layer `k`, and no operator follows that could have been taken (`expression_sound`).
Conversely, what is derived from layer `k` in front of something that is no such operator is what
the rule reads, unless rules are nested too deeply (`expression_complete`).

The loop of the rule has the left operand as its state. Its invariant is that the operand was
derived from some layer `m` and that no operator of a higher precedence than `m` follows: the next
operator then finds the operand in its own layer. In the other direction a derivation is unwound
along its left edge (`Climbs`), where precedences never increase.
-/

namespace WeakestPre

theorem BinaryOp.precedence_bounds (op : BinaryOp) : 1 ≤ op.precedence ∧ op.precedence ≤ 6 := by
  cases op <;> decide

namespace Grammar

/-! ## Layers -/

/-- The layer that is read with a least precedence. -/
def layer (least : Int) : Nat := (max 1 (min least 7)).toNat

/-- `ExprAt k s e r`: layer `k` derives `e` from the tokens of `s` in front of `r`. -/
inductive ExprAt : Nat → List Token → Expr → List Token → Prop
  | number {t : Token} {v : Binary64} {r : List Token} (ht : t.kind = .number)
      (hv : Binary64.ofNumeral? t.text = some v) : ExprAt 7 (t :: r) (.const v) r
  | name {t : Token} {r : List Token} (ht : t.kind = .identifier)
      (hname : t.text ∉ reservedWords) : ExprAt 7 (t :: r) (.var t.text) r
  | abs {t o c : Token} {s r : List Token} {e : Expr} (ht : t.isWord "abs" = true)
      (ho : o.isPunctuation "(" = true) (he : ExprAt 1 s e (c :: r))
      (hc : c.isPunctuation ")" = true) : ExprAt 7 (t :: o :: s) (.unary .abs e) r
  | not {t : Token} {s r : List Token} {e : Expr} (ht : t.isOperator "!" = true)
      (he : ExprAt 7 s e r) : ExprAt 7 (t :: s) (.unary .not e) r
  | neg {t : Token} {s r : List Token} {e : Expr} (ht : t.isOperator "-" = true)
      (he : ExprAt 7 s e r) : ExprAt 7 (t :: s) (.unary .neg e) r
  | group {o c : Token} {s r : List Token} {e : Expr} (ho : o.isPunctuation "(" = true)
      (he : ExprAt 1 s e (c :: r)) (hc : c.isPunctuation ")" = true) : ExprAt 7 (o :: s) e r
  | tighter {k : Nat} {s r : List Token} {e : Expr} (he : ExprAt (k + 1) s e r) : ExprAt k s e r
  | binary {k : Nat} {s s' r : List Token} {t : Token} {op : BinaryOp} {e e' : Expr}
      (he : ExprAt k s e (t :: s')) (ht : binaryOp? t = some op) (hop : op.precedence = k)
      (he' : ExprAt (k + 1) s' e' r) : ExprAt k s (.binary op e e') r

namespace ExprAt

variable {k m : Nat} {s r : List Token} {e : Expr}

theorem le_seven (h : ExprAt k s e r) : k ≤ 7 := by
  induction h with
  | tighter _ ih => omega
  | @binary _ _ _ _ _ op _ _ _ _ hop _ _ _ =>
    have := op.precedence_bounds
    omega
  | _ => exact Nat.le_refl _

theorem weaken (h : ExprAt m s e r) (hk : k ≤ m) : ExprAt k s e r := by
  obtain ⟨j, rfl⟩ := Nat.exists_eq_add_of_le hk
  induction j with
  | zero => exact h
  | succ j ih => exact ih (.tighter h) (by omega)

/-- A derivation takes at least one token from the front. -/
theorem isSuffix (h : ExprAt k s e r) : r <:+ s ∧ r.length < s.length := by
  induction h with
  | number | name => exact ⟨List.suffix_cons _ _, by simp⟩
  | @abs t o c s r e _ _ _ _ ih =>
    refine ⟨?_, by have := ih.2; simp only [List.length_cons] at *; omega⟩
    exact (List.suffix_cons c r).trans (ih.1.trans ((List.suffix_cons o s).trans
      (List.suffix_cons t _)))
  | not _ _ ih | neg _ _ ih =>
    exact ⟨ih.1.trans (List.suffix_cons _ _), by have := ih.2; simp only [List.length_cons]; omega⟩
  | @group o c s r e _ _ _ ih =>
    refine ⟨?_, by have := ih.2; simp only [List.length_cons] at *; omega⟩
    exact (List.suffix_cons c r).trans (ih.1.trans (List.suffix_cons o s))
  | tighter _ ih => exact ih
  | @binary k s s' r t op e e' _ _ _ _ ih ih' =>
    refine ⟨ih'.1.trans ((List.suffix_cons t s').trans ih.1), ?_⟩
    have := ih.2
    have := ih'.2
    simp only [List.length_cons] at *
    omega

theorem ne_nil (h : ExprAt k s e r) : s ≠ [] := by
  have hlt := h.isSuffix.2
  intro hs
  simp [hs] at hlt

end ExprAt

/-! ## What the rules read is derived -/

/-- What stands in front is no operator of precedence at least `least`. -/
def Stops (least : Int) (r : List Token) : Prop :=
  ∀ t ∈ r.head?, ∀ op, binaryOp? t = some op → op.precedence < least

theorem binaryOp?_eq_none {t : Token} (h : t.kind ≠ .operator) : binaryOp? t = none := if_neg h

theorem kind_of_binaryOp? {t : Token} {op : BinaryOp} (h : binaryOp? t = some op) :
    t.kind = .operator := by
  by_cases hk : t.kind = .operator
  · exact hk
  · simp [binaryOp?_eq_none hk] at h

theorem stops_cons {least : Int} {t : Token} {r : List Token} (h : binaryOp? t = none) :
    Stops least (t :: r) := by
  intro t' ht' op hop
  obtain rfl : t = t' := by simpa using ht'
  simp [h] at hop

theorem stops_punctuation {least : Int} {t : Token} {mark : String} {r : List Token}
    (h : t.isPunctuation mark = true) : Stops least (t :: r) :=
  stops_cons (binaryOp?_eq_none (by simp [(Token.isPunctuation_iff.1 h).1]))

theorem stops_toList {least : Int} {s : TokenStream} :
    Stops least s.toList ↔ ∀ op, binaryOp? s.current = some op → op.precedence < least := by
  simp [Stops, TokenStream.toList]

open TokenStream Rule Outcome

/-- An expression up to its closing parenthesis. -/
theorem closing_sound {α : Type} {guard : Rule Expr} {s : TokenStream} (hs : Ended s.toList)
    (hguard : (guard s).Satisfies (fun e r => ExprAt 1 s.toList e r.toList) AnyError)
    (x : Expectation) {f : Expr → Rule α} {Q : α → TokenStream → Prop}
    (hf : ∀ e r c, c.isPunctuation ")" = true → ExprAt 1 s.toList e (c :: r.toList) →
      Ended r.toList → (f e r).Satisfies Q AnyError) :
    ((do let e ← guard; expectMark ")" x; f e) s).Satisfies Q AnyError := by
  refine hguard.bind fun e s₁ he => ?_
  rw [expectMark_bind]
  split
  · rename_i hc
    have hs₁ := hs.of_suffix he.isSuffix.1 toList_ne_nil
    obtain ⟨hl, hadv⟩ := read_of_kind hs₁ (Token.isPunctuation_iff.1 hc).1 (by decide)
    exact hf e _ _ hc (hl ▸ he) hadv
  · trivial

theorem primary_sound_step {d : Nat}
    (hprimary : ∀ s, Ended s.toList →
      (primary d s).Satisfies (fun e r => ExprAt 7 s.toList e r.toList) AnyError)
    (hexpression : ∀ s, Ended s.toList →
      (expression d 0 s).Satisfies (fun e r => ExprAt 1 s.toList e r.toList) AnyError)
    {s : TokenStream} (hs : Ended s.toList) :
    (primary (d + 1) s).Satisfies (fun e r => ExprAt 7 s.toList e r.toList) AnyError := by
  rw [primary, current_bind]
  simp only [ite_run]
  split
  · rename_i hk
    rw [number, next_bind, (read_of_kind hs hk (by decide)).1]
    cases hv : Binary64.ofNumeral? s.current.text with
    | some v => exact .number hk hv
    | none => trivial
  split
  · rename_i habs
    obtain ⟨hl, hadv⟩ := read_of_kind hs (Token.isWord_iff.1 habs).1 (by decide)
    rw [next_bind, expectMark_bind]
    split
    · rename_i hopen
      obtain ⟨hl', hadv'⟩ := read_of_kind hadv (Token.isPunctuation_iff.1 hopen).1 (by decide)
      refine closing_sound hadv' (hexpression _ hadv') _ fun e r c hc he _ => ?_
      rw [hl, hl']
      exact .abs habs hopen he hc
    · trivial
  split
  · rename_i hk
    split
    · trivial
    · rename_i hname
      rw [next_bind, (read_of_kind hs hk (by decide)).1]
      exact .name hk (by simpa using hname)
  split
  · rename_i hnot
    obtain ⟨hl, hadv⟩ := read_of_kind hs (Token.isOperator_iff.1 hnot).1 (by decide)
    rw [next_bind, hl]
    exact (hprimary _ hadv).bind fun e r he => .not hnot he
  split
  · rename_i hneg
    obtain ⟨hl, hadv⟩ := read_of_kind hs (Token.isOperator_iff.1 hneg).1 (by decide)
    rw [next_bind, hl]
    exact (hprimary _ hadv).bind fun e r he => .neg hneg he
  split
  · rename_i hopen
    obtain ⟨hl, hadv⟩ := read_of_kind hs (Token.isPunctuation_iff.1 hopen).1 (by decide)
    rw [next_bind]
    refine closing_sound hadv (hexpression _ hadv) _ fun e r c hc he _ => ?_
    rw [hl]
    exact .group hopen he hc
  · trivial

/-- The loop of the rule: its left operand comes from a layer `m` above which nothing follows. -/
theorem climb_sound {operand : Int → Rule Expr} {least : Int} {start : List Token}
    (hoperand : ∀ k s, Ended s.toList → (operand k s).Satisfies
      (fun e r => ExprAt (layer k) s.toList e r.toList ∧ Stops k r.toList) AnyError) :
    ∀ (fuel m : Nat) (left : Expr) (s : TokenStream), Ended s.toList → s.remaining ≤ fuel →
      layer least ≤ m → ExprAt m start left s.toList → Stops (m + 1) s.toList →
      (climb operand least fuel left s).Satisfies
        (fun e r => ExprAt (layer least) start e r.toList ∧ Stops least r.toList) AnyError := by
  intro fuel
  induction fuel with
  | zero =>
    intro m left s hs hfuel hm hleft _
    -- no fuel is left at the last token, which is no operator
    have hend := isEnd_of_remaining_eq_zero hs (by omega)
    refine ⟨hleft.weaken hm, stops_cons (binaryOp?_eq_none ?_)⟩
    simp [Token.isEnd_iff.1 hend]
  | succ fuel ih =>
    intro m left s hs hfuel hm hleft hstop
    rw [climb, current_bind]
    cases hop : binaryOp? s.current with
    | none => exact ⟨hleft.weaken hm, stops_cons hop⟩
    | some op =>
      have hbounds := op.precedence_bounds
      have hle := stops_toList.1 hstop op hop
      simp only [ite_run]
      split
      · rename_i hlt
        refine ⟨hleft.weaken hm, stops_toList.2 fun op' hop' => ?_⟩
        obtain rfl : op = op' := by simpa [hop] using hop'
        exact hlt
      · rename_i hge
        obtain ⟨hl, hadv⟩ := read_of_kind hs (kind_of_binaryOp? hop) (by decide)
        have hlayer : layer (op.precedence + 1) = op.precedence + 1 := by
          simp only [layer]
          omega
        rw [next_bind]
        refine (hoperand _ _ hadv).bind ?_
        rintro right s₂ ⟨hright, hstop₂⟩
        have hsuffix := hright.isSuffix
        -- the operand is found in the layer of its operator
        have hleft' : ExprAt op.precedence start left (s.current :: s.advance.toList) :=
          hl ▸ hleft.weaken (by omega)
        refine ih op.precedence _ s₂ (hadv.of_suffix hsuffix.1 toList_ne_nil) ?_ ?_
          (.binary hleft' hop rfl (hlayer ▸ hright)) hstop₂
        · have := remaining_eq hl
          have := remaining_lt hsuffix.2
          omega
        · simp only [layer]
          omega

/-- **What is read as an expression is derived from its layer**, up to where no operator can go
on. -/
theorem expression_sound (d : Nat) :
    (∀ s, Ended s.toList →
      (primary d s).Satisfies (fun e r => ExprAt 7 s.toList e r.toList) AnyError) ∧
    ∀ least s, Ended s.toList → (expression d least s).Satisfies
      (fun e r => ExprAt (layer least) s.toList e r.toList ∧ Stops least r.toList) AnyError := by
  induction d with
  | zero => exact ⟨fun _ _ => trivial, fun _ _ _ => trivial⟩
  | succ d ih =>
    have hexpression := fun s hs => (ih.2 0 s hs).mono fun _ _ h => h.1
    refine ⟨fun _ hs => primary_sound_step ih.1 hexpression hs, fun least s hs => ?_⟩
    rw [expression]
    refine (ih.1 s hs).bind fun left s₁ hleft => ?_
    refine climb_sound ih.2 _ 7 left s₁ (hs.of_suffix hleft.isSuffix.1 toList_ne_nil)
      (Nat.le_refl _) ?_ hleft (stops_toList.2 fun op _ => ?_)
    · simp only [layer]
      omega
    · have := op.precedence_bounds
      omega

/-! ## What is derived is read -/

/-- `Climbs k m e s e' r`: from the left operand `e`, operators of precedence at least `k` lead to
`e'`. The first one has precedence at most `m`, and precedences never increase. -/
inductive Climbs (k : Nat) : Nat → Expr → List Token → Expr → List Token → Prop
  | stop {m : Nat} {e : Expr} {s : List Token} : Climbs k m e s e s
  | step {m : Nat} {t : Token} {op : BinaryOp} {e e' e'' : Expr} {s s' r : List Token}
      (ht : binaryOp? t = some op) (hk : k ≤ op.precedence) (hm : op.precedence ≤ m)
      (he' : ExprAt (op.precedence + 1) s e' s')
      (hrest : Climbs k op.precedence (.binary op e e') s' e'' r) : Climbs k m e (t :: s) e'' r

namespace Climbs

variable {k m : Nat} {e e' : Expr} {s r : List Token}

theorem weaken {j : Nat} (h : Climbs k m e s e' r) (hj : j ≤ k) : Climbs j m e s e' r := by
  induction h with
  | stop => exact .stop
  | step ht hk hm he' _ ih => exact .step ht (by omega) hm he' ih

/-- One more operator, of the least precedence there is. -/
theorem snoc {t : Token} {op : BinaryOp} {e₂ : Expr} {s' : List Token}
    (h : Climbs k m e s e' (t :: s')) (hm : k ≤ m) (ht : binaryOp? t = some op)
    (hop : op.precedence = k) (he₂ : ExprAt (k + 1) s' e₂ r) :
    Climbs k m e s (.binary op e' e₂) r := by
  generalize hmid : t :: s' = mid at h
  induction h with
  | stop =>
    subst hmid hop
    exact .step ht (Nat.le_refl _) hm he₂ .stop
  | step ht' hk' hm' he' _ ih => exact .step ht' hk' hm' he' (ih hk' hmid)

theorem ne_nil (h : Climbs k m e s e' r) (hr : r ≠ []) : s ≠ [] := by
  cases h with
  | stop => exact hr
  | step => exact List.cons_ne_nil _ _

theorem stops {least : Int} (h : Climbs k m e s e' r) (hk : k = layer least) (hm : k ≤ m)
    (hr : Stops least r) : Stops (m + 1) s := by
  cases h with
  | stop =>
    intro t ht op hop
    have hlt := hr t ht op hop
    have hbounds := op.precedence_bounds
    simp only [layer] at hk
    omega
  | step ht _ hm' _ _ =>
    intro t' ht' op' hop'
    obtain rfl := Option.some.inj ht'
    obtain rfl := Option.some.inj (ht.symm.trans hop')
    omega

end Climbs

/-- **A derivation climbs from a primary along its left edge.** -/
theorem ExprAt.climbs {k : Nat} {s r : List Token} {e : Expr} (h : ExprAt k s e r) :
    ∃ e₀ s₀, ExprAt 7 s e₀ s₀ ∧ Climbs k 7 e₀ s₀ e r := by
  induction h with
  | number ht hv => exact ⟨_, _, .number ht hv, .stop⟩
  | name ht hname => exact ⟨_, _, .name ht hname, .stop⟩
  | abs ht ho he hc => exact ⟨_, _, .abs ht ho he hc, .stop⟩
  | not ht he => exact ⟨_, _, .not ht he, .stop⟩
  | neg ht he => exact ⟨_, _, .neg ht he, .stop⟩
  | group ho he hc => exact ⟨_, _, .group ho he hc, .stop⟩
  | tighter _ ih =>
    obtain ⟨e₀, s₀, h₀, hclimbs⟩ := ih
    exact ⟨e₀, s₀, h₀, hclimbs.weaken (Nat.le_succ _)⟩
  | binary he ht hop he' ih _ =>
    obtain ⟨e₀, s₀, h₀, hclimbs⟩ := ih
    exact ⟨e₀, s₀, h₀, hclimbs.snoc he.le_seven ht hop he'⟩

/-- The rule reads exactly `e` and leaves exactly `r`, unless rules are nested too deeply. -/
def Reads {α : Type} (a : α) (r : List Token) (o : Outcome α) : Prop :=
  o.Satisfies (fun a' r' => a' = a ∧ r'.toList = r) TooDeep

theorem Reads.bind {α β : Type} {rule : Rule α} {f : α → Rule β} {s : TokenStream} {a : α}
    {r : List Token} {Q : β → TokenStream → Prop} (h : Reads a r (rule s))
    (hf : ∀ s', s'.toList = r → (f a s').Satisfies Q TooDeep) :
    ((rule >>= f) s).Satisfies Q TooDeep := by
  refine Satisfies.bind h ?_
  rintro _ s' ⟨rfl, hs'⟩
  exact hf s' hs'

theorem closing_complete {α : Type} {guard : Rule Expr} {s : TokenStream} {e : Expr} {c : Token}
    {r : List Token} (hguard : Reads e (c :: r) (guard s)) (hc : c.isPunctuation ")" = true)
    (hr : r ≠ []) (x : Expectation) {f : Expr → Rule α} {Q : α → TokenStream → Prop}
    (hf : ∀ s', s'.toList = r → (f e s').Satisfies Q TooDeep) :
    ((do let e ← guard; expectMark ")" x; f e) s).Satisfies Q TooDeep := by
  refine hguard.bind fun s₁ hs₁ => ?_
  obtain ⟨hcur, hadv⟩ := read_cons hs₁ hr
  rw [expectMark_bind, hcur, if_pos hc]
  exact hf _ hadv

theorem climb_complete {operand : Int → Rule Expr} {least : Int}
    (hoperand : ∀ j s e r, ExprAt (layer j) s.toList e r → r ≠ [] → Stops j r →
      Reads e r (operand j s))
    {k m : Nat} {e e' : Expr} {l r : List Token} (h : Climbs k m e l e' r)
    (hk : k = layer least) (hr : r ≠ []) (hstop : Stops least r) :
    ∀ (fuel : Nat) (s : TokenStream), s.toList = l → s.remaining ≤ fuel →
      Reads e' r (climb operand least fuel e s) := by
  induction h with
  | stop =>
    intro fuel s hs _
    cases fuel with
    | zero => exact ⟨rfl, hs⟩
    | succ fuel =>
      rw [climb, current_bind]
      cases hop : binaryOp? s.current with
      | none => exact ⟨rfl, hs⟩
      | some op =>
        have hlt := stops_toList.1 (hs ▸ hstop) op hop
        simp only [ite_run, if_pos hlt]
        exact ⟨rfl, hs⟩
  | @step m t op e e₁ e₂ s₁ s₂ r ht hkop hm he₁ hrest ih =>
    intro fuel s hs hfuel
    obtain ⟨hcur, hadv⟩ := read_cons hs he₁.ne_nil
    have hlen := congrArg List.length hs
    have hsuffix := he₁.isSuffix
    cases fuel with
    | zero =>
      have := List.length_pos_iff.2 he₁.ne_nil
      simp only [length_toList, List.length_cons] at hlen
      omega
    | succ fuel =>
      have hbounds := op.precedence_bounds
      have hlayer : layer (op.precedence + 1) = op.precedence + 1 := by
        simp only [layer]
        omega
      have hge : ¬ (op.precedence : Int) < least := by
        simp only [layer] at hk
        omega
      rw [climb, current_bind, hcur, ht]
      simp only [ite_run, if_neg hge]
      have hreads := hoperand (op.precedence + 1) s.advance e₁ s₂ (by rw [hlayer, hadv]; exact he₁)
        (hrest.ne_nil hr) (hrest.stops hk hkop hstop)
      rw [next_bind]
      refine hreads.bind fun s' hs' => ih hr hstop fuel s' hs' ?_
      have hlen' := congrArg List.length hs'
      simp only [length_toList, List.length_cons] at hlen hlen'
      omega

theorem primary_complete_step {d : Nat}
    (hprimary : ∀ s e r, ExprAt 7 s.toList e r → r ≠ [] → Reads e r (primary d s))
    (hexpression : ∀ s e r, ExprAt 1 s.toList e r → r ≠ [] → Stops 0 r →
      Reads e r (expression d 0 s))
    {s : TokenStream} {e : Expr} {r : List Token} (h : ExprAt 7 s.toList e r) (hr : r ≠ []) :
    Reads e r (primary (d + 1) s) := by
  generalize hl : s.toList = l at h
  rw [primary, current_bind]
  simp only [ite_run]
  cases h with
  | number ht hv =>
    obtain ⟨rfl, hadv⟩ := read_cons hl hr
    rw [if_pos ht, number, next_bind, hv]
    exact ⟨rfl, hadv⟩
  | name ht hname =>
    obtain ⟨rfl, hadv⟩ := read_cons hl hr
    have habs : s.current.isWord "abs" = false := by
      cases habs : s.current.isWord "abs" with
      | false => rfl
      | true => simp [(Token.isWord_iff.1 habs).2, reservedWords] at hname
    rw [if_neg (by simp [ht]), if_neg (by simp [habs]), if_pos ht, if_neg (by simpa using hname)]
    exact ⟨rfl, hadv⟩
  | abs ht ho he hc =>
    obtain ⟨rfl, hadv⟩ := read_cons hl (List.cons_ne_nil _ _)
    obtain ⟨hcur, hadv'⟩ := read_cons hadv he.ne_nil
    rw [if_neg (by simp [(Token.isWord_iff.1 ht).1]), if_pos ht, next_bind, expectMark_bind, hcur,
      if_pos ho]
    exact closing_complete (hexpression _ _ _ (hadv' ▸ he) (List.cons_ne_nil _ _)
      (stops_punctuation hc)) hc hr _ fun s' hs' => ⟨rfl, hs'⟩
  | not ht he =>
    obtain ⟨rfl, hadv⟩ := read_cons hl he.ne_nil
    obtain ⟨hkind, -⟩ := Token.isOperator_iff.1 ht
    rw [if_neg (by simp [hkind]), if_neg (by simp [Token.isWord, hkind]), if_neg (by simp [hkind]),
      if_pos ht, next_bind]
    exact (hprimary _ _ _ (hadv ▸ he) hr).bind fun s' hs' => ⟨rfl, hs'⟩
  | neg ht he =>
    obtain ⟨rfl, hadv⟩ := read_cons hl he.ne_nil
    obtain ⟨hkind, htext⟩ := Token.isOperator_iff.1 ht
    rw [if_neg (by simp [hkind]), if_neg (by simp [Token.isWord, hkind]), if_neg (by simp [hkind]),
      if_neg (by simp [Token.isOperator, htext]), if_pos ht, next_bind]
    exact (hprimary _ _ _ (hadv ▸ he) hr).bind fun s' hs' => ⟨rfl, hs'⟩
  | group ho he hc =>
    obtain ⟨rfl, hadv⟩ := read_cons hl he.ne_nil
    obtain ⟨hkind, -⟩ := Token.isPunctuation_iff.1 ho
    rw [if_neg (by simp [hkind]), if_neg (by simp [Token.isWord, hkind]), if_neg (by simp [hkind]),
      if_neg (by simp [Token.isOperator, hkind]), if_neg (by simp [Token.isOperator, hkind]),
      if_pos ho, next_bind]
    exact closing_complete (hexpression _ _ _ (hadv ▸ he) (List.cons_ne_nil _ _)
      (stops_punctuation hc)) hc hr _ fun s' hs' => ⟨rfl, hs'⟩
  | tighter he => exact absurd he.le_seven (by omega)
  | @binary _ _ _ _ _ op _ _ _ _ hop _ =>
    have := op.precedence_bounds
    omega

/-- **What is derived from a layer is read as it is**, in front of anything that cannot go on with
an operator. -/
theorem expression_complete (d : Nat) :
    (∀ s e r, ExprAt 7 s.toList e r → r ≠ [] → Reads e r (primary d s)) ∧
    ∀ least s e r, ExprAt (layer least) s.toList e r → r ≠ [] → Stops least r →
      Reads e r (expression d least s) := by
  induction d with
  | zero => exact ⟨fun _ _ _ _ _ => ⟨_, rfl⟩, fun _ _ _ _ _ _ _ => ⟨_, rfl⟩⟩
  | succ d ih =>
    refine ⟨fun s e r h hr => primary_complete_step ih.1 (ih.2 0) h hr,
      fun least s e r h hr hstop => ?_⟩
    obtain ⟨e₀, s₀, h₀, hclimbs⟩ := h.climbs
    rw [expression]
    refine (ih.1 s e₀ s₀ h₀ (hclimbs.ne_nil hr)).bind fun s₁ hs₁ => ?_
    exact climb_complete ih.2 hclimbs rfl hr hstop _ s₁ hs₁ (Nat.le_refl _)

end Grammar

end WeakestPre
