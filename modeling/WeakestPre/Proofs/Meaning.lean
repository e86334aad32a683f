import Mathlib.Logic.Function.Basic
import WeakestPre.Precondition

/-!
# What expressions mean

Formulas are never evaluated by the calculus itself. To say what a derived formula means, we read
expressions over an arbitrary domain of values.

**Interpretations** (`Interpretation`). Constants and operators have any meaning at all, as total
functions, as long as the three logical operators act on truth as their names say. A value is a
zero divisor when it fails the test `v != 0` of the interpretation itself.

**Total reading** (`value`, `truth`). Every operator is applied as it is, division included.

**Partial reading** (`value?`, `truth?`). A division with a zero divisor has no value, and the
logical operators look at their right operand only if the left one does not decide.

**Substitution.** Evaluating `R[x := e]` is evaluating `R` after `x` has become the value of `e`.
In the partial reading this asks that `e` has a value (`value?_subst`).

**Definedness.** The conditions of `e` are the tests of the divisors of all divisions in `e`
(`mem_conditions_iff`). In the partial reading they are all true exactly if every subexpression
has a value, even one that a logical operator would skip (`forall_conditions_truth?_iff`).
-/

namespace WeakestPre

universe u

variable {V : Type u}

/-- The values of all variables. -/
abbrev State (V : Type u) := String → V

/-- The meaning of constants and operators. -/
structure Interpretation (V : Type u) where
  truthy : V → Bool
  const : Binary64 → V
  unary : UnaryOp → V → V
  binary : BinaryOp → V → V → V
  truthy_not : ∀ v, truthy (unary .not v) = !truthy v
  truthy_and : ∀ v w, truthy (binary .and v w) = (truthy v && truthy w)
  truthy_or : ∀ v w, truthy (binary .or v w) = (truthy v || truthy w)

/-! ## Subexpressions and conditions -/

namespace Expr

/-- The expression and all its operands, at any depth. -/
def subexpressions : Expr → List Expr
  | .const v => [.const v]
  | .var x => [.var x]
  | .unary op e => .unary op e :: subexpressions e
  | .binary op l r => .binary op l r :: (subexpressions l ++ subexpressions r)

theorem mem_subexpressions_self (e : Expr) : e ∈ e.subexpressions := by
  cases e <;> exact List.mem_cons_self

theorem conditions_binary (op : BinaryOp) (l r : Expr) :
    (Expr.binary op l r).conditions =
      (if op = .div then [nonzero r] else []) ++ (l.conditions ++ r.conditions) := by
  cases op <;> rfl

/-- **The conditions test the divisors**, of every division and of nothing else. -/
theorem mem_conditions_iff {c e : Expr} :
    c ∈ e.conditions ↔ ∃ l r, .binary .div l r ∈ e.subexpressions ∧ c = nonzero r := by
  induction e with
  | const v => simp [conditions, subexpressions]
  | var x => simp [conditions, subexpressions]
  | unary op e ih => simp [conditions, subexpressions, ih]
  | binary op l r ihl ihr =>
    rw [conditions_binary, List.mem_append, List.mem_append, ihl, ihr]
    simp only [subexpressions, List.mem_cons, List.mem_append, Expr.binary.injEq]
    constructor
    · rintro (hc | ⟨l', r', hmem, rfl⟩ | ⟨l', r', hmem, rfl⟩)
      · by_cases hop : op = .div
        · rw [if_pos hop, List.mem_singleton] at hc
          exact ⟨l, r, Or.inl ⟨hop.symm, rfl, rfl⟩, hc⟩
        · simp [hop] at hc
      · exact ⟨l', r', Or.inr (Or.inl hmem), rfl⟩
      · exact ⟨l', r', Or.inr (Or.inr hmem), rfl⟩
    · rintro ⟨l', r', ⟨rfl, rfl, rfl⟩ | hmem | hmem, rfl⟩
      · exact Or.inl (by simp)
      · exact Or.inr (Or.inl ⟨l', r', hmem, rfl⟩)
      · exact Or.inr (Or.inr ⟨l', r', hmem, rfl⟩)

end Expr

namespace Interpretation

variable (I : Interpretation V)

/-- The test `v != 0`. -/
def isNonzero (v : V) : Bool := I.truthy (I.binary .ne v (I.const Binary64.zero))

/-! ## Total reading -/

def value (s : State V) : Expr → V
  | .const c => I.const c
  | .var x => s x
  | .unary op e => I.unary op (value s e)
  | .binary op l r => I.binary op (value s l) (value s r)

def truth (s : State V) (e : Expr) : Bool := I.truthy (I.value s e)

theorem value_subst (s : State V) (x : String) (e R : Expr) :
    I.value s (R.subst x e) = I.value (Function.update s x (I.value s e)) R := by
  induction R with
  | const c => rfl
  | var y =>
    by_cases hy : y = x
    · subst hy
      simp [Expr.subst, value]
    · simp [Expr.subst, value, hy]
  | unary op R ih => simp only [Expr.subst, value, ih]
  | binary op l r ihl ihr => simp only [Expr.subst, value, ihl, ihr]

@[simp] theorem truth_and (s : State V) (l r : Expr) :
    I.truth s (Expr.and l r) = (I.truth s l && I.truth s r) :=
  I.truthy_and _ _

@[simp] theorem truth_or (s : State V) (l r : Expr) :
    I.truth s (Expr.or l r) = (I.truth s l || I.truth s r) :=
  I.truthy_or _ _

@[simp] theorem truth_not (s : State V) (e : Expr) : I.truth s (Expr.not e) = !I.truth s e :=
  I.truthy_not _

@[simp] theorem truth_nonzero (s : State V) (e : Expr) :
    I.truth s (Expr.nonzero e) = I.isNonzero (I.value s e) := rfl

theorem truth_guarded (s : State V) (cs : List Expr) (R : Expr) :
    I.truth s (Expr.guarded cs R) = true ↔ (∀ c ∈ cs, I.truth s c = true) ∧ I.truth s R = true := by
  induction cs with
  | nil => simp [Expr.guarded]
  | cons c cs ih =>
    have hcons : Expr.guarded (c :: cs) R = Expr.and c (Expr.guarded cs R) := rfl
    rw [hcons, truth_and, Bool.and_eq_true, ih, List.forall_mem_cons, and_assoc]

/-- Some division in the expression has a zero divisor. -/
def dividesByZero (s : State V) (e : Expr) : Bool :=
  e.subexpressions.any fun
    | .binary .div _ r => !I.isNonzero (I.value s r)
    | _ => false

theorem dividesByZero_eq_true_iff {s : State V} {e : Expr} :
    I.dividesByZero s e = true ↔
      ∃ l r, .binary .div l r ∈ e.subexpressions ∧ I.isNonzero (I.value s r) = false := by
  rw [dividesByZero, List.any_eq_true]
  constructor
  · rintro ⟨d, hd, hzero⟩
    split at hzero
    · exact ⟨_, _, hd, by simpa using hzero⟩
    · exact absurd hzero (by simp)
  · rintro ⟨l, r, hd, hzero⟩
    exact ⟨_, hd, by simp [hzero]⟩

/-- **The conditions of an expression rule out its divisions by zero**, and nothing more. -/
theorem forall_conditions_truth_iff {s : State V} {e : Expr} :
    (∀ c ∈ e.conditions, I.truth s c = true) ↔ I.dividesByZero s e = false := by
  rw [← Bool.not_eq_true, dividesByZero_eq_true_iff]
  constructor
  · rintro h ⟨l, r, hd, hzero⟩
    have hc := h (Expr.nonzero r) (Expr.mem_conditions_iff.2 ⟨l, r, hd, rfl⟩)
    rw [truth_nonzero, hzero] at hc
    exact absurd hc (by simp)
  · intro h c hc
    obtain ⟨l, r, hd, rfl⟩ := Expr.mem_conditions_iff.1 hc
    rw [truth_nonzero]
    by_contra hzero
    exact h ⟨l, r, hd, by simpa using hzero⟩

/-! ## Partial reading -/

/-- A binary operator on the value of its left operand. Where that value decides, the right operand
is not looked at and the left one stands in for it, so the result is any value of the right truth
that depends on the left one only. -/
def operate? (op : BinaryOp) (v : V) (right : Option V) : Option V :=
  match op with
  | .div => right.bind fun w => if I.isNonzero w then some (I.binary .div v w) else none
  | .and => if I.truthy v then right.map (I.binary .and v) else some (I.binary .and v v)
  | .or => if I.truthy v then some (I.binary .or v v) else right.map (I.binary .or v)
  | op => right.map (I.binary op v)

def value? (s : State V) : Expr → Option V
  | .const c => some (I.const c)
  | .var x => some (s x)
  | .unary op e => (value? s e).map (I.unary op)
  | .binary op l r => (value? s l).bind fun v => I.operate? op v (value? s r)

def truth? (s : State V) (e : Expr) : Option Bool := (I.value? s e).map I.truthy

/-- **Substitution is assignment**, for a value that exists. -/
theorem value?_subst {s : State V} {x : String} {e : Expr} {v : V} (hv : I.value? s e = some v)
    (R : Expr) : I.value? s (R.subst x e) = I.value? (Function.update s x v) R := by
  induction R with
  | const c => rfl
  | var y =>
    by_cases hy : y = x
    · subst hy
      simp [Expr.subst, value?, hv]
    · simp [Expr.subst, value?, hy]
  | unary op R ih => simp only [Expr.subst, value?, ih]
  | binary op l r ihl ihr => simp only [Expr.subst, value?, ihl, ihr]

theorem truth?_subst {s : State V} {x : String} {e : Expr} {v : V} (hv : I.value? s e = some v)
    (R : Expr) : I.truth? s (R.subst x e) = I.truth? (Function.update s x v) R := by
  rw [truth?, truth?, I.value?_subst hv]

theorem truth?_and (s : State V) (l r : Expr) :
    I.truth? s (Expr.and l r) =
      (I.truth? s l).bind fun b => if b then I.truth? s r else some false := by
  simp only [truth?, Expr.and, value?, operate?]
  cases I.value? s l with
  | none => rfl
  | some v => cases hv : I.truthy v <;> cases I.value? s r <;> simp [hv, I.truthy_and]

theorem truth?_or (s : State V) (l r : Expr) :
    I.truth? s (Expr.or l r) =
      (I.truth? s l).bind fun b => if b then some true else I.truth? s r := by
  simp only [truth?, Expr.or, value?, operate?]
  cases I.value? s l with
  | none => rfl
  | some v => cases hv : I.truthy v <;> cases I.value? s r <;> simp [hv, I.truthy_or]

theorem truth?_not (s : State V) (e : Expr) :
    I.truth? s (Expr.not e) = (I.truth? s e).map fun b => !b := by
  simp only [truth?, Expr.not, value?]
  cases I.value? s e <;> simp [I.truthy_not]

theorem truth?_nonzero (s : State V) (e : Expr) :
    I.truth? s (Expr.nonzero e) = (I.value? s e).map I.isNonzero := by
  simp only [truth?, Expr.nonzero, Expr.zero, value?, operate?]
  cases I.value? s e <;> rfl

theorem truth?_guarded (s : State V) (cs : List Expr) (R : Expr) :
    I.truth? s (Expr.guarded cs R) = some true ↔
      (∀ c ∈ cs, I.truth? s c = some true) ∧ I.truth? s R = some true := by
  induction cs with
  | nil => simp [Expr.guarded]
  | cons c cs ih =>
    have hcons : Expr.guarded (c :: cs) R = Expr.and c (Expr.guarded cs R) := rfl
    rw [hcons, truth?_and, List.forall_mem_cons, and_assoc, ← ih]
    rcases I.truth? s c with _ | _ | _ <;> simp

/-- Every subexpression has a value, even one that the evaluation of the expression skips. -/
def definedThroughout (s : State V) (e : Expr) : Bool :=
  e.subexpressions.all fun d => (I.value? s d).isSome

theorem isSome_value?_of_definedThroughout {s : State V} {e : Expr}
    (h : I.definedThroughout s e = true) : (I.value? s e).isSome = true :=
  List.all_eq_true.1 h e e.mem_subexpressions_self

theorem definedThroughout_unary (s : State V) (op : UnaryOp) (e : Expr) :
    I.definedThroughout s (.unary op e) = true ↔ I.definedThroughout s e = true := by
  simp only [definedThroughout, Expr.subexpressions, List.all_cons, Bool.and_eq_true, value?,
    Option.isSome_map]
  exact ⟨And.right, fun h => ⟨I.isSome_value?_of_definedThroughout h, h⟩⟩

theorem definedThroughout_binary (s : State V) (op : BinaryOp) (l r : Expr) :
    I.definedThroughout s (.binary op l r) = true ↔
      (I.value? s (.binary op l r)).isSome = true ∧
        I.definedThroughout s l = true ∧ I.definedThroughout s r = true := by
  simp only [definedThroughout, Expr.subexpressions, List.all_cons, List.all_append,
    Bool.and_eq_true]

/-- An operator on two values has a value, but for a division by zero. -/
theorem isSome_operate?_iff (op : BinaryOp) (v w : V) :
    (I.operate? op v (some w)).isSome = true ↔ (op = .div → I.isNonzero w = true) := by
  cases op with
  | div => cases hw : I.isNonzero w <;> simp [operate?, hw]
  | and => cases hv : I.truthy v <;> simp [operate?, hv]
  | or => cases hv : I.truthy v <;> simp [operate?, hv]
  | _ => simp [operate?]

/-- **The conditions of an expression are its definedness**, in all its parts. -/
theorem forall_conditions_truth?_iff {s : State V} {e : Expr} :
    (∀ c ∈ e.conditions, I.truth? s c = some true) ↔ I.definedThroughout s e = true := by
  induction e with
  | const c => simp [Expr.conditions, definedThroughout, Expr.subexpressions, value?]
  | var x => simp [Expr.conditions, definedThroughout, Expr.subexpressions, value?]
  | unary op e ih => rw [definedThroughout_unary, ← ih, Expr.conditions]
  | binary op l r ihl ihr =>
    rw [Expr.conditions_binary, List.forall_mem_append, List.forall_mem_append, ihl, ihr,
      definedThroughout_binary]
    refine and_congr_left ?_
    rintro ⟨hl, hr⟩
    obtain ⟨v, hv⟩ := Option.isSome_iff_exists.1 (I.isSome_value?_of_definedThroughout hl)
    obtain ⟨w, hw⟩ := Option.isSome_iff_exists.1 (I.isSome_value?_of_definedThroughout hr)
    have hvalue : I.value? s (.binary op l r) = I.operate? op v (some w) := by
      simp only [value?, hv, hw, Option.bind_some]
    rw [hvalue, isSome_operate?_iff]
    by_cases hop : op = .div
    · simp [hop, truth?_nonzero, hw]
    · simp [hop]

end Interpretation

end WeakestPre
