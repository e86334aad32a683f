import WeakestPre.Proofs.Construction.Rebuilding
import WeakestPre.Proofs.Expr.Replacement
import WeakestPre.Proofs.Expr.Walk
import WeakestPre.Proofs.Meaning

/-!
# Laws of substitution

**Composition** (`subst_composes`). Two substitutions can be exchanged if the second one is also
made in what the first one puts in, and if it does not bring in the variable of the first one. The
condition cannot be dropped: substitutions for `x` and `y` compose in this way for all expressions
only if what is put in for `y` is free of `x`. Renaming a variable to one that does not occur and
then replacing that one is replacing the variable.

**Conditions** (`conditions_of_subst`). The conditions of an expression are the tests of the
divisors of its divisions, in the order in which the divisions are met when every node comes before
its operands. After a substitution these are the old conditions, substituted themselves, and for
every place where something was put in the conditions of what was put in. The new conditions stand
between the old ones, so this is a matter of how often each condition occurs.

Both operations are walks with a stack, see `walk_substNode` and `walk_conditionsNode`.
-/

namespace WeakestPre

namespace Expr

variable {e r s : Expr} {x y z : String}

/-! ## Composition -/

/-- **Substitutions compose.** -/
theorem subst_subst (hxy : x ≠ y) (hx : x ∉ s.vars) (e r : Expr) :
    (e.subst x r).subst y s = (e.subst y s).subst x (r.subst y s) := by
  have hkept : Function.update Expr.var y s x = .var x := Function.update_of_ne hxy _ _
  have hother : ∀ w ∈ e.vars, w ≠ x → x ∉ (Function.update Expr.var y s w).vars := by
    intro w _ hwx
    by_cases hwy : w = y
    · subst hwy
      simpa using hx
    · simpa [hwy] using Ne.symm hwx
  rw [subst_eq_replace _ y s, subst_eq_replace e y s, subst_eq_replace r y s]
  exact replace_subst hkept hother r

/-- A variable may be renamed before it is replaced. -/
theorem subst_var_subst (hz : z ∉ e.vars) (x : String) (r : Expr) :
    (e.subst x (.var z)).subst z r = e.subst x r := by
  simp only [subst_eq_replace, replace_replace]
  apply replace_congr
  intro w hw
  have hwz : w ≠ z := fun h => hz (h ▸ hw)
  by_cases hwx : w = x
  · subst hwx
    simp [replace]
  · simp [replace, hwx, hwz]

/-- Zero has no variables, so what it is substituted for is gone. -/
theorem notMem_vars_subst_zero (e : Expr) (x : String) : x ∉ (e.subst x zero).vars := by
  simp [mem_vars_subst, zero]

theorem subst_zero_ne (hx : x ∈ e.vars) : e.subst x zero ≠ e := by
  intro h
  have hgone := notMem_vars_subst_zero e x
  rw [h] at hgone
  exact hgone hx

/-- What a node becomes when its operands have been substituted. -/
def substNode (x : String) (r node : Expr) (operands : List Expr) : Expr :=
  match node with
  | .const v => .const v
  | .var y => if y = x then r else .var y
  | .unary op e => .unary op (operands.headD e)
  | .binary op l r => .binary op (operands.getD 0 l) (operands.getD 1 r)

theorem walk_substNode (e : Expr) (x : String) (r : Expr) :
    e.walk (substNode x r) = some (e.subst x r) := by
  apply walk_eq_some (f := fun e => e.subst x r)
  intro e
  cases e <;> rfl

/-! ## Conditions -/

/-- What a division divides by. -/
def divisor? : Expr → Option Expr
  | .binary .div _ r => some r
  | _ => none

theorem divisor?_binary (op : BinaryOp) (l r : Expr) :
    (Expr.binary op l r).divisor? = if op = .div then some r else none := by
  cases op <;> rfl

/-- **The conditions test the divisors in the order of the divisions.** -/
theorem conditions_eq_filterMap (e : Expr) :
    e.conditions = (e.subexpressions.filterMap divisor?).map nonzero := by
  induction e with
  | const v => rfl
  | var x => rfl
  | unary op e ih => rw [conditions, subexpressions, List.filterMap_cons_none rfl, ih]
  | binary op l r ihl ihr =>
    rw [conditions_binary, subexpressions, List.filterMap_cons, divisor?_binary, ihl, ihr]
    by_cases hop : op = .div
    · simp [hop]
    · simp [hop]

/-- The conditions of a node from those of its operands. -/
def conditionsNode (node : Expr) (operands : List (List Expr)) : List Expr :=
  (node.divisor?.map nonzero).toList ++ operands.flatten

theorem walk_conditionsNode (e : Expr) : e.walk conditionsNode = some e.conditions := by
  apply walk_eq_some
  intro e
  cases e with
  | const v => rfl
  | var x => rfl
  | unary op e => simp [conditionsNode, conditions, divisor?, children]
  | binary op l r =>
    by_cases hop : op = .div
    · simp [conditionsNode, conditions_binary, divisor?_binary, children, hop]
    · simp [conditionsNode, conditions_binary, divisor?_binary, children, hop]

/-- The conditions of what is put in, once for every place. -/
def insertedConditions (e : Expr) (x : String) (r : Expr) : List Expr :=
  (List.replicate (e.occurrences.count x) r.conditions).flatten

theorem insertedConditions_binary (op : BinaryOp) (l r : Expr) (x : String) (s : Expr) :
    insertedConditions (.binary op l r) x s =
      insertedConditions l x s ++ insertedConditions r x s := by
  rw [insertedConditions, occurrences, List.count_append, List.replicate_add, List.flatten_append]
  rfl

/-- **Conditions after a substitution.** -/
theorem conditions_subst_perm (e : Expr) (x : String) (s : Expr) :
    (e.subst x s).conditions.Perm
      (e.conditions.map (fun c => c.subst x s) ++ insertedConditions e x s) := by
  induction e with
  | const v => exact .refl _
  | var y =>
    by_cases hy : y = x
    · simp [subst, conditions, insertedConditions, occurrences, hy]
    · simp [subst, conditions, insertedConditions, occurrences, hy]
  | unary op e ih => exact ih
  | binary op l r ihl ihr =>
    rw [subst, conditions_binary, conditions_binary, List.map_append, List.map_append,
      insertedConditions_binary, List.append_assoc]
    have hdivisor : (if op = .div then [nonzero (r.subst x s)] else []) =
        (if op = .div then [nonzero r] else []).map fun c => c.subst x s := by
      by_cases hop : op = .div
      · simp [hop, nonzero, zero, subst]
      · simp [hop]
    rw [hdivisor]
    apply List.Perm.append_left
    -- the conditions put in on the left move behind the old ones on the right
    refine (ihl.append ihr).trans ?_
    rw [List.append_assoc, List.append_assoc]
    exact (List.perm_append_comm_assoc _ _ _).append_left _

end Expr

open WeakestPre.Expr

/-- **Substitution composes**, and under no weaker condition. Substituting by the builders, which
check every node again, gives the same trees. -/
theorem subst_composes :
    (∀ (x y : String) (s : Expr), x ≠ y →
      ((∀ e r : Expr, (e.subst x r).subst y s = (e.subst y s).subst x (r.subst y s)) ↔
        x ∉ s.freeVariables)) ∧
    (∀ (e : Expr) (x : String), e.subst x (.var x) = e) ∧
    (∀ (e : Expr) (z : String), (∀ r, e.subst z r = e) ↔ z ∉ e.freeVariables) ∧
    (∀ (e : Expr) (x z : String), (∀ r, (e.subst x (.var z)).subst z r = e.subst x r) ↔
      z = x ∨ z ∉ e.freeVariables) ∧
    ∀ (e r : Expr) (x : String), e.walk (substNode x r) = some (e.subst x r) ∧
      (Construction.Built (.expr e) → Construction.Built (.expr r) →
        Checked.subst e x r = .ok (e.subst x r) ∧ Construction.Built (.expr (e.subst x r))) := by
  simp only [mem_freeVariables_iff_mem_vars]
  refine ⟨fun x y s hxy => ⟨?_, fun hx => subst_subst hxy hx⟩, Expr.subst_self,
    fun e z => ⟨?_, fun hz => subst_eq_self hz⟩, fun e x z => ⟨?_, ?_⟩, fun e r x => ⟨?_, ?_⟩⟩
  · -- with `y` for the expression and zero for `x`, the two sides are `s` and `s[x := 0]`
    intro hall hx
    have hyx : y ≠ x := Ne.symm hxy
    refine subst_zero_ne hx ?_
    simpa [subst, hyx, zero] using (hall (.var y) zero).symm
  · intro hall hz
    exact subst_zero_ne hz (hall zero)
  · intro hall
    by_cases hzx : z = x
    · exact Or.inl hzx
    · refine Or.inr fun hz => notMem_vars_subst_zero (e.subst x (.var z)) z ?_
      rw [hall zero, mem_vars_subst]
      exact Or.inl ⟨hz, hzx⟩
  · intro h r
    rcases h with rfl | hz
    · rw [Expr.subst_self]
    · exact subst_var_subst hz x r
  · exact walk_substNode e x r
  · intro he hr
    have hsubst : (e.subst x r).WellFormed := he.wellFormed.subst x hr.wellFormed
    exact ⟨Checked.subst_eq he.wellFormed x hr.wellFormed, Construction.built_expr hsubst⟩

/-- Substitutions for both variables of a quotient, of which one puts in the other variable. -/
theorem subst_composes_quotient :
    let e : Expr := .binary .div (.var "x") (.var "y")
    let r : Expr := .binary .add (.var "x") (.var "y")
    let s : Expr := .binary .mul (.var "y") (.var "z")
    "x" ≠ "y" ∧ "x" ∉ s.freeVariables ∧
      (e.subst "x" r).subst "y" s = (e.subst "y" s).subst "x" (r.subst "y" s) ∧
      ¬∀ e s : Expr, (e.subst "y" s).subst "x" r = (e.subst "x" r).subst "y" (s.subst "x" r) := by
  intro e r s
  have hne : "x" ≠ "y" := by decide
  have hx : "x" ∉ s.freeVariables := by decide +kernel
  have hy : "y" ∈ r.freeVariables := by decide +kernel
  refine ⟨hne, hx, (subst_composes.1 "x" "y" s hne).2 hx e r, ?_⟩
  intro hall
  exact (subst_composes.1 "y" "x" r (Ne.symm hne)).1 hall hy

/-- **Conditions commute with substitution**, up to their order. -/
theorem conditions_of_subst :
    (∀ e : Expr, e.conditions = (e.subexpressions.filterMap divisor?).map nonzero ∧
      e.walk conditionsNode = some e.conditions) ∧
    ∀ (e : Expr) (x : String) (r : Expr), (e.subst x r).conditions.Perm
      (e.conditions.map (fun c => c.subst x r) ++
        (List.replicate (e.occurrences.count x) r.conditions).flatten) :=
  ⟨fun e => ⟨conditions_eq_filterMap e, walk_conditionsNode e⟩, conditions_subst_perm⟩

end WeakestPre
