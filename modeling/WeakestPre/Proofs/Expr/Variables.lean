import Mathlib.Data.Finset.Basic
import Mathlib.Data.Finset.Dedup
import WeakestPre.Expr.Walk
import WeakestPre.Precondition

/-!
# The variables of an expression

Free variables are collected with a stack of expressions, into a list in increasing order.

**Occurrences** (`freeVariables_eq_foldr`). The list depends on the occurrences of variables alone.
It is strictly increasing (`pairwise_freeVariables`) and has the variables that occur
(`mem_freeVariables`), so as a set it is `vars`.

**The rules.** Substituting for `x` takes `x` away and brings the variables of the replacement,
provided that `x` occurs at all (`mem_vars_subst`). The conditions of an expression bring no
variables of their own (`vars_subset_of_mem_conditions`), and the formulas that the rules for
statements put together have the variables of their parts.
-/

namespace WeakestPre.Expr

variable {e : Expr} {x y : String}

/-! ## Free variables -/

/-- The stack is worked off from the right end of each expression. -/
theorem collectNames_eq_foldl (stack : List Expr) (names : List String) :
    collectNames stack names =
      (stack.flatMap fun e => e.occurrences.reverse).foldl (fun ns x => insertName x ns) names := by
  fun_induction collectNames stack names with
  | case1 names => rfl
  | case2 names v rest ih => rw [ih, List.flatMap_cons]; rfl
  | case3 names x rest ih => rw [ih, List.flatMap_cons]; rfl
  | case4 names op e rest ih => rw [ih, List.flatMap_cons, List.flatMap_cons]; rfl
  | case5 names op l r rest ih =>
    rw [ih, List.flatMap_cons, List.flatMap_cons, List.flatMap_cons, occurrences,
      List.reverse_append, List.append_assoc]

/-- **Free variables depend on the occurrences of variables alone.** -/
theorem freeVariables_eq_foldr (e : Expr) :
    e.freeVariables = e.occurrences.foldr insertName [] := by
  rw [freeVariables, collectNames_eq_foldl, List.flatMap_singleton, List.foldl_reverse]

theorem mem_insertName {names : List String} : y ∈ insertName x names ↔ y = x ∨ y ∈ names := by
  induction names with
  | nil => simp [insertName]
  | cons z names ih =>
    rw [insertName]
    by_cases hxz : x = z
    · simp [hxz]
    · by_cases hlt : x < z
      · simp [hxz, hlt]
      · simp only [hxz, hlt, if_false, List.mem_cons, ih]
        exact or_left_comm

theorem pairwise_insertName {names : List String} (h : names.Pairwise (· < ·)) (x : String) :
    (insertName x names).Pairwise (· < ·) := by
  induction names with
  | nil => simp [insertName]
  | cons z names ih =>
    obtain ⟨hz, hnames⟩ := List.pairwise_cons.1 h
    rw [insertName]
    by_cases hxz : x = z
    · rw [if_pos hxz]
      exact h
    · rw [if_neg hxz]
      by_cases hlt : x < z
      · rw [if_pos hlt, List.pairwise_cons, List.forall_mem_cons]
        exact ⟨⟨hlt, fun y hy => String.lt_trans hlt (hz y hy)⟩, h⟩
      · rw [if_neg hlt, List.pairwise_cons]
        refine ⟨fun y hy => ?_, ih hnames⟩
        rcases mem_insertName.1 hy with rfl | hy
        · -- of two different names one is the smaller
          refine String.not_le.1 fun hle => ?_
          exact hxz (String.le_antisymm hle (String.not_lt.1 hlt))
        · exact hz y hy

theorem mem_freeVariables : x ∈ e.freeVariables ↔ x ∈ e.occurrences := by
  rw [freeVariables_eq_foldr]
  induction e.occurrences with
  | nil => simp
  | cons y names ih => rw [List.foldr_cons, mem_insertName, ih, List.mem_cons]

theorem pairwise_freeVariables (e : Expr) : e.freeVariables.Pairwise (· < ·) := by
  rw [freeVariables_eq_foldr]
  induction e.occurrences with
  | nil => exact List.Pairwise.nil
  | cons y names ih => exact pairwise_insertName ih y

theorem nodup_freeVariables (e : Expr) : e.freeVariables.Nodup := by
  refine (pairwise_freeVariables e).imp ?_
  rintro x _ hlt rfl
  exact String.lt_irrefl x hlt

/-! ## Variables as a set -/

/-- The variables that occur in an expression. -/
def vars (e : Expr) : Finset String := e.occurrences.toFinset

theorem mem_vars : x ∈ e.vars ↔ x ∈ e.occurrences := List.mem_toFinset

theorem mem_freeVariables_iff_mem_vars : x ∈ e.freeVariables ↔ x ∈ e.vars := by
  rw [mem_freeVariables, mem_vars]

theorem toFinset_freeVariables (e : Expr) : e.freeVariables.toFinset = e.vars := by
  ext x
  rw [List.mem_toFinset, mem_freeVariables_iff_mem_vars]

@[simp] theorem vars_const (v : Binary64) : (Expr.const v).vars = ∅ := rfl

@[simp] theorem vars_var (x : String) : (Expr.var x).vars = {x} := rfl

@[simp] theorem vars_unary (op : UnaryOp) (e : Expr) : (Expr.unary op e).vars = e.vars := rfl

@[simp] theorem vars_binary (op : BinaryOp) (l r : Expr) :
    (Expr.binary op l r).vars = l.vars ∪ r.vars := by
  ext x
  simp only [mem_vars, occurrences, List.mem_append, Finset.mem_union]

/-! ## Variables and the rules -/

/-- **Substitution exchanges variables.** -/
theorem mem_vars_subst {r : Expr} :
    y ∈ (e.subst x r).vars ↔ (y ∈ e.vars ∧ y ≠ x) ∨ (x ∈ e.vars ∧ y ∈ r.vars) := by
  induction e with
  | const v => simp [subst]
  | var z =>
    by_cases hz : z = x
    · subst hz
      simp [subst]
    · have hx : x ≠ z := Ne.symm hz
      simp only [subst, hz, hx, if_false, vars_var, Finset.mem_singleton, false_and, or_false]
      constructor
      · rintro rfl
        exact ⟨rfl, hz⟩
      · exact And.left
  | unary op e ih => exact ih
  | binary op l r ihl ihr =>
    simp only [subst, vars_binary, Finset.mem_union, ihl, ihr, or_and_right]
    exact or_or_or_comm

theorem vars_nonzero (e : Expr) : e.nonzero.vars = e.vars := by
  simp [nonzero, zero]

/-- **Conditions bring no variables of their own.** -/
theorem vars_subset_of_mem_conditions {c : Expr} (h : c ∈ e.conditions) : c.vars ⊆ e.vars := by
  induction e with
  | const v => simp [conditions] at h
  | var x => simp [conditions] at h
  | unary op e ih => exact ih h
  | binary op l r ihl ihr =>
    rw [vars_binary]
    have hoperands (h : c ∈ l.conditions ++ r.conditions) : c.vars ⊆ l.vars ∪ r.vars := by
      rcases List.mem_append.1 h with h | h
      · exact (ihl h).trans Finset.subset_union_left
      · exact (ihr h).trans Finset.subset_union_right
    cases op with
    | div =>
      rcases List.mem_cons.1 h with rfl | h
      · rw [vars_nonzero]
        exact Finset.subset_union_right
      · exact hoperands h
    | add | sub | mul | eq | ne | gt | ge | lt | le | and | or => exact hoperands h

theorem mem_vars_guarded {conditions : List Expr} :
    x ∈ (guarded conditions e).vars ↔ (∃ c ∈ conditions, x ∈ c.vars) ∨ x ∈ e.vars := by
  induction conditions with
  | nil => simp [guarded]
  | cons c conditions ih =>
    have hcons : guarded (c :: conditions) e = Expr.and c (guarded conditions e) := rfl
    rw [hcons, Expr.and, vars_binary, Finset.mem_union, ih, List.exists_mem_cons_iff, or_assoc]

theorem vars_choice (b s t : Expr) : (choice b s t).vars = b.vars ∪ (s.vars ∪ t.vars) := by
  ext x
  simp only [choice, Expr.or, Expr.and, Expr.not, vars_binary, vars_unary, Finset.mem_union]
  tauto

end WeakestPre.Expr
