import Mathlib.Logic.Function.Basic
import WeakestPre.Proofs.Expr.Variables

/-!
# Replacing all variables at once

A replacement `σ` gives an expression for every variable, and `e.replace σ` puts them all in at
once. Substitution for one variable is such a replacement (`subst_eq_replace`), and renaming is
another.

**Composition** (`replace_replace`). Two replacements one after the other are a single one. Laws
about two substitutions then come down to comparing two replacements variable by variable
(`replace_congr`), without another induction.

**Past a substitution** (`replace_subst`). A replacement can be moved past `R[x := e]` if it keeps
`x` a variable, under whatever name, and brings that name in for no other variable of `R`.

**Conditions** (`conditions_replace`). A replacement by expressions without divisions is moved past
the conditions of an expression.
-/

namespace WeakestPre.Expr

/-- `e` with `σ x` for every variable `x`. -/
def replace (σ : String → Expr) : Expr → Expr
  | .const v => .const v
  | .var x => σ x
  | .unary op e => .unary op (replace σ e)
  | .binary op l r => .binary op (replace σ l) (replace σ r)

variable {σ τ : String → Expr} {e : Expr} {x : String}

/-- Only the variables of the expression count. -/
theorem replace_congr (h : ∀ x ∈ e.vars, σ x = τ x) : e.replace σ = e.replace τ := by
  induction e with
  | const v => rfl
  | var x => exact h x (Finset.mem_singleton_self x)
  | unary op e ih => simp only [replace, ih h]
  | binary op l r ihl ihr =>
    rw [vars_binary] at h
    have hl := ihl fun x hx => h x (Finset.mem_union_left _ hx)
    have hr := ihr fun x hx => h x (Finset.mem_union_right _ hx)
    simp only [replace, hl, hr]

theorem replace_var (e : Expr) : e.replace .var = e := by
  induction e with
  | const v => rfl
  | var x => rfl
  | unary op e ih => rw [replace, ih]
  | binary op l r ihl ihr => rw [replace, ihl, ihr]

theorem replace_replace (σ τ : String → Expr) (e : Expr) :
    (e.replace σ).replace τ = e.replace fun x => (σ x).replace τ := by
  induction e with
  | const v => rfl
  | var x => rfl
  | unary op e ih => simp only [replace, ih]
  | binary op l r ihl ihr => simp only [replace, ihl, ihr]

theorem mem_vars_replace : x ∈ (e.replace σ).vars ↔ ∃ y ∈ e.vars, x ∈ (σ y).vars := by
  induction e with
  | const v => simp [replace]
  | var y => simp [replace]
  | unary op e ih => exact ih
  | binary op l r ihl ihr =>
    simp only [replace, vars_binary, Finset.mem_union, ihl, ihr, or_and_right, exists_or]

/-! ## Substitution -/

theorem subst_eq_replace (e : Expr) (x : String) (r : Expr) :
    e.subst x r = e.replace (Function.update .var x r) := by
  induction e with
  | const v => rfl
  | var y =>
    by_cases hy : y = x
    · subst hy
      simp [subst, replace]
    · simp [subst, replace, hy]
  | unary op e ih => rw [subst, replace, ih]
  | binary op l r ihl ihr => rw [subst, replace, ihl, ihr]

theorem subst_self (e : Expr) (x : String) : e.subst x (.var x) = e := by
  rw [subst_eq_replace, Function.update_eq_self, replace_var]

theorem subst_eq_self (h : x ∉ e.vars) (r : Expr) : e.subst x r = e := by
  have hvar : ∀ y ∈ e.vars, Function.update Expr.var x r y = .var y := by
    intro y hy
    have hyx : y ≠ x := by
      rintro rfl
      exact h hy
    exact Function.update_of_ne hyx _ _
  rw [subst_eq_replace, replace_congr hvar, replace_var]

/-- **A replacement is moved past a substitution.** -/
theorem replace_subst {R : Expr} {x' : String} (hx : σ x = .var x')
    (hother : ∀ y ∈ R.vars, y ≠ x → x' ∉ (σ y).vars) (e : Expr) :
    (R.subst x e).replace σ = (R.replace σ).subst x' (e.replace σ) := by
  rw [subst_eq_replace, replace_replace, subst_eq_replace, replace_replace]
  refine replace_congr fun y hy => ?_
  by_cases hyx : y = x
  · subst hyx
    simp [hx, replace]
  · -- `σ y` is brought in behind the substitution on the left and before it on the right
    rw [Function.update_of_ne hyx, ← subst_eq_replace, subst_eq_self (hother y hy hyx), replace]

/-! ## Conditions and rules -/

/-- **A replacement is moved past the conditions.** -/
theorem conditions_replace (h : ∀ x ∈ e.vars, (σ x).conditions = []) :
    (e.replace σ).conditions = e.conditions.map (replace σ) := by
  induction e with
  | const v => rfl
  | var x => exact h x (Finset.mem_singleton_self x)
  | unary op e ih => exact ih h
  | binary op l r ihl ihr =>
    rw [vars_binary] at h
    have hl := ihl fun x hx => h x (Finset.mem_union_left _ hx)
    have hr := ihr fun x hx => h x (Finset.mem_union_right _ hx)
    cases op with
    | div =>
      simp only [replace, conditions, hl, hr, List.map_cons, List.map_append]
      rfl
    | add | sub | mul | eq | ne | gt | ge | lt | le | and | or =>
      simp only [replace, conditions, hl, hr, List.map_append]

theorem replace_guarded (σ : String → Expr) (conditions : List Expr) (e : Expr) :
    (guarded conditions e).replace σ = guarded (conditions.map (replace σ)) (e.replace σ) := by
  induction conditions with
  | nil => rfl
  | cons c conditions ih => exact congrArg (Expr.and (c.replace σ)) ih

theorem replace_choice (σ : String → Expr) (b s t : Expr) :
    (choice b s t).replace σ = choice (b.replace σ) (s.replace σ) (t.replace σ) := rfl

end WeakestPre.Expr
