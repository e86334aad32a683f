import Mathlib.Data.List.Nodup
import Mathlib.Data.Set.Operations
import WeakestPre.Proofs.Construction.Building
import WeakestPre.Proofs.Stmt.Replacement

/-!
# Renaming

The calculus treats no name in a special way and confuses no two names. This is said by renaming: a
map of names to names, applied to all variables at once. It may exchange names, so it is not a
series of substitutions.

**Expressions.** The conditions of a renamed expression are the conditions renamed
(`conditions_rename`), and so are its free variables, up to their order (`freeVariables_rename`).

**Well-formed trees** stay well-formed (`Stmt.wellFormed_rename`), so the renamed program can be
built.

**Theorem** (`wp_rename`). An injective renaming is a replacement that respects every statement. The
precondition of a renamed program for a renamed postcondition is the renamed precondition.
-/

namespace WeakestPre

variable {f : String → String}

namespace Expr

/-- `e` with `f x` for every variable `x`. -/
def rename (f : String → String) (e : Expr) : Expr := e.replace fun x => .var (f x)

theorem conditions_rename (f : String → String) (e : Expr) :
    (e.rename f).conditions = e.conditions.map (rename f) :=
  conditions_replace fun _ _ => rfl

theorem mem_vars_rename {e : Expr} {x : String} :
    x ∈ (e.rename f).vars ↔ ∃ y ∈ e.vars, f y = x := by
  simp only [rename, mem_vars_replace, vars_var, Finset.mem_singleton, eq_comm]

/-- Names that are kept apart stay as many. -/
theorem freeVariables_rename {e : Expr} (hinj : ∀ x ∈ e.vars, ∀ y ∈ e.vars, f x = f y → x = y) :
    (e.rename f).freeVariables.Perm (e.freeVariables.map f) := by
  have hnodup : (e.freeVariables.map f).Nodup := by
    refine List.Nodup.map_on (fun x hx y hy => ?_) e.nodup_freeVariables
    exact hinj x (mem_freeVariables_iff_mem_vars.1 hx) y (mem_freeVariables_iff_mem_vars.1 hy)
  rw [List.perm_ext_iff_of_nodup (nodup_freeVariables _) hnodup]
  intro x
  simp only [mem_freeVariables_iff_mem_vars, mem_vars_rename, List.mem_map]

theorem WellFormed.isName {e : Expr} (h : e.WellFormed) : ∀ x ∈ e.vars, IsName x := by
  induction e with
  | const v => simp
  | var x =>
    intro y hy
    obtain rfl := Finset.mem_singleton.1 hy
    exact allLeaves_var.1 h
  | unary op e ih => exact ih (allLeaves_unary.1 h)
  | binary op l r ihl ihr =>
    obtain ⟨hl, hr⟩ := allLeaves_binary.1 h
    intro x hx
    rw [vars_binary, Finset.mem_union] at hx
    rcases hx with hx | hx
    · exact ihl hl x hx
    · exact ihr hr x hx

theorem wellFormed_rename (hmaps : Set.MapsTo f {x | IsName x} {x | IsName x}) {e : Expr}
    (h : e.WellFormed) : (e.rename f).WellFormed := by
  induction e with
  | const v => exact h
  | var x => exact allLeaves_var.2 (hmaps (allLeaves_var.1 h))
  | unary op e ih => exact allLeaves_unary.2 (ih (allLeaves_unary.1 h))
  | binary op l r ihl ihr =>
    obtain ⟨hl, hr⟩ := allLeaves_binary.1 h
    exact allLeaves_binary.2 ⟨ihl hl, ihr hr⟩

end Expr

namespace Stmt

/-- The statement with `f x` for every variable `x`, targets included. -/
def rename (f : String → String) (S : Stmt) : Stmt := S.map f (Expr.rename f)

theorem WellFormed.isName {S : Stmt} (h : S.WellFormed) : ∀ x ∈ S.vars, IsName x := by
  intro x hx
  obtain ⟨e, he, hx⟩ := mem_vars.1 hx
  have hnamed : e.WellFormed := h.named e he
  exact hnamed.isName x hx

mutual

theorem wellFormed_rename (hmaps : Set.MapsTo f {x | IsName x} {x | IsName x}) :
    ∀ {S : Stmt}, S.WellFormed → (S.rename f).WellFormed
  | .assign x e, h => by
    obtain ⟨hx, he⟩ := wellFormed_assign.1 h
    exact wellFormed_assign.2 ⟨hmaps hx, Expr.wellFormed_rename hmaps he⟩
  | .seq body, h => by
    obtain ⟨hne, hbody⟩ := wellFormed_seq.1 h
    refine wellFormed_seq.2 ⟨?_, wellFormed_renameAll hmaps hbody⟩
    cases body with
    | nil => exact absurd rfl hne
    | cons s body => exact List.cons_ne_nil _ _
  | .cond b s t, h => by
    obtain ⟨hb, hs, ht⟩ := wellFormed_cond.1 h
    exact wellFormed_cond.2 ⟨Expr.wellFormed_rename hmaps hb, wellFormed_rename hmaps hs,
      wellFormed_rename hmaps ht⟩

theorem wellFormed_renameAll (hmaps : Set.MapsTo f {x | IsName x} {x | IsName x}) :
    ∀ {body : List Stmt}, (∀ s ∈ body, s.WellFormed) →
      ∀ s ∈ mapAll f (Expr.rename f) body, s.WellFormed
  | [], _ => by simp [mapAll]
  | s :: rest, h => by
    obtain ⟨hs, hrest⟩ := List.forall_mem_cons.1 h
    exact List.forall_mem_cons.2 ⟨wellFormed_rename hmaps hs, wellFormed_renameAll hmaps hrest⟩

end

/-- An injective renaming respects every statement. -/
theorem respects_rename {N : Set String} (hinj : Set.InjOn f N) {S : Stmt}
    (hS : ∀ x ∈ S.vars, x ∈ N) : Respects (fun x => .var (f x)) f N S where
  names := hS
  noDivision _ _ := rfl
  target _ _ := rfl
  apart x hx y hy hne := by
    rw [Expr.vars_var, Finset.mem_singleton]
    intro heq
    exact hne (hinj hy (hS x (mem_vars_of_mem_targets hx)) heq.symm)

end Stmt

/-- **The calculus is equivariant.** Let a renaming keep all names apart. Then renamed trees are
well-formed again, their conditions and free variables are those of the trees, renamed, and so is
the precondition of a renamed statement for a renamed postcondition. -/
theorem wp_rename (hmaps : Set.MapsTo f {x | IsName x} {x | IsName x})
    (hinj : Set.InjOn f {x | IsName x}) {S : Stmt} {R : Expr} (hS : S.WellFormed)
    (hR : R.WellFormed) :
    (S.rename f).WellFormed ∧ (R.rename f).WellFormed ∧
      (S.rename f).wp (R.rename f) = (S.wp R).rename f ∧
      ∀ e : Expr, e.WellFormed → (e.rename f).conditions = e.conditions.map (Expr.rename f) ∧
        (e.rename f).freeVariables.Perm (e.freeVariables.map f) := by
  refine ⟨Stmt.wellFormed_rename hmaps hS, Expr.wellFormed_rename hmaps hR, ?_, fun e he => ?_⟩
  · exact (Stmt.respects_rename hinj hS.isName).wp_map S hR.isName
  · refine ⟨Expr.conditions_rename f e, Expr.freeVariables_rename ?_⟩
    intro x hx y hy heq
    exact hinj (he.isName x hx) (he.isName y hy) heq

/-- Exchanges the names `x` and `y`. -/
def exchangeXY (z : String) : String := if z = "x" then "y" else if z = "y" then "x" else z

/-- `x := y / x; if (x > y) y := x else x := y`. -/
def quotientAndMaximum : Stmt :=
  .seq [.assign "x" (.binary .div (.var "y") (.var "x")),
    .cond (.binary .gt (.var "x") (.var "y")) (.assign "y" (.var "x")) (.assign "x" (.var "y"))]

/-- An exchange of the two variables of a program, which no two substitutions bring about. -/
theorem wp_rename_quotientAndMaximum :
    let post : Expr := .binary .ge (.var "x") (.var "y")
    Set.MapsTo exchangeXY {x | IsName x} {x | IsName x} ∧
      Set.InjOn exchangeXY {x | IsName x} ∧ quotientAndMaximum.WellFormed ∧ post.WellFormed ∧
      (quotientAndMaximum.rename exchangeXY).wp (.binary .ge (.var "y") (.var "x")) =
        (quotientAndMaximum.wp post).rename exchangeXY := by
  intro post
  have hx : IsName "x" := ⟨by decide +kernel, by decide⟩
  have hy : IsName "y" := ⟨by decide +kernel, by decide⟩
  have hmaps : Set.MapsTo exchangeXY {x | IsName x} {x | IsName x} := by
    intro z hz
    unfold exchangeXY
    split_ifs
    · exact hy
    · exact hx
    · exact hz
  have hinj : Set.InjOn exchangeXY {x | IsName x} := by
    intro a _ b _ heq
    unfold exchangeXY at heq
    split_ifs at heq <;> simp_all
  have hpair : ∀ (op : BinaryOp) {l r : String}, IsName l → IsName r →
      (Expr.binary op (.var l) (.var r)).WellFormed := fun op l r hl hr =>
    Expr.allLeaves_binary.2 ⟨Expr.allLeaves_var.2 hl, Expr.allLeaves_var.2 hr⟩
  have hS : quotientAndMaximum.WellFormed := by
    refine Stmt.wellFormed_seq.2 ⟨by simp, ?_⟩
    rw [List.forall_mem_cons, List.forall_mem_singleton]
    refine ⟨Stmt.wellFormed_assign.2 ⟨hx, hpair .div hy hx⟩,
      Stmt.wellFormed_cond.2 ⟨hpair .gt hx hy, ?_, ?_⟩⟩
    · exact Stmt.wellFormed_assign.2 ⟨hy, Expr.allLeaves_var.2 hx⟩
    · exact Stmt.wellFormed_assign.2 ⟨hx, Expr.allLeaves_var.2 hy⟩
  obtain ⟨-, -, hwp, -⟩ := wp_rename hmaps hinj hS (hpair .ge hx hy)
  exact ⟨hmaps, hinj, hS, hpair .ge hx hy, hwp⟩

end WeakestPre
