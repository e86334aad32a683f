import WeakestPre.Proofs.Expr.Leaves
import WeakestPre.Proofs.Expr.Replacement

/-!
# Replacements and preconditions

When may the variables of a postcondition be replaced before a derivation just as well as after it?

**Respect** (`Respects`). A replacement has to leave the program a program: a target stays a
variable, under whatever name, and that name comes in for no other variable. It also must not bring
divisions into the program, since those would add conditions.

**Theorem** (`Respects.wp_map`). If a replacement respects a statement, then the precondition of the
statement with everything replaced is the precondition with everything replaced. The induction is
over statements for every postcondition, whose variables are kept within a fixed set of names, the
domain of the replacement.

**Logical variables** (`wp_subst_of_notMem_vars`). A variable that does not occur in the program can
be given its meaning before or after the derivation, if that meaning is not touched by the program.
-/

namespace WeakestPre

/-! ## Variables of statements -/

/-- The variables of an expression are those of its leaves. -/
theorem Expr.allLeaves_vars_iff {N : Set String} {e : Expr} :
    e.AllLeaves (fun d => ∀ x ∈ d.vars, x ∈ N) ↔ ∀ x ∈ e.vars, x ∈ N := by
  induction e with
  | const v => exact allLeaves_const
  | var x => exact allLeaves_var
  | unary op e ih => exact ih
  | binary op l r ihl ihr =>
    rw [allLeaves_binary, ihl, ihr, vars_binary]
    simp only [Finset.mem_union, or_imp, forall_and]

namespace Stmt

/-- The variables that a statement assigns to or reads. -/
def vars (S : Stmt) : Finset String := (S.expressions.flatMap Expr.occurrences).toFinset

theorem mem_vars {S : Stmt} {x : String} : x ∈ S.vars ↔ ∃ e ∈ S.expressions, x ∈ e.vars := by
  simp only [vars, List.mem_toFinset, List.mem_flatMap, Expr.mem_vars]

theorem allLeaves_vars_iff {N : Set String} {S : Stmt} :
    S.AllLeaves (fun d => ∀ x ∈ d.vars, x ∈ N) ↔ ∀ x ∈ S.vars, x ∈ N := by
  simp only [AllLeaves, Expr.allLeaves_vars_iff, mem_vars]
  constructor
  · rintro h x ⟨e, he, hx⟩
    exact h e he x hx
  · intro h e he x hx
    exact h x ⟨e, he, hx⟩

/-- **A precondition has no variables of its own.** -/
theorem vars_wp_within {N : Set String} {S : Stmt} {R : Expr} (hS : ∀ x ∈ S.vars, x ∈ N)
    (hR : ∀ x ∈ R.vars, x ∈ N) : ∀ x ∈ (S.wp R).vars, x ∈ N := by
  have hzero : ∀ x ∈ Expr.zero.vars, x ∈ N := by simp [Expr.zero]
  exact Expr.allLeaves_vars_iff.1 (AllLeaves.wp (P := fun d => ∀ x ∈ d.vars, x ∈ N) hzero
    (allLeaves_vars_iff.2 hS) (Expr.allLeaves_vars_iff.2 hR))

mutual

/-- The variables that a statement assigns to. -/
def targets : Stmt → List String
  | .assign x _ => [x]
  | .seq body => targetsAll body
  | .cond _ s t => targets s ++ targets t

def targetsAll : List Stmt → List String
  | [] => []
  | s :: rest => targets s ++ targetsAll rest

end

mutual

theorem var_mem_expressions {x : String} : ∀ S : Stmt, x ∈ S.targets → .var x ∈ S.expressions
  | .assign y e, h => by
    obtain rfl := List.mem_singleton.1 h
    exact List.mem_cons_self
  | .seq body, h => var_mem_expressionsAll body h
  | .cond b s t, h => by
    refine List.mem_cons_of_mem b (List.mem_append.2 ?_)
    rcases List.mem_append.1 h with h | h
    · exact .inl (var_mem_expressions s h)
    · exact .inr (var_mem_expressions t h)

theorem var_mem_expressionsAll {x : String} : ∀ body : List Stmt, x ∈ targetsAll body →
    .var x ∈ expressionsAll body
  | s :: rest, h => by
    refine List.mem_append.2 ?_
    rcases List.mem_append.1 h with h | h
    · exact .inl (var_mem_expressions s h)
    · exact .inr (var_mem_expressionsAll rest h)

end

theorem mem_vars_of_mem_targets {S : Stmt} {x : String} (h : x ∈ S.targets) : x ∈ S.vars :=
  mem_vars.2 ⟨.var x, var_mem_expressions S h, Finset.mem_singleton_self x⟩

/-! ## Mapping statements -/

mutual

/-- The statement with other targets and other expressions. -/
def map (f : String → String) (g : Expr → Expr) : Stmt → Stmt
  | .assign x e => .assign (f x) (g e)
  | .seq body => .seq (mapAll f g body)
  | .cond b s t => .cond (g b) (map f g s) (map f g t)

def mapAll (f : String → String) (g : Expr → Expr) : List Stmt → List Stmt
  | [] => []
  | s :: rest => map f g s :: mapAll f g rest

end

mutual

theorem map_eq_self {g : Expr → Expr} : ∀ S : Stmt, (∀ e ∈ S.expressions, g e = e) →
    S.map id g = S
  | .assign x e, h => by
    rw [map, h e (by simp [expressions])]
    rfl
  | .seq body, h => by rw [map, mapAll_eq_self body h]
  | .cond b s t, h => by
    obtain ⟨hb, hbranches⟩ := List.forall_mem_cons.1 h
    obtain ⟨hs, ht⟩ := List.forall_mem_append.1 hbranches
    rw [map, hb, map_eq_self s hs, map_eq_self t ht]

theorem mapAll_eq_self {g : Expr → Expr} : ∀ body : List Stmt,
    (∀ e ∈ expressionsAll body, g e = e) → mapAll id g body = body
  | [], _ => rfl
  | s :: rest, h => by
    obtain ⟨hs, hrest⟩ := List.forall_mem_append.1 h
    rw [mapAll, map_eq_self s hs, mapAll_eq_self rest hrest]

end

/-! ## Replacements that respect a statement -/

/-- The replacement `σ` of the names in `N` makes another program of the statement, in which the
targets are renamed by `f`. -/
structure Respects (σ : String → Expr) (f : String → String) (N : Set String) (S : Stmt) :
    Prop where
  names : ∀ x ∈ S.vars, x ∈ N
  noDivision : ∀ x ∈ S.vars, (σ x).conditions = []
  target : ∀ x ∈ S.targets, σ x = .var (f x)
  apart : ∀ x ∈ S.targets, ∀ y ∈ N, y ≠ x → f x ∉ (σ y).vars

namespace Respects

variable {σ : String → Expr} {f : String → String} {N : Set String} {S T s t : Stmt}
  {body : List Stmt} {b R : Expr}

/-- What a replacement respects, it respects in every part. -/
theorem of_subset (h : Respects σ f N S) (hexpressions : T.expressions ⊆ S.expressions)
    (htargets : T.targets ⊆ S.targets) : Respects σ f N T := by
  have hvars : ∀ x ∈ T.vars, x ∈ S.vars := by
    intro x hx
    obtain ⟨e, he, hx⟩ := mem_vars.1 hx
    exact mem_vars.2 ⟨e, hexpressions he, hx⟩
  exact ⟨fun x hx => h.names x (hvars x hx), fun x hx => h.noDivision x (hvars x hx),
    fun x hx => h.target x (htargets hx), fun x hx => h.apart x (htargets hx)⟩

theorem thenBranch (h : Respects σ f N (.cond b s t)) : Respects σ f N s :=
  h.of_subset (fun _ he => List.mem_cons_of_mem b (List.mem_append_left _ he))
    (List.subset_append_left _ _)

theorem elseBranch (h : Respects σ f N (.cond b s t)) : Respects σ f N t :=
  h.of_subset (fun _ he => List.mem_cons_of_mem b (List.mem_append_right _ he))
    (List.subset_append_right _ _)

theorem first (h : Respects σ f N (.seq (s :: body))) : Respects σ f N s :=
  h.of_subset (List.subset_append_left _ _) (List.subset_append_left _ _)

theorem rest (h : Respects σ f N (.seq (s :: body))) : Respects σ f N (.seq body) :=
  h.of_subset (List.subset_append_right _ _) (List.subset_append_right _ _)

/-- The rule for assignments, with everything replaced. -/
theorem wp_assign {x : String} {e : Expr} (h : Respects σ f N (.assign x e))
    (hR : ∀ y ∈ R.vars, y ∈ N) :
    Expr.guarded (e.replace σ).conditions ((R.replace σ).subst (f x) (e.replace σ)) =
      (Expr.guarded e.conditions (R.subst x e)).replace σ := by
  have hx : x ∈ (Stmt.assign x e).targets := List.mem_singleton_self x
  have hvalue : ∀ y ∈ e.vars, (σ y).conditions = [] := by
    intro y hy
    exact h.noDivision y (mem_vars.2 ⟨e, by simp [expressions], hy⟩)
  have hother : ∀ y ∈ R.vars, y ≠ x → f x ∉ (σ y).vars := fun y hy => h.apart x hx y (hR y hy)
  rw [Expr.replace_guarded, Expr.conditions_replace hvalue,
    Expr.replace_subst (h.target x hx) hother]

mutual

/-- **A replacement is moved past a derivation** that it respects. -/
theorem wp_map : ∀ (S : Stmt) {R : Expr}, Respects σ f N S → (∀ x ∈ R.vars, x ∈ N) →
    (S.map f (Expr.replace σ)).wp (R.replace σ) = (S.wp R).replace σ
  | .assign x e, R, h, hR => h.wp_assign hR
  | .seq body, R, h, hR => wpAll_map body h hR
  | .cond b s t, R, h, hR => by
    rw [map, wp, wp, Expr.replace_choice, wp_map s h.thenBranch hR, wp_map t h.elseBranch hR]

theorem wpAll_map : ∀ (body : List Stmt) {R : Expr}, Respects σ f N (.seq body) →
    (∀ x ∈ R.vars, x ∈ N) →
    wpAll (mapAll f (Expr.replace σ) body) (R.replace σ) = (wpAll body R).replace σ
  | [], R, h, hR => rfl
  | s :: rest, R, h, hR => by
    have hrest : ∀ x ∈ (wpAll rest R).vars, x ∈ N := vars_wp_within h.rest.names hR
    rw [mapAll, wpAll, wpAll, wpAll_map rest h.rest hR, wp_map s h.first hrest]

end

end Respects

/-! ## Logical variables -/

section Logical

variable {S : Stmt} {y : String} {r : Expr}

/-- A program that does not mention `y` is not changed. -/
theorem map_update_eq_self (hy : y ∉ S.vars) :
    S.map id (Expr.replace (Function.update .var y r)) = S := by
  refine map_eq_self S fun e he => ?_
  rw [← Expr.subst_eq_replace]
  exact Expr.subst_eq_self (fun hye => hy (mem_vars.2 ⟨e, he, hye⟩)) r

/-- A program that neither mentions `y` nor assigns to a variable of `r` is respected. -/
theorem respects_update (hy : y ∉ S.vars) (hr : ∀ x ∈ r.vars, x ∉ S.targets) :
    Respects (Function.update .var y r) id Set.univ S := by
  have hvar : ∀ x, x ≠ y → Function.update Expr.var y r x = .var x :=
    fun x hx => Function.update_of_ne hx _ _
  have hne : ∀ x ∈ S.vars, x ≠ y := by
    rintro x hx rfl
    exact hy hx
  refine ⟨fun _ _ => trivial, fun x hx => ?_, fun x hx => ?_, fun x hx z _ hzx => ?_⟩
  · rw [hvar x (hne x hx)]
    rfl
  · exact hvar x (hne x (mem_vars_of_mem_targets hx))
  · by_cases hzy : z = y
    · subst hzy
      rw [Function.update_self]
      exact fun hxr => hr x hxr hx
    · rw [hvar z hzy, Expr.vars_var, Finset.mem_singleton]
      exact hzx.symm

/-- **Logical variables pass through a derivation.** A variable that the program does not mention
can be replaced after the derivation as well as before it, by any expression in variables that the
program does not assign to. -/
theorem wp_subst_of_notMem_vars (hy : y ∉ S.vars) (hr : ∀ x ∈ r.freeVariables, x ∉ S.targets)
    (R : Expr) : S.wp (R.subst y r) = (S.wp R).subst y r := by
  have hvars : ∀ x ∈ r.vars, x ∉ S.targets :=
    fun x hx => hr x (Expr.mem_freeVariables_iff_mem_vars.2 hx)
  have hwp := (respects_update hy hvars).wp_map S (R := R) fun _ _ => trivial
  rwa [map_update_eq_self hy, ← Expr.subst_eq_replace, ← Expr.subst_eq_replace] at hwp

end Logical

/-- `x := x / d; if (x > 0) z := x else z := -x`. -/
def signedQuotient : Stmt :=
  .seq [.assign "x" (.binary .div (.var "x") (.var "d")),
    .cond (.binary .gt (.var "x") .zero) (.assign "z" (.var "x"))
      (.assign "z" (.unary .neg (.var "x")))]

/-- The limit `y` of the result may be given as `a / d`: the program reads `d`, but does not assign
to it. -/
theorem wp_subst_signedQuotient :
    let limit : Expr := .binary .div (.var "a") (.var "d")
    let post : Expr := .binary .lt (.var "z") (.var "y")
    "y" ∉ signedQuotient.vars ∧ (∀ x ∈ limit.freeVariables, x ∉ signedQuotient.targets) ∧
      signedQuotient.wp (post.subst "y" limit) = (signedQuotient.wp post).subst "y" limit := by
  intro limit post
  have hy : "y" ∉ signedQuotient.vars := by decide +kernel
  have hlimit : ∀ x ∈ limit.freeVariables, x ∉ signedQuotient.targets := by decide +kernel
  exact ⟨hy, hlimit, wp_subst_of_notMem_vars hy hlimit post⟩

end Stmt

end WeakestPre
