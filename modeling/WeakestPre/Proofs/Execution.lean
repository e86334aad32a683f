import WeakestPre.Proofs.Meaning

/-!
# What a derived precondition says about runs

A run goes through a statement and keeps a state. What it does at an assignment and at a guard is
left to a machine, and either of them may end the run early.

**Exactness** (`Fits`, `holds_wp_iff`). If the rules for assignments and for conditionals are exact
for a machine, then so is the whole calculus: `S.wp R` holds in a state exactly if the run of `S`
from there ends in a state where `R` holds. The induction is over statements and lists of
statements, for every `R`, since a sequence hands the precondition of its rest to its first
statement.

**Two machines.** The *careful* machine reads expressions partially: it stops at an assigned value
that has an undefined part and at a guard without a value. The *checking* machine reads them
totally: it tests the divisors of assigned values and nothing else. The calculus is exact for both
(`truth?_wp_iff_run`, `truth_wp_iff_run`).

**Divisions by zero** (`trace`). Read totally, a true precondition excludes division by zero from
all assigned values of the run (`place_eq_guard_of_truth_wp`). It says nothing about guards, which
bring no conditions of their own (`truth_wp_quotientGuard`).
-/

namespace WeakestPre

universe u

/-- What a run does at an assignment and at a guard; `none` ends the run. -/
structure Machine (σ : Type u) where
  assign : String → Expr → σ → Option σ
  test : Expr → σ → Option Bool

namespace Machine

variable {σ : Type u}

mutual

def run (M : Machine σ) : Stmt → σ → Option σ
  | .assign x e, s => M.assign x e s
  | .seq body, s => M.runAll body s
  | .cond b t f, s => (M.test b s).bind fun c => if c then M.run t s else M.run f s

def runAll (M : Machine σ) : List Stmt → σ → Option σ
  | [], s => some s
  | t :: rest, s => (M.run t s).bind fun s' => M.runAll rest s'

end

/-- The two rules of the calculus that look at expressions are exact for a machine. -/
structure Fits (M : Machine σ) (holds : σ → Expr → Prop) : Prop where
  assign : ∀ s x e R, holds s (Expr.guarded e.conditions (R.subst x e)) ↔
    ∃ s', M.assign x e s = some s' ∧ holds s' R
  choice : ∀ s b p q, holds s (Expr.choice b p q) ↔
    (M.test b s = some true ∧ holds s p) ∨ (M.test b s = some false ∧ holds s q)

mutual

/-- **The calculus is exact** for every machine that its rules fit. -/
theorem Fits.holds_wp_iff {M : Machine σ} {holds : σ → Expr → Prop} (h : M.Fits holds) :
    ∀ (S : Stmt) (R : Expr) (s : σ),
      holds s (S.wp R) ↔ ∃ s', M.run S s = some s' ∧ holds s' R
  | .assign x e, R, s => by
    rw [Stmt.wp, run]
    exact h.assign s x e R
  | .seq body, R, s => by
    rw [Stmt.wp, run]
    exact h.holds_wpAll_iff body R s
  | .cond b t f, R, s => by
    rw [Stmt.wp, run, h.choice, h.holds_wp_iff t R s, h.holds_wp_iff f R s]
    rcases M.test b s with _ | _ | _ <;> simp

theorem Fits.holds_wpAll_iff {M : Machine σ} {holds : σ → Expr → Prop} (h : M.Fits holds) :
    ∀ (body : List Stmt) (R : Expr) (s : σ),
      holds s (Stmt.wpAll body R) ↔ ∃ s', M.runAll body s = some s' ∧ holds s' R
  | [], R, s => by simp [Stmt.wpAll, runAll]
  | t :: rest, R, s => by
    rw [Stmt.wpAll, runAll, h.holds_wp_iff t]
    simp only [h.holds_wpAll_iff rest R, Option.bind_eq_some_iff]
    constructor
    · rintro ⟨s₁, ht, s', hrest, hR⟩
      exact ⟨s', ⟨s₁, ht, hrest⟩, hR⟩
    · rintro ⟨s', ⟨s₁, ht, hrest⟩, hR⟩
      exact ⟨s₁, ht, s', hrest, hR⟩

end

end Machine

namespace Interpretation

variable {V : Type u} (I : Interpretation V)

/-! ## Partial reading -/

/-- Assigns values that are defined throughout and branches on guards that have a value. -/
def carefulMachine : Machine (State V) where
  assign x e s := if I.definedThroughout s e then (I.value? s e).map (Function.update s x) else none
  test b s := I.truth? s b

theorem carefulMachine_fits : I.carefulMachine.Fits fun s e => I.truth? s e = some true where
  assign s x e R := by
    rw [truth?_guarded, forall_conditions_truth?_iff]
    simp only [carefulMachine]
    by_cases he : I.definedThroughout s e = true
    · obtain ⟨v, hv⟩ := Option.isSome_iff_exists.1 (I.isSome_value?_of_definedThroughout he)
      simp [he, hv, I.truth?_subst hv]
    · simp [he]
  choice s b p q := by
    simp only [Expr.choice, truth?_or, truth?_and, truth?_not, carefulMachine]
    -- the guard is evaluated twice, and the second time only decides if it was false the first
    rcases I.truth? s b with _ | _ | _
    · simp
    · simp
    · rcases I.truth? s p with _ | _ | _ <;> simp

/-- **The calculus derives the weakest precondition of careful runs.** -/
theorem truth?_wp_iff_run (S : Stmt) (R : Expr) (s : State V) :
    I.truth? s (S.wp R) = some true ↔
      ∃ s', I.carefulMachine.run S s = some s' ∧ I.truth? s' R = some true :=
  I.carefulMachine_fits.holds_wp_iff S R s

/-! ## Total reading -/

/-- Assigns values none of whose divisions has a zero divisor, and branches on guards as they
are. -/
def checkingMachine : Machine (State V) where
  assign x e s := if I.dividesByZero s e then none else some (Function.update s x (I.value s e))
  test b s := some (I.truth s b)

theorem checkingMachine_fits : I.checkingMachine.Fits fun s e => I.truth s e = true where
  assign s x e R := by
    have hsubst : I.truth s (R.subst x e) = I.truth (Function.update s x (I.value s e)) R := by
      rw [truth, truth, value_subst]
    rw [truth_guarded, forall_conditions_truth_iff, hsubst]
    simp only [checkingMachine]
    by_cases he : I.dividesByZero s e = true
    · simp [he]
    · simp [he]
  choice s b p q := by
    simp only [Expr.choice, truth_or, truth_and, truth_not, checkingMachine]
    cases I.truth s b <;> simp

/-- **The calculus derives the weakest precondition of checking runs.** -/
theorem truth_wp_iff_run (S : Stmt) (R : Expr) (s : State V) :
    I.truth s (S.wp R) = true ↔
      ∃ s', I.checkingMachine.run S s = some s' ∧ I.truth s' R = true :=
  I.checkingMachine_fits.holds_wp_iff S R s

/-! ## Divisions by zero -/

/-- Where a run evaluates an expression. -/
inductive Place where
  | assigned
  | guard
  deriving DecidableEq, Repr

/-- An expression that a run evaluates, and the state in which it does. -/
structure Evaluation (V : Type u) where
  place : Place
  expr : Expr
  state : State V

mutual

/-- All evaluations of an unchecked run in order, and the state in which it ends. -/
def trace : Stmt → State V → List (Evaluation V) × State V
  | .assign x e, s => ([⟨.assigned, e, s⟩], Function.update s x (I.value s e))
  | .seq body, s => traceAll body s
  | .cond b t f, s =>
    let branch := if I.truth s b then trace t s else trace f s
    (⟨.guard, b, s⟩ :: branch.1, branch.2)

def traceAll : List Stmt → State V → List (Evaluation V) × State V
  | [], s => ([], s)
  | t :: rest, s =>
    let first := trace t s
    let later := traceAll rest first.2
    (first.1 ++ later.1, later.2)

end

/-- Only guards divide by zero. -/
def SafeValues (evaluations : List (Evaluation V)) : Prop :=
  ∀ ev ∈ evaluations, I.dividesByZero ev.state ev.expr = true → ev.place = .guard

mutual

/-- A checking run that ends has followed the unchecked one, and its values were safe. -/
theorem trace_of_run : ∀ (S : Stmt) {s s' : State V}, I.checkingMachine.run S s = some s' →
    I.SafeValues (I.trace S s).1 ∧ (I.trace S s).2 = s'
  | .assign x e, s, s', h => by
    rw [Machine.run] at h
    simp only [checkingMachine] at h
    split at h
    · exact absurd h (by simp)
    · rename_i he
      refine ⟨fun ev hev hzero => ?_, by simpa [trace] using h⟩
      rw [trace, List.mem_singleton] at hev
      subst hev
      exact absurd hzero he
  | .seq body, s, s', h => by
    rw [Machine.run] at h
    rw [trace]
    exact traceAll_of_runAll body h
  | .cond b t f, s, s', h => by
    rw [Machine.run] at h
    simp only [checkingMachine, Option.bind_some] at h
    have hbranch : I.SafeValues (if I.truth s b then I.trace t s else I.trace f s).1 ∧
        (if I.truth s b then I.trace t s else I.trace f s).2 = s' := by
      by_cases hb : I.truth s b = true
      · rw [if_pos hb] at h ⊢
        exact trace_of_run t h
      · rw [if_neg hb] at h ⊢
        exact trace_of_run f h
    rw [trace]
    refine ⟨fun ev hev hzero => ?_, hbranch.2⟩
    rcases List.mem_cons.1 hev with rfl | hev
    · rfl
    · exact hbranch.1 ev hev hzero

theorem traceAll_of_runAll : ∀ (body : List Stmt) {s s' : State V},
    I.checkingMachine.runAll body s = some s' →
      I.SafeValues (I.traceAll body s).1 ∧ (I.traceAll body s).2 = s'
  | [], s, s', h => by
    rw [Machine.runAll] at h
    refine ⟨fun ev hev => ?_, by simpa [traceAll] using h⟩
    simp [traceAll] at hev
  | t :: rest, s, s', h => by
    rw [Machine.runAll] at h
    obtain ⟨s₁, ht, hrest⟩ := Option.bind_eq_some_iff.1 h
    obtain ⟨hsafe, rfl⟩ := trace_of_run t ht
    obtain ⟨hsafe', hend⟩ := traceAll_of_runAll rest hrest
    rw [traceAll]
    refine ⟨fun ev hev => ?_, hend⟩
    rcases List.mem_append.1 hev with hev | hev
    · exact hsafe ev hev
    · exact hsafe' ev hev

end

/-- **A true precondition excludes division by zero from assigned values**: where the run it
promises still divides by zero, it evaluates a guard. -/
theorem place_eq_guard_of_truth_wp (S : Stmt) (R : Expr) (s : State V)
    (h : I.truth s (S.wp R) = true) :
    ∀ ev ∈ (I.trace S s).1, I.dividesByZero ev.state ev.expr = true → ev.place = .guard := by
  obtain ⟨s', hrun, -⟩ := (I.checkingMachine_fits.holds_wp_iff S R s).1 h
  exact (I.trace_of_run S hrun).1

end Interpretation

/-! ## Rational arithmetic -/

/-- The rational number that stands for a truth value. -/
def ratOfBool (b : Bool) : Rat := if b then 1 else 0

theorem ratOfBool_bne_zero (b : Bool) : (ratOfBool b != 0) = b := by
  cases b <;> rfl

/-- Rational arithmetic, where a quotient by zero is zero. Every number but zero is true. -/
def rational : Interpretation Rat where
  truthy v := v != 0
  const c := (c.units : Rat) / (Binary64.unitsOfOne : Rat)
  unary
    | .not, v => ratOfBool (v == 0)
    | .neg, v => -v
    | .abs, v => if v < 0 then -v else v
  binary
    | .add, v, w => v + w
    | .sub, v, w => v - w
    | .mul, v, w => v * w
    | .div, v, w => v / w
    | .eq, v, w => ratOfBool (v == w)
    | .ne, v, w => ratOfBool (v != w)
    | .gt, v, w => ratOfBool (w < v)
    | .ge, v, w => ratOfBool (w ≤ v)
    | .lt, v, w => ratOfBool (v < w)
    | .le, v, w => ratOfBool (v ≤ w)
    | .and, v, w => ratOfBool (v != 0 && w != 0)
    | .or, v, w => ratOfBool (v != 0 || w != 0)
  truthy_not v := by rw [ratOfBool_bne_zero, bne, Bool.not_not]
  truthy_and v w := ratOfBool_bne_zero _
  truthy_or v w := ratOfBool_bne_zero _

/-- `if (a / x > 0) y := a else y := a / a`. -/
def quotientGuard : Stmt :=
  .cond (.binary .gt (.binary .div (.var "a") (.var "x")) .zero)
    (.assign "y" (.var "a")) (.assign "y" (.binary .div (.var "a") (.var "a")))

/-- `a` is one and every other variable is zero. -/
def onlyA : State Rat := fun x => ratOfBool (x == "a")

/-- The precondition of `quotientGuard` for `y > 0` is true where its guard divides by zero. -/
theorem truth_wp_quotientGuard :
    rational.truth onlyA (quotientGuard.wp (.binary .gt (.var "y") .zero)) = true ∧
      ∃ ev ∈ (rational.trace quotientGuard onlyA).1,
        ev.place = .guard ∧ rational.dividesByZero ev.state ev.expr = true := by
  refine ⟨by decide +kernel, _, List.mem_cons_self, rfl, by decide +kernel⟩

/-- That division is the only one by zero: the value `a / a` is safe. -/
theorem place_eq_guard_quotientGuard :
    rational.truth onlyA (quotientGuard.wp (.binary .gt (.var "y") .zero)) = true ∧
      ∀ ev ∈ (rational.trace quotientGuard onlyA).1,
        rational.dividesByZero ev.state ev.expr = true → ev.place = .guard :=
  have htrue : rational.truth onlyA (quotientGuard.wp (.binary .gt (.var "y") .zero)) = true := by
    decide +kernel
  ⟨htrue, rational.place_eq_guard_of_truth_wp quotientGuard _ onlyA htrue⟩

end WeakestPre
