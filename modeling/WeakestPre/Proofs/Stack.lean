import WeakestPre.Proofs.Derivation

/-!
# Calculations on a stack

**Room** (`Stmt.fits`). A derivation has room on a stack if every assignment and every conditional
has room for its step at the depth at which it stands.

**Derivations.** With room for all of its steps a derivation on a stack is the derivation
(`deriveWithin_of_fits`). Without, it is broken off at a step that has no room, and the steps in
front of that one are left of it (`brokenOff_of_not_fits`).

**Calculations.** So a calculation on a stack is the calculation, or it leaves a log to which some
but not all of its steps were added (`calculateWithin_of_fits`, `calculateWithin_of_not_fits`).

The cases of a statement are gone through in the order in which the derivation goes through its
parts; a part that is broken off hides all that would follow it.
-/

namespace WeakestPre

/-- A stack with few levels. -/
def smallStack : Stack := ⟨20, ⟨8, 1, 1⟩, ⟨8, 4, 3⟩, ⟨8, 4, 3⟩, ⟨8, 3, 1⟩, ⟨8, 2, 2⟩⟩

/-- Conditionals within conditionals. -/
def deepBranches : Nat → Stmt
  | 0 => .assign "x" (.var "a")
  | n + 1 => .cond (.var "b") (.assign "x" (.var "a")) (deepBranches n)

/-- No result, and only the steps in front of one of `steps`. -/
def BrokenOff (d : Option Expr × List Step) (steps : List Step) : Prop :=
  d.1 = none ∧ ∃ step rest, steps = d.2 ++ step :: rest

namespace BrokenOff

variable {d : Option Expr × List Step} {result? : Option Expr} {kept steps : List Step}

/-- What follows a part that is broken off is not found. -/
theorem append (h : BrokenOff d steps) (later : List Step) :
    ∃ kept, d = (none, kept) ∧ BrokenOff (none, kept) (steps ++ later) := by
  obtain ⟨hnone, step, rest, rfl⟩ := h
  exact ⟨d.2, Prod.ext hnone rfl, rfl, step, rest ++ later, by simp⟩

theorem behind (h : BrokenOff (result?, kept) steps) (earlier : List Step) :
    BrokenOff (result?, earlier ++ kept) (earlier ++ steps) := by
  obtain ⟨hnone, step, rest, rfl⟩ := h
  exact ⟨hnone, step, rest, by simp⟩

end BrokenOff

namespace Stmt

mutual

/-- Every step of the statement has room, with `used` levels of the stack taken. -/
def fits (k : Stack) (used : Nat) : Stmt → Bool
  | .assign x e => used + stepLevels k (.assign x e) ≤ k.room
  | .seq body => fitsAll k (used + k.derivation.element) body
  | .cond b s t =>
    fits k (used + k.derivation.branch) s && fits k (used + k.derivation.branch) t &&
      decide (used + stepLevels k (.cond b s t) ≤ k.room)

def fitsAll (k : Stack) (used : Nat) : List Stmt → Bool
  | [] => true
  | s :: rest => fits k used s && fitsAll k used rest

end

variable {k : Stack}

/-! ## Derivations with room -/

mutual

theorem deriveWithin_of_fits : ∀ {S : Stmt} {used : Nat} (R : Expr), S.fits k used = true →
    S.deriveWithin k used R = (some (S.derive R).1, (S.derive R).2)
  | .assign x e, used, R, h => by
    rw [deriveWithin, if_pos (by simpa [fits] using h), derive]
  | .seq body, used, R, h => by
    rw [deriveWithin, derive]
    exact deriveAllWithin_of_fits R h
  | .cond b s t, used, R, h => by
    obtain ⟨hparts, hstep⟩ := Bool.and_eq_true_iff.1 h
    obtain ⟨hs, ht⟩ := Bool.and_eq_true_iff.1 hparts
    rw [deriveWithin, deriveWithin_of_fits R hs, deriveWithin_of_fits R ht, derive]
    exact if_pos (by simpa using hstep)

theorem deriveAllWithin_of_fits : ∀ {body : List Stmt} {used : Nat} (R : Expr),
    fitsAll k used body = true →
    deriveAllWithin k used body R = (some (deriveAll body R).1, (deriveAll body R).2)
  | [], used, R, _ => rfl
  | s :: rest, used, R, h => by
    obtain ⟨hs, hrest⟩ := Bool.and_eq_true_iff.1 h
    rw [deriveAllWithin, deriveAllWithin_of_fits R hrest]
    simp only [deriveWithin_of_fits _ hs, deriveAll]

end

/-! ## Derivations without -/

mutual

theorem brokenOff_of_not_fits : ∀ {S : Stmt} {used : Nat} (R : Expr), S.fits k used = false →
    BrokenOff (S.deriveWithin k used R) (S.derive R).2
  | .assign x e, used, R, h => by
    rw [deriveWithin, if_neg (by simpa [fits] using h)]
    exact ⟨rfl, _, [], rfl⟩
  | .seq body, used, R, h => by
    rw [deriveWithin, derive]
    exact brokenOff_of_not_fitsAll R h
  | .cond b s t, used, R, h => by
    have hsteps : ((Stmt.cond b s t).derive R).2 = (s.derive R).2 ++ ((t.derive R).2 ++
        [⟨.cond b s t, R, Expr.choice b (s.derive R).1 (t.derive R).1⟩]) :=
      List.append_assoc _ _ _
    rw [hsteps, deriveWithin]
    cases hs : s.fits k (used + k.derivation.branch) with
    | false =>
      obtain ⟨kept, hd, hbroken⟩ := (brokenOff_of_not_fits R hs).append _
      rw [hd]
      exact hbroken
    | true =>
      rw [deriveWithin_of_fits R hs]
      cases ht : t.fits k (used + k.derivation.branch) with
      | false =>
        obtain ⟨kept, hd, hbroken⟩ := (brokenOff_of_not_fits R ht).append _
        rw [hd]
        exact hbroken.behind _
      | true =>
        have hstep : ¬ used + stepLevels k (.cond b s t) ≤ k.room := by
          simpa [fits, hs, ht] using h
        rw [deriveWithin_of_fits R ht]
        dsimp only
        rw [if_neg hstep]
        exact ⟨rfl, _, [], (List.append_assoc _ _ _).symm⟩

theorem brokenOff_of_not_fitsAll : ∀ {body : List Stmt} {used : Nat} (R : Expr),
    fitsAll k used body = false →
    BrokenOff (deriveAllWithin k used body R) (deriveAll body R).2
  | [], used, R, h => by cases h
  | s :: rest, used, R, h => by
    have hsteps : (deriveAll (s :: rest) R).2 =
        (deriveAll rest R).2 ++ (s.derive (deriveAll rest R).1).2 := rfl
    rw [hsteps, deriveAllWithin]
    cases hrest : fitsAll k used rest with
    | false =>
      obtain ⟨kept, hd, hbroken⟩ := (brokenOff_of_not_fitsAll R hrest).append _
      rw [hd]
      exact hbroken
    | true =>
      have hs : s.fits k used = false := by simpa [fitsAll, hrest] using h
      rw [deriveAllWithin_of_fits R hrest]
      exact (brokenOff_of_not_fits (deriveAll rest R).1 hs).behind _

end

/-- What a derivation finds on a stack is the precondition. -/
theorem eq_of_deriveAllWithin {body : List Stmt} {used : Nat} {R q : Expr} {steps : List Step}
    (h : deriveAllWithin k used body R = (some q, steps)) : q = (deriveAll body R).1 := by
  cases hfits : fitsAll k used body with
  | true =>
    rw [deriveAllWithin_of_fits R hfits] at h
    exact (Option.some.inj (Prod.mk.inj h).1).symm
  | false =>
    have hnone := (brokenOff_of_not_fitsAll R hfits).1
    rw [h] at hnone
    cases hnone

/-- A derivation on a stack finds the precondition iff there is room for it. -/
theorem deriveWithin_fst (S : Stmt) (used : Nat) (R : Expr) :
    (S.deriveWithin k used R).1 = if S.fits k used then some (S.derive R).1 else none := by
  cases hfits : S.fits k used with
  | true => rw [deriveWithin_of_fits R hfits, if_pos rfl]
  | false => rw [(brokenOff_of_not_fits R hfits).1, if_neg (by simp)]

/-- The steps that are found on a stack are the first of the derivation. -/
theorem deriveWithin_snd_prefix (S : Stmt) (used : Nat) (R : Expr) :
    (S.deriveWithin k used R).2 <+: (S.derive R).2 := by
  cases hfits : S.fits k used with
  | true => simp [deriveWithin_of_fits R hfits]
  | false =>
    obtain ⟨-, step, rest, hsteps⟩ := brokenOff_of_not_fits R hfits
    exact ⟨step :: rest, hsteps.symm⟩

end Stmt

/-! ## Calculations -/

/-- Descriptions that are not blank are recorded behind those of the log. -/
theorem StepLog.recordEach_eq {ds : List String} (h : ∀ d ∈ ds, Text.isBlankText d = false)
    (log : StepLog) : log.recordEach ds = (none, ⟨log.descriptions ++ ds⟩) := by
  induction ds generalizing log with
  | nil => simp [recordEach]
  | cons d ds ih =>
    rw [recordEach, record_eq_ok (h d List.mem_cons_self)]
    show recordEach ⟨log.descriptions ++ [d]⟩ ds = _
    rw [ih fun d' hd' => h d' (List.mem_cons_of_mem d hd'), List.append_assoc]
    rfl

theorem Step.isBlankText_of_mem {steps : List Step} :
    ∀ d ∈ steps.map Step.description, Text.isBlankText d = false := by
  intro d hd
  obtain ⟨step, -, rfl⟩ := List.mem_map.1 hd
  exact step.isBlankText_description

section

variable {limit : Nat} {k : Stack} {program : Input Stmt} {post : Input Expr} {S : Stmt} {R : Expr}

/-- Whatever the derivation comes to, its steps are recorded. -/
theorem calculateWithin_eq (hS : program.program limit = .ok S)
    (hR : post.postcondition limit = .ok R) (log : StepLog) :
    let derived := S.deriveWithin k 0 R
    let log' : StepLog := ⟨log.descriptions ++ derived.2.map Step.description⟩
    calculateWithin limit k program post log =
      (derived.1.map fun result => .ok ⟨S, R, result, log'.lines⟩, log') := by
  intro derived log'
  simp only [calculateWithin, hS, hR]
  rw [StepLog.recordEach_eq Step.isBlankText_of_mem]

theorem calculateWithin_of_fits (hS : program.program limit = .ok S)
    (hR : post.postcondition limit = .ok R) (h : S.fits k 0 = true) (log : StepLog) :
    let log' : StepLog := ⟨log.descriptions ++ (S.derive R).2.map Step.description⟩
    calculateWithin limit k program post log =
      (some (.ok ⟨S, R, (S.derive R).1, log'.lines⟩), log') := by
  rw [calculateWithin_eq hS hR, Stmt.deriveWithin_of_fits R h]
  rfl

theorem calculateWithin_of_not_fits (hS : program.program limit = .ok S)
    (hR : post.postcondition limit = .ok R) (h : S.fits k 0 = false) (log : StepLog) :
    ∃ kept step rest, (S.derive R).2 = kept ++ step :: rest ∧
      calculateWithin limit k program post log =
        (none, ⟨log.descriptions ++ kept.map Step.description⟩) := by
  obtain ⟨hnone, step, rest, hsteps⟩ := Stmt.brokenOff_of_not_fits R h
  refine ⟨_, step, rest, hsteps, ?_⟩
  rw [calculateWithin_eq hS hR, hnone]
  rfl

/-- The program is read first, and nothing is recorded before both are read. -/
theorem calculateWithin_of_unreadable {error : SyntaxError}
    (h : program.program limit = .error error ∨
      (∃ S, program.program limit = .ok S) ∧ post.postcondition limit = .error error)
    (log : StepLog) :
    calculateWithin limit k program post log = (some (.error (.unreadable error)), log) := by
  rcases h with hprogram | ⟨⟨S, hprogram⟩, hpost⟩
  · simp only [calculateWithin, hprogram]
  · simp only [calculateWithin, hprogram, hpost]

end

end WeakestPre
