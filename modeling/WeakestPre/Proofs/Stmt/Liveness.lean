import WeakestPre.Proofs.Derivation
import WeakestPre.Proofs.Expr.Variables

/-!
# Live variables

A variable is live where its value may still be read. A derived precondition is about the state
before a program, so it should name no variables but those that are live there.

**Backwards** (`live`). The live variables before a statement are found from those behind it: an
assignment ends the life of its target and begins that of the variables of its value, and a
conditional takes those of its guard and of both branches.

**Paths** (`paths`). A path takes one branch of every conditional that it comes to. What it does to
variables is a list of accesses. A variable is live before a statement exactly if some path needs it
(`mem_live_iff`): the path reads it before any assignment to it, or does not assign to it and it is
live at the end.

**Preconditions.** The variables of a precondition are live (`vars_wp_subset`). Where the target of
an assignment does not occur in the postcondition that reaches it, nothing is substituted, and a
value without divisions is lost with all its variables. If every target occurs, no live variable is
missing (`vars_wp_eq`).

**Theorem** (`freeVariables_of_calculate`). So it is with the variables that a report lists. In
particular it lists none that every path assigns before reading it.
-/

namespace WeakestPre

namespace Stmt

/-! ## Backwards -/

mutual

/-- The variables that are live before a statement, from those that are live behind it. -/
def live : Stmt → Finset String → Finset String
  | .assign x e, behind => behind.erase x ∪ e.vars
  | .seq body, behind => liveAll body behind
  | .cond b s t, behind => b.vars ∪ (live s behind ∪ live t behind)

def liveAll : List Stmt → Finset String → Finset String
  | [], behind => behind
  | s :: rest, behind => live s (liveAll rest behind)

end

/-! ## Along paths -/

/-- What a path does to a variable. -/
inductive Access where
  | read (x : String)
  | write (x : String)
  deriving DecidableEq, Repr

/-- An evaluation reads the variables of the expression. -/
def reads (e : Expr) : List Access := e.occurrences.map .read

mutual

/-- The accesses along each path through a statement. -/
def paths : Stmt → List (List Access)
  | .assign x e => [reads e ++ [.write x]]
  | .seq body => pathsAll body
  | .cond b s t => (paths s ++ paths t).map (reads b ++ ·)

def pathsAll : List Stmt → List (List Access)
  | [] => [[]]
  | s :: rest => (paths s).flatMap fun p => (pathsAll rest).map (p ++ ·)

end

mutual

theorem paths_ne_nil : ∀ S : Stmt, S.paths ≠ []
  | .assign x e => List.cons_ne_nil _ _
  | .seq body => pathsAll_ne_nil body
  | .cond b s t => by simp [paths, paths_ne_nil s]

theorem pathsAll_ne_nil : ∀ body : List Stmt, pathsAll body ≠ []
  | [] => List.cons_ne_nil _ _
  | s :: rest => by
    obtain ⟨p, hp⟩ := List.exists_mem_of_ne_nil _ (paths_ne_nil s)
    obtain ⟨q, hq⟩ := List.exists_mem_of_ne_nil _ (pathsAll_ne_nil rest)
    refine List.ne_nil_of_mem (a := p ++ q) ?_
    exact List.mem_flatMap.2 ⟨p, hp, List.mem_map_of_mem hq⟩

end

/-- The path needs the value that `x` has before it: it reads `x` before any assignment to it, or
does not assign to it and `x` is needed behind the path. -/
def Needs (x : String) (behind : Prop) : List Access → Prop
  | [] => behind
  | .read y :: p => x = y ∨ Needs x behind p
  | .write y :: p => x ≠ y ∧ Needs x behind p

/-- The path assigns to `x`, and does not read `x` before. -/
def AssignsFirst (x : String) (p : List Access) : Prop :=
  ∃ before later, p = before ++ .write x :: later ∧ .read x ∉ before

variable {x : String} {behind : Prop}

theorem needs_append (p q : List Access) :
    Needs x behind (p ++ q) ↔ Needs x (Needs x behind q) p := by
  induction p with
  | nil => rfl
  | cons access p ih => cases access <;> simp only [List.cons_append, Needs, ih]

theorem needs_reads (e : Expr) (p : List Access) :
    Needs x behind (reads e ++ p) ↔ x ∈ e.vars ∨ Needs x behind p := by
  rw [Expr.mem_vars, reads]
  induction e.occurrences with
  | nil => simp
  | cons y names ih =>
    simp only [List.map_cons, List.cons_append, Needs, ih, List.mem_cons, or_assoc]

/-- What is needed behind the path is needed on one of the ways to go on from there. -/
theorem needs_exists {ways : List (List Access)} (hways : ways ≠ [])
    (next : List Access → Prop) (p : List Access) :
    Needs x (∃ q ∈ ways, next q) p ↔ ∃ q ∈ ways, Needs x (next q) p := by
  induction p with
  | nil => rfl
  | cons access p ih =>
    cases access with
    | read y =>
      simp only [Needs, ih]
      by_cases hxy : x = y
      · -- the path itself decides, whichever way it goes on
        obtain ⟨q, hq⟩ := List.exists_mem_of_ne_nil _ hways
        simp only [hxy, true_or, true_iff]
        exact ⟨q, hq, trivial⟩
      · simp only [hxy, false_or]
    | write y =>
      simp only [Needs, ih]
      constructor
      · rintro ⟨hxy, q, hq, h⟩
        exact ⟨q, hq, hxy, h⟩
      · rintro ⟨q, hq, hxy, h⟩
        exact ⟨hxy, q, hq, h⟩

theorem not_needs_of_assignsFirst {p : List Access} (h : AssignsFirst x p) :
    ¬ Needs x behind p := by
  obtain ⟨before, later, rfl, hread⟩ := h
  induction before with
  | nil => exact fun h => h.1 rfl
  | cons access before ih =>
    obtain ⟨hne, hbefore⟩ := not_or.1 (mt List.mem_cons.2 hread)
    cases access with
    | read y =>
      rintro (rfl | h)
      · exact hne rfl
      · exact ih hbefore h
    | write y => exact fun h => ih hbefore h.2

mutual

/-- **The live variables are those that some path needs.** -/
theorem mem_live_iff : ∀ (S : Stmt) {L : Finset String},
    x ∈ S.live L ↔ ∃ p ∈ S.paths, Needs x (x ∈ L) p
  | .assign y e, L => by
    simp only [live, paths, List.mem_singleton, exists_eq_left, needs_reads, Needs,
      Finset.mem_union, Finset.mem_erase]
    exact or_comm
  | .seq body, L => mem_liveAll_iff body
  | .cond b s t, L => by
    -- what the guard reads is needed on any path, so one path is enough
    obtain ⟨p₀, hp₀⟩ := List.exists_mem_of_ne_nil _ (paths_ne_nil s)
    rw [live, Finset.mem_union, Finset.mem_union, mem_live_iff s, mem_live_iff t]
    simp only [paths, List.mem_map, List.mem_append]
    constructor
    · rintro (hb | ⟨p, hp, h⟩ | ⟨p, hp, h⟩)
      · exact ⟨_, ⟨p₀, .inl hp₀, rfl⟩, (needs_reads b p₀).2 (.inl hb)⟩
      · exact ⟨_, ⟨p, .inl hp, rfl⟩, (needs_reads b p).2 (.inr h)⟩
      · exact ⟨_, ⟨p, .inr hp, rfl⟩, (needs_reads b p).2 (.inr h)⟩
    · rintro ⟨_, ⟨p, hp, rfl⟩, h⟩
      rcases (needs_reads b p).1 h with hb | h
      · exact .inl hb
      · rcases hp with hp | hp
        · exact .inr (.inl ⟨p, hp, h⟩)
        · exact .inr (.inr ⟨p, hp, h⟩)

theorem mem_liveAll_iff : ∀ (body : List Stmt) {L : Finset String},
    x ∈ liveAll body L ↔ ∃ p ∈ pathsAll body, Needs x (x ∈ L) p
  | [], L => by simp [liveAll, pathsAll, Needs]
  | s :: rest, L => by
    rw [liveAll, mem_live_iff s, pathsAll]
    simp only [mem_liveAll_iff rest, needs_exists (pathsAll_ne_nil rest), List.mem_flatMap,
      List.mem_map]
    constructor
    · rintro ⟨p, hp, q, hq, h⟩
      exact ⟨p ++ q, ⟨p, hp, q, hq, rfl⟩, (needs_append p q).2 h⟩
    · rintro ⟨_, ⟨p, hp, q, hq, rfl⟩, h⟩
      exact ⟨p, hp, q, hq, (needs_append p q).1 h⟩

end

/-! ## Variables of preconditions

The bound is proved for every set that contains the variables of the postcondition. A sequence needs
this: the set that its first statement gets is only a bound itself. -/

theorem vars_assign_subset (x : String) (e R : Expr) :
    (Expr.guarded e.conditions (R.subst x e)).vars ⊆ R.vars.erase x ∪ e.vars := by
  intro y hy
  rw [Finset.mem_union, Finset.mem_erase]
  rcases Expr.mem_vars_guarded.1 hy with ⟨c, hc, hy⟩ | hy
  · exact .inr (Expr.vars_subset_of_mem_conditions hc hy)
  · rcases Expr.mem_vars_subst.1 hy with ⟨hy, hne⟩ | ⟨-, hy⟩
    · exact .inl ⟨hne, hy⟩
    · exact .inr hy

theorem vars_assign_eq {x : String} {R : Expr} (hx : x ∈ R.vars) (e : Expr) :
    (Expr.guarded e.conditions (R.subst x e)).vars = R.vars.erase x ∪ e.vars := by
  refine Finset.Subset.antisymm (vars_assign_subset x e R) ?_
  intro y hy
  rw [Expr.mem_vars_guarded, Expr.mem_vars_subst]
  rcases Finset.mem_union.1 hy with hy | hy
  · obtain ⟨hne, hy⟩ := Finset.mem_erase.1 hy
    exact .inr (.inl ⟨hy, hne⟩)
  · exact .inr (.inr ⟨hx, hy⟩)

mutual

/-- **The variables of a precondition are live.** -/
theorem vars_wp_subset : ∀ (S : Stmt) {R : Expr} {L : Finset String}, R.vars ⊆ L →
    (S.wp R).vars ⊆ S.live L
  | .assign x e, R, L, h => by
    refine (vars_assign_subset x e R).trans ?_
    exact Finset.union_subset_union (Finset.erase_subset_erase x h) Finset.Subset.rfl
  | .seq body, R, L, h => vars_wpAll_subset body h
  | .cond b s t, R, L, h => by
    rw [wp, Expr.vars_choice, live]
    refine Finset.union_subset_union Finset.Subset.rfl ?_
    exact Finset.union_subset_union (vars_wp_subset s h) (vars_wp_subset t h)

theorem vars_wpAll_subset : ∀ (body : List Stmt) {R : Expr} {L : Finset String}, R.vars ⊆ L →
    (wpAll body R).vars ⊆ liveAll body L
  | [], _, _, h => h
  | s :: rest, _, _, h => vars_wp_subset s (vars_wpAll_subset rest h)

end

/-- Every assignment is reached with a postcondition in which its target occurs. -/
def TargetsOccur (S : Stmt) (R : Expr) : Prop :=
  ∀ a x e Q, Reaches S R a (.assign x e) Q → x ∈ Q.freeVariables

namespace TargetsOccur

variable {s t : Stmt} {body : List Stmt} {b R : Expr}

theorem thenBranch (h : TargetsOccur (.cond b s t) R) : TargetsOccur s R :=
  fun a x e Q hreach => h (0 :: a) x e Q (.thenBranch hreach)

theorem elseBranch (h : TargetsOccur (.cond b s t) R) : TargetsOccur t R :=
  fun a x e Q hreach => h (1 :: a) x e Q (.elseBranch hreach)

theorem first (h : TargetsOccur (.seq (s :: body)) R) : TargetsOccur s (wpAll body R) :=
  fun a x e Q hreach => h (0 :: a) x e Q (.element rfl hreach)

theorem rest (h : TargetsOccur (.seq (s :: body)) R) : TargetsOccur (.seq body) R := by
  intro a x e Q hreach
  cases hreach with
  | @element _ i _ _ _ _ a hs hreach => exact h ((i + 1) :: a) x e Q (.element hs hreach)

end TargetsOccur

mutual

/-- **No live variable is missing** if all targets occur. -/
theorem vars_wp_eq : ∀ (S : Stmt) {R : Expr}, TargetsOccur S R → (S.wp R).vars = S.live R.vars
  | .assign x e, R, h => by
    have hx : x ∈ R.vars := Expr.mem_freeVariables_iff_mem_vars.1 (h [] x e R .here)
    exact vars_assign_eq hx e
  | .seq body, R, h => vars_wpAll_eq body h
  | .cond b s t, R, h => by
    rw [wp, Expr.vars_choice, live, vars_wp_eq s h.thenBranch, vars_wp_eq t h.elseBranch]

theorem vars_wpAll_eq : ∀ (body : List Stmt) {R : Expr}, TargetsOccur (.seq body) R →
    (wpAll body R).vars = liveAll body R.vars
  | [], R, h => rfl
  | s :: rest, R, h => by
    rw [wpAll, liveAll, vars_wp_eq s h.first, vars_wpAll_eq rest h.rest]

end

/-- A visit of an assignment whose target occurs in the postcondition, or of a conditional. -/
def Visit.targetOccurs (v : Visit) : Bool :=
  match v.node with
  | .assign x _ => v.post.freeVariables.contains x
  | _ => true

theorem targetsOccur_iff {S : Stmt} {R : Expr} :
    TargetsOccur S R ↔ (S.visits R).all Visit.targetOccurs = true := by
  rw [List.all_eq_true]
  constructor
  · intro h v hv
    have hreach := ((mem_visits_iff S R v).1 hv).2
    obtain ⟨a, n, Q⟩ := v
    cases n with
    | assign x e => exact List.contains_iff_mem.2 (h a x e Q hreach)
    | seq | cond => rfl
  · intro h a x e Q hreach
    exact List.contains_iff_mem.1 (h ⟨a, .assign x e, Q⟩ ((mem_visits_iff S R _).2 ⟨rfl, hreach⟩))

instance (S : Stmt) (R : Expr) : Decidable (TargetsOccur S R) :=
  decidable_of_iff _ targetsOccur_iff.symm

end Stmt

open Stmt

/-! ## Reported variables -/

/-- **The reported variables are live.** A calculation reports variables of the precondition in
increasing order. All of them are live before the program, and if all targets occur, no live one is
missing. A variable that every path assigns before reading it is not among them. -/
theorem freeVariables_of_calculate {limit : Nat} {program : Input Stmt} {post : Input Expr}
    {S : Stmt} {R : Expr} (hS : program.program limit = .ok S)
    (hR : post.postcondition limit = .ok R) (log : StepLog) :
    ∃ report log', calculate limit program post log = .ok (report, log') ∧
      report.precondition = S.wp R ∧ report.freeVariables.Pairwise (· < ·) ∧
      report.freeVariables.toFinset ⊆ S.live R.freeVariables.toFinset ∧
      (TargetsOccur S R → report.freeVariables.toFinset = S.live R.freeVariables.toFinset) ∧
      ∀ x, (∀ p ∈ S.paths, AssignsFirst x p) → x ∉ report.freeVariables := by
  have hwp : (S.derive R).1 = S.wp R := congrArg Prod.fst (derive_eq S R)
  refine ⟨_, _, calculate_eq_ok hS hR log, hwp, Expr.pairwise_freeVariables _, ?_, ?_, ?_⟩
  · rw [Report.freeVariables, hwp, Expr.toFinset_freeVariables, Expr.toFinset_freeVariables]
    exact vars_wp_subset S Finset.Subset.rfl
  · intro h
    rw [Report.freeVariables, hwp, Expr.toFinset_freeVariables, Expr.toFinset_freeVariables]
    exact vars_wp_eq S h
  · intro x hpaths hx
    rw [Report.freeVariables, hwp, Expr.mem_freeVariables_iff_mem_vars] at hx
    obtain ⟨p, hp, hneeds⟩ := (mem_live_iff S).1 (vars_wp_subset S Finset.Subset.rfl hx)
    exact not_needs_of_assignsFirst (hpaths p hp) hneeds

/-- `t := a / b; if (t > 0) a := t else c := t`. -/
def temporaryQuotient : Stmt :=
  .seq [.assign "t" (.binary .div (.var "a") (.var "b")),
    .cond (.binary .gt (.var "t") .zero) (.assign "a" (.var "t")) (.assign "c" (.var "t"))]

/-- Both paths assign `t` first, so the precondition is about the other variables only. -/
theorem freeVariables_of_calculate_temporaryQuotient :
    let post : Expr := .binary .gt (.var "a") (.var "c")
    TargetsOccur temporaryQuotient post ∧
      (∀ p ∈ temporaryQuotient.paths, AssignsFirst "t" p) ∧
      ∃ report log', calculate 100 (.tree temporaryQuotient) (.tree post) = .ok (report, log') ∧
        report.freeVariables.toFinset = {"a", "b", "c"} ∧ "t" ∉ report.freeVariables := by
  intro post
  have htargets : TargetsOccur temporaryQuotient post := by decide +kernel
  have hlive : temporaryQuotient.live post.freeVariables.toFinset = {"a", "b", "c"} := by
    decide +kernel
  have hpaths : ∀ p ∈ temporaryQuotient.paths, AssignsFirst "t" p := by
    intro p hp
    have hp : p ∈ [[.read "a", .read "b", .write "t", .read "t", .read "t", .write "a"],
        [.read "a", .read "b", .write "t", .read "t", .read "t", .write "c"]] := hp
    simp only [List.mem_cons, List.not_mem_nil, or_false] at hp
    rcases hp with rfl | rfl
    · exact ⟨[.read "a", .read "b"], _, rfl, by decide⟩
    · exact ⟨[.read "a", .read "b"], _, rfl, by decide⟩
  have hS : (Input.tree temporaryQuotient).program 100 = .ok temporaryQuotient := rfl
  have hR : (Input.tree post).postcondition 100 = .ok post := rfl
  obtain ⟨report, log', hcalculate, -, -, -, heq, hfirst⟩ :=
    freeVariables_of_calculate hS hR .empty
  exact ⟨htargets, hpaths, report, log', hcalculate, (heq htargets).trans hlive, hfirst "t" hpaths⟩

end WeakestPre
