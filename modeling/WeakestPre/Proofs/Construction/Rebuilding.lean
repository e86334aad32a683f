import WeakestPre.Proofs.Expr.Replacement
import WeakestPre.Proofs.Grammar.Origin
import WeakestPre.Proofs.Stack

/-!
# Calculating with checks

Preconditions are put together freely, and their steps are recorded when all of them are known. Here
is a calculation that takes nothing for granted: copies, substitutions, conditions and preconditions
are made by the builders, node by node, and each step is recorded as soon as it is found. If a
builder refused a part, or the log a line, then the calculation would stop there and leave a
half-written log behind (`Recording`).

**No check fails** (`Checked.wp_yields`). Well-formed trees are built again as they are, and all
that a calculation makes of well-formed trees is well-formed. All that can stop a calculation
halfway is the stack.

**Theorem** (`calculateWithin_outcome`). A calculation is refused for a text that cannot be read,
with the log as it was, or adds all its steps to the log, or is broken off by the stack. Then some
of the steps are in the log and some are not (`calculateWithin_deepBranches`).
-/

namespace WeakestPre

namespace Checked

open Construction

/-! ## Trees made by the builders -/

/-- The expression built anew, with the variables that `f` gives. -/
def rebuild (f : String → Except ConstructionError Expr) : Expr → Except ConstructionError Expr
  | .const v => constant (.real v)
  | .var x => f x
  | .unary op e => do
    let e ← rebuild f e
    unary (.text op.symbol) (.expr e)
  | .binary op l r => do
    let l ← rebuild f l
    let r ← rebuild f r
    binary (.text op.symbol) (.expr l) (.expr r)

def clone (e : Expr) : Except ConstructionError Expr := rebuild (fun x => variableOf (.text x)) e

def subst (e : Expr) (name : String) (replacement : Expr) : Except ConstructionError Expr :=
  rebuild (fun x => if x = name then clone replacement else variableOf (.text x)) e

def nonzero (e : Expr) : Except ConstructionError Expr := do
  let e ← clone e
  let zero ← constant (.int 0)
  binary (.text "!=") (.expr e) (.expr zero)

/-- The condition of a quotient is built after those of its operands, and stands before them. -/
def conditions : Expr → Except ConstructionError (List Expr)
  | .const _ | .var _ => return []
  | .unary _ e => conditions e
  | .binary op l r => do
    let cs ← conditions l
    let ds ← conditions r
    if op = .div then
      let c ← nonzero r
      return c :: (cs ++ ds)
    else return cs ++ ds

def and (l r : Expr) : Except ConstructionError Expr := binary (.text "&&") (.expr l) (.expr r)

/-- The conjunction is built from the last condition on. -/
def guarded (conditions : List Expr) (e : Expr) : Except ConstructionError Expr :=
  conditions.foldrM and e

def choice (b s t : Expr) : Except ConstructionError Expr := do
  let yes ← and (← clone b) s
  let no ← unary (.text "!") (.expr (← clone b))
  let otherwise ← and no t
  binary (.text "||") (.expr yes) (.expr otherwise)

mutual

def cloneStmt : Stmt → Except ConstructionError Stmt
  | .assign x e => do
    let e ← clone e
    Construction.assignment (.text x) (.expr e)
  | .seq body => do
    let body ← cloneAll body
    sequence (some (body.map .stmt))
  | .cond b s t => do
    let b ← clone b
    let s ← cloneStmt s
    let t ← cloneStmt t
    Construction.conditional (.expr b) (.stmt s) (.stmt t)

def cloneAll : List Stmt → Except ConstructionError (List Stmt)
  | [] => return []
  | s :: rest => do
    let s ← cloneStmt s
    let rest ← cloneAll rest
    return s :: rest

end

/-! ## Recording on the way -/

/-- Why a calculation may stop. -/
inductive Failure where
  | unreadable (e : SyntaxError)
  | fault (f : Fault)
  | log (e : LogError)
  | exhausted

/-- A calculation with a log, which keeps what has been recorded when the calculation stops. -/
abbrev Recording := ExceptT Failure (StateM StepLog)

namespace Recording

variable {α β : Type}

/-- The answer and the log at the end. -/
def runOn (c : Recording α) (log : StepLog) : Except Failure α × StepLog :=
  (StateT.run (ExceptT.run c) log).run

def built : Except ConstructionError α → Recording α
  | .ok a => return a
  | .error e => throw (.fault (.construction e))

/-- What a checked reader came to. -/
def read : Except Fault (Except SyntaxError α) → Recording α
  | .ok (.ok a) => return a
  | .ok (.error e) => throw (.unreadable e)
  | .error f => throw (.fault f)

/-- Records a step, if the stack has room for it. -/
def record (k : Stack) (used : Nat) (step : Step) : Recording Unit :=
  if used + step.statement.stepLevels k ≤ k.room then do
    match (← get).record step.description with
    | .ok log => set log
    | .error e => throw (.log e)
  else throw .exhausted

/-- Whatever the log is, these steps are added, and then there is the answer or the stack is
exhausted. -/
def Yields (c : Recording α) (answer? : Option α) (steps : List Step) : Prop :=
  ∀ log, c.runOn log =
    (answer?.elim (.error .exhausted) .ok, ⟨log.descriptions ++ steps.map Step.description⟩)

theorem runOn_bind_ok {c : Recording α} {f : α → Recording β} {a : α} {log log' : StepLog}
    (h : c.runOn log = (.ok a, log')) : (c >>= f).runOn log = (f a).runOn log' := by
  have h' : c log = (Except.ok a, log') := h
  simp only [runOn, ExceptT.run, StateT.run, bind, ExceptT.bind, ExceptT.mk, StateT.bind, h']
  rfl

theorem runOn_bind_error {c : Recording α} {f : α → Recording β} {e : Failure}
    {log log' : StepLog} (h : c.runOn log = (.error e, log')) :
    (c >>= f).runOn log = (.error e, log') := by
  have h' : c log = (Except.error e, log') := h
  simp only [runOn, ExceptT.run, StateT.run, bind, ExceptT.bind, ExceptT.mk, StateT.bind, h']
  rfl

namespace Yields

variable {k : Stack} {used : Nat} {step : Step}

theorem pure (a : α) : Yields (Pure.pure a) (some a) [] := fun log => by simp [runOn]

theorem bind {c : Recording α} {f : α → Recording β} {a : α} {b? : Option β}
    {steps steps' : List Step} (h : Yields c (some a) steps) (h' : Yields (f a) b? steps') :
    Yields (c >>= f) b? (steps ++ steps') := by
  intro log
  rw [runOn_bind_ok (h log), h']
  simp

/-- What is exhausted does not go on. -/
theorem exhausted {c : Recording α} {f : α → Recording β} {steps : List Step}
    (h : Yields c none steps) : Yields (c >>= f) none steps :=
  fun log => runOn_bind_error (h log)

theorem built {x : Except ConstructionError α} {a : α} (h : x = .ok a) :
    Yields (Recording.built x) (some a) [] := by
  rw [h]
  exact Yields.pure a

theorem record (h : used + step.statement.stepLevels k ≤ k.room) :
    Yields (Recording.record k used step) (some ()) [step] := by
  intro log
  have hget : runOn get log = (.ok log, log) := rfl
  rw [Recording.record, if_pos h, runOn_bind_ok hget,
    StepLog.record_eq_ok step.isBlankText_description]
  rfl

theorem record_exhausted (h : ¬ used + step.statement.stepLevels k ≤ k.room) :
    Yields (Recording.record k used step) none [] := by
  intro log
  rw [Recording.record, if_neg h]
  simp [runOn]

end Yields

end Recording

open Recording

mutual

/-- The precondition, with `used` levels of the stack taken. -/
def wp (k : Stack) (used : Nat) : Stmt → Expr → Recording Expr
  | .assign x e, post => do
    let replaced ← built (subst post x e)
    let conditions ← built (conditions e)
    let result ← built (guarded conditions replaced)
    record k used ⟨.assign x e, post, result⟩
    return result
  | .seq body, post => wpAll k (used + k.derivation.element) body post
  | .cond b s t, post => do
    let p ← wp k (used + k.derivation.branch) s post
    let q ← wp k (used + k.derivation.branch) t post
    let result ← built (choice b p q)
    record k used ⟨.cond b s t, post, result⟩
    return result

def wpAll (k : Stack) (used : Nat) : List Stmt → Expr → Recording Expr
  | [], post => return post
  | s :: rest, post => do
    let q ← wpAll k used rest post
    wp k used s q

end

def program (limit : Nat) : Input Stmt → Recording Stmt
  | .text s => read (readStmt limit "<program>" s)
  | .tree S => return S

def postcondition (limit : Nat) : Input Expr → Recording Expr
  | .text s => read (readExpr limit "<postcondition>" s)
  | .tree e => return e

def calculate (limit : Nat) (k : Stack) (input : Input Stmt) (post : Input Expr) :
    Recording Report := do
  let S ← program limit input
  let R ← postcondition limit post
  let result ← wp k 0 S R
  return ⟨S, R, result, (← get).lines⟩

/-- What a calculation came to, as it is said here. -/
def outcome {α : Type} : Option (Except CalculationError α) → Except Failure α
  | some (.ok a) => .ok a
  | some (.error (.unreadable e)) => .error (.unreadable e)
  | some (.error (.log e)) => .error (.log e)
  | none => .error .exhausted

/-! ## No builder refuses -/

variable {e r : Expr} {S T : Stmt}

theorem rebuild_eq {f : String → Except ConstructionError Expr} (x : String) (r : Expr)
    (h : e.AllLeaves fun d => ∀ y, d = .var y → f y = .ok (d.subst x r)) :
    rebuild f e = .ok (e.subst x r) := by
  induction e with
  | const v => rfl
  | var y => exact Expr.allLeaves_var.1 h y rfl
  | unary op e ih =>
    rw [rebuild, Expr.subst, ih (Expr.allLeaves_unary.1 h), ok_bind, unary_symbol]
  | binary op l r ihl ihr =>
    obtain ⟨hl, hr⟩ := Expr.allLeaves_binary.1 h
    rw [rebuild, Expr.subst, ihl hl, ihr hr, ok_bind, ok_bind, binary_symbol]

theorem clone_eq (h : e.WellFormed) : clone e = .ok e := by
  have hleaves : e.AllLeaves fun d => ∀ y, d = .var y →
      variableOf (.text y) = .ok (d.subst "" (.var "")) := by
    refine h.mono ?_
    rintro d hd y rfl
    rw [Expr.subst_self]
    exact variableOf_name hd
  rw [clone, rebuild_eq "" (.var "") hleaves, Expr.subst_self]

theorem subst_eq (he : e.WellFormed) (x : String) (hr : r.WellFormed) :
    subst e x r = .ok (e.subst x r) := by
  refine rebuild_eq x r (he.mono ?_)
  rintro d hd y rfl
  rw [Expr.subst]
  split
  · exact clone_eq hr
  · exact variableOf_name hd

theorem nonzero_eq (h : e.WellFormed) : nonzero e = .ok e.nonzero := by
  rw [nonzero, clone_eq h, constant_zero]
  rfl

theorem conditions_eq (h : e.WellFormed) : conditions e = .ok e.conditions := by
  induction e with
  | const | var => rfl
  | unary op e ih => exact ih (Expr.allLeaves_unary.1 h)
  | binary op l r ihl ihr =>
    obtain ⟨hl, hr⟩ := Expr.allLeaves_binary.1 h
    rw [conditions, ihl hl, ihr hr]
    cases op with
    | div =>
      rw [ok_bind, ok_bind, if_pos rfl, nonzero_eq hr]
      rfl
    | add | sub | mul | eq | ne | gt | ge | lt | le | and | or => rfl

theorem guarded_eq (conditions : List Expr) (e : Expr) :
    guarded conditions e = .ok (Expr.guarded conditions e) := by
  induction conditions with
  | nil => rfl
  | cons c conditions ih =>
    have hrest : conditions.foldrM and e = .ok (Expr.guarded conditions e) := ih
    rw [guarded, List.foldrM_cons, hrest]
    rfl

theorem choice_eq {b : Expr} (hb : b.WellFormed) (s t : Expr) :
    choice b s t = .ok (Expr.choice b s t) := by
  rw [choice, clone_eq hb]
  rfl

mutual

theorem cloneStmt_eq : ∀ {S : Stmt}, S.WellFormed → cloneStmt S = .ok S
  | .assign x e, h => by
    obtain ⟨hx, he⟩ := Stmt.wellFormed_assign.1 h
    rw [cloneStmt, clone_eq he, ok_bind, assignment_name hx]
  | .seq body, h => by
    obtain ⟨hne, hbody⟩ := Stmt.wellFormed_seq.1 h
    rw [cloneStmt, cloneAll_eq hbody, ok_bind, sequence_stmts hne]
  | .cond b s t, h => by
    obtain ⟨hb, hs, ht⟩ := Stmt.wellFormed_cond.1 h
    rw [cloneStmt, clone_eq hb, cloneStmt_eq hs, cloneStmt_eq ht, ok_bind, ok_bind, ok_bind,
      conditional_parts]

theorem cloneAll_eq : ∀ {body : List Stmt}, (∀ s ∈ body, s.WellFormed) → cloneAll body = .ok body
  | [], _ => rfl
  | s :: body, h => by
    obtain ⟨hs, hbody⟩ := List.forall_mem_cons.1 h
    rw [cloneAll, cloneStmt_eq hs, cloneAll_eq hbody]
    rfl

end

/-! ## Only the stack stops a calculation -/

theorem wellFormed_deriveAll {body : List Stmt} {R : Expr} (hbody : ∀ s ∈ body, s.WellFormed)
    (hR : R.WellFormed) : (Stmt.deriveAll body R).1.WellFormed := by
  rw [Stmt.deriveAll_eq 0]
  exact Stmt.AllLeaves.wpAll trivial (fun s hs => (hbody s hs).named) hR

mutual

/-- **Calculating with checks finds the same steps**, and each of them is recorded. -/
theorem wp_yields (k : Stack) : ∀ {S : Stmt} (used : Nat) {R : Expr}, S.WellFormed →
    R.WellFormed → Yields (wp k used S R) (S.deriveWithin k used R).1 (S.deriveWithin k used R).2
  | .assign x e, used, R, hS, hR => by
    have he := (Stmt.wellFormed_assign.1 hS).2
    rw [wp, Stmt.deriveWithin]
    refine (Yields.built (subst_eq hR x he)).bind <| (Yields.built (conditions_eq he)).bind <|
      (Yields.built (guarded_eq _ _)).bind ?_
    by_cases hroom : used + (Stmt.assign x e).stepLevels k ≤ k.room
    · rw [if_pos hroom]
      exact (Yields.record hroom).bind (.pure _)
    · rw [if_neg hroom]
      exact (Yields.record_exhausted hroom).exhausted
  | .seq body, used, R, hS, hR => by
    rw [wp, Stmt.deriveWithin]
    exact wpAll_yields k _ (Stmt.wellFormed_seq.1 hS).2 hR
  | .cond b s t, used, R, hS, hR => by
    obtain ⟨hb, hs, ht⟩ := Stmt.wellFormed_cond.1 hS
    have hthen := wp_yields k (used + k.derivation.branch) hs hR
    have helse := wp_yields k (used + k.derivation.branch) ht hR
    rw [wp, Stmt.deriveWithin]
    rcases hds : s.deriveWithin k (used + k.derivation.branch) R with ⟨_ | p, steps⟩
    · exact (hds ▸ hthen).exhausted
    rcases hdt : t.deriveWithin k (used + k.derivation.branch) R with ⟨_ | q, steps'⟩
    · exact (hds ▸ hthen).bind (hdt ▸ helse).exhausted
    dsimp only
    by_cases hroom : used + (Stmt.cond b s t).stepLevels k ≤ k.room
    · rw [if_pos hroom, List.append_assoc]
      exact (hds ▸ hthen).bind <| (hdt ▸ helse).bind <|
        (Yields.built (choice_eq hb p q)).bind <| (Yields.record hroom).bind (.pure _)
    · rw [if_neg hroom, ← List.append_nil steps']
      exact (hds ▸ hthen).bind <| (hdt ▸ helse).bind <|
        (Yields.built (choice_eq hb p q)).bind (Yields.record_exhausted hroom).exhausted

theorem wpAll_yields (k : Stack) : ∀ {body : List Stmt} (used : Nat) {R : Expr},
    (∀ s ∈ body, s.WellFormed) → R.WellFormed → Yields (wpAll k used body R)
      (Stmt.deriveAllWithin k used body R).1 (Stmt.deriveAllWithin k used body R).2
  | [], used, R, _, _ => .pure R
  | s :: rest, used, R, hbody, hR => by
    obtain ⟨hs, hrest⟩ := List.forall_mem_cons.1 hbody
    have hyields := wpAll_yields k used hrest hR
    rw [wpAll, Stmt.deriveAllWithin]
    rcases hd : Stmt.deriveAllWithin k used rest R with ⟨_ | q, steps⟩
    · exact (hd ▸ hyields).exhausted
    · have hq : q.WellFormed := by
        rw [Stmt.eq_of_deriveAllWithin hd]
        exact wellFormed_deriveAll hrest hR
      exact (hd ▸ hyields).bind (wp_yields k used hs hq)

end

/-! ## Calculations -/

/-- The checked readers find no fault, so an input is what it is read as or its syntax error. -/
theorem program_eq (limit : Nat) (input : Input Stmt) :
    program limit input = read (.ok (input.program limit)) := by
  cases input with
  | text s =>
    rw [program, (ofText_eq limit "<program>" s).2]
    rfl
  | tree S => rfl

theorem postcondition_eq (limit : Nat) (post : Input Expr) :
    postcondition limit post = read (.ok (post.postcondition limit)) := by
  cases post with
  | text s =>
    rw [postcondition, (ofText_eq limit "<postcondition>" s).1]
    rfl
  | tree e => rfl

variable {limit : Nat} {input : Input Stmt} {post : Input Expr} {R : Expr}

theorem wellFormed_program (hbuilt : ∀ T, input = .tree T → Built (.stmt T))
    (h : input.program limit = .ok S) : S.WellFormed := by
  cases input with
  | text s => exact Stmt.wellFormed_of_ofText h
  | tree T =>
    obtain rfl := Except.ok.inj h
    exact (hbuilt T rfl).wellFormed

theorem wellFormed_postcondition (hbuilt : ∀ e, post = .tree e → Built (.expr e))
    (h : post.postcondition limit = .ok R) : R.WellFormed := by
  cases post with
  | text s => exact Expr.wellFormed_of_ofText h
  | tree e =>
    obtain rfl := Except.ok.inj h
    exact (hbuilt e rfl).wellFormed

/-- **Calculating with checks comes to the same**, on texts and on all trees that can be built. -/
theorem runOn_calculate (k : Stack) (hinput : ∀ S, input = .tree S → Built (.stmt S))
    (hpost : ∀ R, post = .tree R → Built (.expr R)) (log : StepLog) :
    (calculate limit k input post).runOn log =
      (outcome (calculateWithin limit k input post log).1,
        (calculateWithin limit k input post log).2) := by
  cases hS : input.program limit with
  | error e =>
    have hprogram : (program limit input).runOn log = (.error (.unreadable e), log) := by
      rw [program_eq, hS]
      rfl
    rw [calculate, runOn_bind_error hprogram, calculateWithin_of_unreadable (.inl hS)]
    rfl
  | ok S =>
    have hprogram : (program limit input).runOn log = (.ok S, log) := by
      rw [program_eq, hS]
      rfl
    rw [calculate, runOn_bind_ok hprogram]
    cases hR : post.postcondition limit with
    | error e =>
      have hpostcondition :
          (postcondition limit post).runOn log = (.error (.unreadable e), log) := by
        rw [postcondition_eq, hR]
        rfl
      rw [runOn_bind_error hpostcondition, calculateWithin_of_unreadable (.inr ⟨⟨S, hS⟩, hR⟩)]
      rfl
    | ok R =>
      have hpostcondition : (postcondition limit post).runOn log = (.ok R, log) := by
        rw [postcondition_eq, hR]
        rfl
      have hyields := wp_yields k 0 (wellFormed_program hinput hS)
        (wellFormed_postcondition hpost hR) log
      rw [runOn_bind_ok hpostcondition, calculateWithin_eq hS hR]
      rcases hd : S.deriveWithin k 0 R with ⟨_ | result, steps⟩
      · rw [hd] at hyields
        exact runOn_bind_error hyields
      · rw [hd] at hyields
        rw [runOn_bind_ok hyields]
        rfl

end Checked

/-- The program `x := 1 / y`. -/
def reciprocal : Stmt := .assign "x" (.binary .div (.const ⟨0x3ff0000000000000⟩) (.var "y"))

end WeakestPre
