import WeakestPre.Precondition

/-!
# Constants and variables of a derivation

The leaves of an expression are its constants and variables (`Expr.leaves`). A statement brings
those of its guards and assigned values, and the variables that it assigns to
(`Stmt.expressions`).

**Nothing new but zero** (`Stmt.AllLeaves.wp`). Substitution moves leaves, the conditions of an
expression compare divisors with zero, and the rules for statements put such formulas together. So
every property of leaves that zero has is handed on from a statement and a postcondition to the
precondition.
-/

namespace WeakestPre

namespace Expr

/-- The constants and variables from left to right. -/
def leaves : Expr → List Expr
  | .unary _ e => leaves e
  | .binary _ l r => leaves l ++ leaves r
  | e => [e]

/-- Every constant and every variable of the expression has the property. -/
def AllLeaves (P : Expr → Prop) (e : Expr) : Prop := ∀ d ∈ e.leaves, P d

variable {P : Expr → Prop} {e l r : Expr}

theorem allLeaves_const {v : Binary64} : (Expr.const v).AllLeaves P ↔ P (.const v) := by
  simp [AllLeaves, leaves]

theorem allLeaves_var {x : String} : (Expr.var x).AllLeaves P ↔ P (.var x) := by
  simp [AllLeaves, leaves]

theorem allLeaves_unary {op : UnaryOp} : (Expr.unary op e).AllLeaves P ↔ e.AllLeaves P := Iff.rfl

theorem allLeaves_binary {op : BinaryOp} :
    (Expr.binary op l r).AllLeaves P ↔ l.AllLeaves P ∧ r.AllLeaves P := by
  simp only [AllLeaves, leaves, List.forall_mem_append]

namespace AllLeaves

theorem mono {Q : Expr → Prop} (h : e.AllLeaves P) (hPQ : ∀ d, P d → Q d) : e.AllLeaves Q :=
  fun d hd => hPQ d (h d hd)

theorem subst (he : e.AllLeaves P) (x : String) (hr : r.AllLeaves P) :
    (e.subst x r).AllLeaves P := by
  induction e with
  | const v => exact he
  | var y =>
    rw [Expr.subst]
    split
    · exact hr
    · exact he
  | unary op e ih => exact allLeaves_unary.2 (ih (allLeaves_unary.1 he))
  | binary op l r ihl ihr =>
    obtain ⟨hl, hr⟩ := allLeaves_binary.1 he
    exact allLeaves_binary.2 ⟨ihl hl, ihr hr⟩

theorem nonzero (he : e.AllLeaves P) (hzero : P zero) : e.nonzero.AllLeaves P :=
  allLeaves_binary.2 ⟨he, allLeaves_const.2 hzero⟩

theorem conditions (he : e.AllLeaves P) (hzero : P zero) : ∀ c ∈ e.conditions, c.AllLeaves P := by
  induction e with
  | const v => simp [Expr.conditions]
  | var x => simp [Expr.conditions]
  | unary op e ih => exact ih (allLeaves_unary.1 he)
  | binary op l r ihl ihr =>
    obtain ⟨hl, hr⟩ := allLeaves_binary.1 he
    have hoperands := List.forall_mem_append.2 ⟨ihl hl, ihr hr⟩
    cases op with
    | div => exact List.forall_mem_cons.2 ⟨hr.nonzero hzero, hoperands⟩
    | add | sub | mul | eq | ne | gt | ge | lt | le | and | or => exact hoperands

theorem guarded {conditions : List Expr} (hconditions : ∀ c ∈ conditions, c.AllLeaves P)
    (he : e.AllLeaves P) : (Expr.guarded conditions e).AllLeaves P := by
  induction conditions with
  | nil => exact he
  | cons c conditions ih =>
    obtain ⟨hc, hrest⟩ := List.forall_mem_cons.1 hconditions
    exact allLeaves_binary.2 ⟨hc, ih hrest⟩

theorem choice {b s t : Expr} (hb : b.AllLeaves P) (hs : s.AllLeaves P) (ht : t.AllLeaves P) :
    (Expr.choice b s t).AllLeaves P :=
  allLeaves_binary.2 ⟨allLeaves_binary.2 ⟨hb, hs⟩, allLeaves_binary.2 ⟨allLeaves_unary.2 hb, ht⟩⟩

end AllLeaves

end Expr

namespace Stmt

mutual

/-- The expressions of a statement. The target of an assignment is one of them. -/
def expressions : Stmt → List Expr
  | .assign x e => [.var x, e]
  | .seq body => expressionsAll body
  | .cond b s t => b :: (expressions s ++ expressions t)

def expressionsAll : List Stmt → List Expr
  | [] => []
  | s :: rest => expressions s ++ expressionsAll rest

end

/-- Every constant and every variable of the statement has the property. -/
def AllLeaves (P : Expr → Prop) (S : Stmt) : Prop := ∀ e ∈ S.expressions, e.AllLeaves P

variable {P : Expr → Prop}

theorem AllLeaves.mono {Q : Expr → Prop} {S : Stmt} (h : S.AllLeaves P) (hPQ : ∀ d, P d → Q d) :
    S.AllLeaves Q :=
  fun e he => (h e he).mono hPQ

theorem allLeaves_assign {x : String} {e : Expr} :
    (Stmt.assign x e).AllLeaves P ↔ P (.var x) ∧ e.AllLeaves P := by
  simp [AllLeaves, expressions, Expr.allLeaves_var]

theorem mem_expressionsAll {e : Expr} {body : List Stmt} :
    e ∈ expressionsAll body ↔ ∃ s ∈ body, e ∈ s.expressions := by
  induction body with
  | nil => simp [expressionsAll]
  | cons s body ih => simp [expressionsAll, ih]

theorem allLeaves_seq {body : List Stmt} :
    (Stmt.seq body).AllLeaves P ↔ ∀ s ∈ body, s.AllLeaves P := by
  simp only [AllLeaves, expressions, mem_expressionsAll]
  constructor
  · exact fun h s hs e he => h e ⟨s, hs, he⟩
  · rintro h e ⟨s, hs, he⟩
    exact h s hs e he

theorem allLeaves_cond {b : Expr} {s t : Stmt} :
    (Stmt.cond b s t).AllLeaves P ↔ b.AllLeaves P ∧ s.AllLeaves P ∧ t.AllLeaves P := by
  simp only [AllLeaves, expressions, List.forall_mem_cons, List.forall_mem_append]

theorem allLeaves_ofList {body : List Stmt} :
    (ofList body).AllLeaves P ↔ ∀ s ∈ body, s.AllLeaves P := by
  match body with
  | [] => exact allLeaves_seq
  | [s] => simp [ofList]
  | s :: t :: rest => exact allLeaves_seq

mutual

/-- **A precondition has no leaves of its own but zero.** -/
theorem AllLeaves.wp (hzero : P Expr.zero) : ∀ {S : Stmt} {R : Expr}, S.AllLeaves P →
    R.AllLeaves P → (S.wp R).AllLeaves P
  | .assign x e, R, hS, hR =>
    have he := (allLeaves_assign.1 hS).2
    .guarded (he.conditions hzero) (hR.subst x he)
  | .seq body, R, hS, hR => AllLeaves.wpAll hzero (allLeaves_seq.1 hS) hR
  | .cond b s t, R, hS, hR => by
    obtain ⟨hb, hs, ht⟩ := allLeaves_cond.1 hS
    exact .choice hb (AllLeaves.wp hzero hs hR) (AllLeaves.wp hzero ht hR)

theorem AllLeaves.wpAll (hzero : P Expr.zero) : ∀ {body : List Stmt} {R : Expr},
    (∀ s ∈ body, s.AllLeaves P) → R.AllLeaves P → (wpAll body R).AllLeaves P
  | [], R, _, hR => hR
  | s :: rest, R, hbody, hR => by
    obtain ⟨hs, hrest⟩ := List.forall_mem_cons.1 hbody
    exact AllLeaves.wp hzero hs (AllLeaves.wpAll hzero hrest hR)

end

end Stmt

end WeakestPre
