import WeakestPre.Precondition
import WeakestPre.Stack

/-!
# Derivations

A derivation lists the applications of the rules for assignments and conditionals in the order in
which a derivation by hand finds them: the last statement of a sequence first, the branches of a
conditional before the conditional itself.

**On a stack** (`deriveWithin`). A derivation calls itself for the statements within a statement and
writes out the statement of each step. Where the stack has no room for a step it is broken off, and
the steps that were found before are all that is left of it.
-/

namespace WeakestPre

/-- One application of a rule: `result` is the precondition of `statement` for `post`. -/
structure Step where
  statement : Stmt
  post : Expr
  result : Expr

namespace Step

/-- The text of the statement within the description of a step. -/
def subject : Stmt → String
  | .cond b s t => "if " ++ b.text ++ " then " ++ s.render ++ " else " ++ t.render
  | s => s.render

def description (step : Step) : String :=
  "wp(" ++ subject step.statement ++ ", " ++ step.post.text ++ ") = " ++ step.result.text

end Step

namespace Stmt

mutual

/-- The precondition, and the steps that lead to it. -/
def derive : Stmt → Expr → Expr × List Step
  | .assign x e, post =>
    let result := Expr.guarded e.conditions (post.subst x e)
    (result, [⟨.assign x e, post, result⟩])
  | .seq body, post => deriveAll body post
  | .cond b s t, post =>
    let (p, steps) := derive s post
    let (q, steps') := derive t post
    let result := Expr.choice b p q
    (result, steps ++ steps' ++ [⟨.cond b s t, post, result⟩])

def deriveAll : List Stmt → Expr → Expr × List Step
  | [], post => (post, [])
  | s :: rest, post =>
    let (q, steps) := deriveAll rest post
    let (p, steps') := derive s q
    (p, steps ++ steps')

end

/-- The levels that a step takes: for its formulas, and for the text of its statement. -/
def stepLevels (k : Stack) (s : Stmt) : Nat := max k.derivation.node (s.levels k.writing)

mutual

/-- The precondition and the steps, with `used` levels of the stack taken. There is no precondition
if the derivation is broken off. -/
def deriveWithin (k : Stack) (used : Nat) : Stmt → Expr → Option Expr × List Step
  | .assign x e, post =>
    let result := Expr.guarded e.conditions (post.subst x e)
    if used + stepLevels k (.assign x e) ≤ k.room then
      (some result, [⟨.assign x e, post, result⟩])
    else (none, [])
  | .seq body, post => deriveAllWithin k (used + k.derivation.element) body post
  | .cond b s t, post =>
    match deriveWithin k (used + k.derivation.branch) s post with
    | (none, steps) => (none, steps)
    | (some p, steps) =>
      match deriveWithin k (used + k.derivation.branch) t post with
      | (none, steps') => (none, steps ++ steps')
      | (some q, steps') =>
        let result := Expr.choice b p q
        if used + stepLevels k (.cond b s t) ≤ k.room then
          (some result, steps ++ steps' ++ [⟨.cond b s t, post, result⟩])
        else (none, steps ++ steps')

def deriveAllWithin (k : Stack) (used : Nat) : List Stmt → Expr → Option Expr × List Step
  | [], post => (some post, [])
  | s :: rest, post =>
    match deriveAllWithin k used rest post with
    | (none, steps) => (none, steps)
    | (some q, steps) =>
      let (p?, steps') := deriveWithin k used s q
      (p?, steps ++ steps')

end

end Stmt

end WeakestPre
