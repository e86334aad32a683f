import WeakestPre.Stmt.Basic

/-!
# Weakest preconditions

    wp(x := e, R)             = c₁ && (c₂ && … R[x := e])     with the conditions c₁, c₂, … of e
    wp(S₁; …; Sₙ, R)          = wp(S₁, wp(S₂, … wp(Sₙ, R)))
    wp(if B then S else T, R) = (B && wp(S, R)) || (!(B) && wp(T, R))

Nothing is simplified: the result shows how it was derived.
-/

namespace WeakestPre

namespace Expr

/-- The conjunction of some conditions in front of a formula. -/
def guarded (conditions : List Expr) (e : Expr) : Expr := conditions.foldr Expr.and e

/-- A formula for each of the two cases of a condition. -/
def choice (b s t : Expr) : Expr := Expr.or (Expr.and b s) (Expr.and (Expr.not b) t)

end Expr

namespace Stmt

mutual

def wp : Stmt → Expr → Expr
  | .assign x e, post => Expr.guarded e.conditions (post.subst x e)
  | .seq body, post => wpAll body post
  | .cond b s t, post => Expr.choice b (wp s post) (wp t post)

/-- The precondition of statements that run one after another. -/
def wpAll : List Stmt → Expr → Expr
  | [], post => post
  | s :: rest, post => wp s (wpAll rest post)

end

end Stmt

end WeakestPre
