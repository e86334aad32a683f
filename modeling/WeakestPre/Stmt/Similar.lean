import WeakestPre.Expr.Similar
import WeakestPre.Stmt.Basic

/-!
# Similar statements

Statements are similar when they are the same up to similar expressions, and of the same shape when
they are the same up to the values of constants.
-/

namespace WeakestPre.Stmt

mutual

def similar : Stmt → Stmt → Bool
  | .assign x e, .assign y e' => x == y && e.similar e'
  | .seq body, .seq body' => similarAll body body'
  | .cond b s t, .cond b' s' t' => b.similar b' && similar s s' && similar t t'
  | _, _ => false

def similarAll : List Stmt → List Stmt → Bool
  | [], [] => true
  | s :: rest, s' :: rest' => similar s s' && similarAll rest rest'
  | _, _ => false

end

mutual

def sameShape : Stmt → Stmt → Bool
  | .assign x e, .assign y e' => x == y && e.sameShape e'
  | .seq body, .seq body' => sameShapeAll body body'
  | .cond b s t, .cond b' s' t' => b.sameShape b' && sameShape s s' && sameShape t t'
  | _, _ => false

def sameShapeAll : List Stmt → List Stmt → Bool
  | [], [] => true
  | s :: rest, s' :: rest' => sameShape s s' && sameShapeAll rest rest'
  | _, _ => false

end

end WeakestPre.Stmt
