import WeakestPre.Expr.Basic

/-!
# Similar expressions

Two expressions are similar when they are the same up to their constants, and corresponding
constants are close. Since infinities and not-a-number are close to nothing, an expression is
similar to itself exactly if all its constants are finite. Closeness is not transitive, so neither
is similarity; the coarser relation `sameShape` ignores constants altogether.
-/

namespace WeakestPre.Expr

def similar : Expr → Expr → Bool
  | .const v, .const w => v.close w
  | .var x, .var y => x == y
  | .unary op e, .unary op' e' => op == op' && similar e e'
  | .binary op l r, .binary op' l' r' => op == op' && similar l l' && similar r r'
  | _, _ => false

def sameShape : Expr → Expr → Bool
  | .const _, .const _ => true
  | .var x, .var y => x == y
  | .unary op e, .unary op' e' => op == op' && sameShape e e'
  | .binary op l r, .binary op' l' r' => op == op' && sameShape l l' && sameShape r r'
  | _, _ => false

end WeakestPre.Expr
