import WeakestPre.Expr.Basic

/-!
# Statements

The programs of the calculus: assignments, sequences and conditionals. A sequence read from a text
or built from parts has at least one element; one with a single element is a sequence all the same.
-/

namespace WeakestPre

inductive Stmt where
  | assign (target : String) (value : Expr)
  | seq (body : List Stmt)
  | cond (guard : Expr) (thenBranch elseBranch : Stmt)
  deriving Repr

/-- A list of statements as one: a single statement stands for itself. -/
def Stmt.ofList : List Stmt → Stmt
  | [s] => s
  | body => .seq body

/-- The number of elements of a sequence. -/
def Stmt.length? : Stmt → Option Nat
  | .seq body => some body.length
  | _ => none

end WeakestPre
