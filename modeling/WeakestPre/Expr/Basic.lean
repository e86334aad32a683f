import WeakestPre.Binary64.Notation

/-!
# Expressions

The formulas of the calculus: constants, variables, three unary and twelve binary operators. One
sort serves for numbers and truth values.

**Substitution** (`subst`) replaces every occurrence of a variable.

**Definedness** (`conditions`). Division is the only operation that may fail. Each division
contributes the condition that its divisor differs from zero, in front of the conditions of its
operands.

**Variables** (`occurrences`) are listed from left to right, once for each occurrence.
-/

namespace WeakestPre

inductive UnaryOp where
  | not
  | neg
  | abs
  deriving DecidableEq, Repr

inductive BinaryOp where
  | add
  | sub
  | mul
  | div
  | eq
  | ne
  | gt
  | ge
  | lt
  | le
  | and
  | or
  deriving DecidableEq, Repr

inductive Expr where
  | const (value : Binary64)
  | var (name : String)
  | unary (op : UnaryOp) (operand : Expr)
  | binary (op : BinaryOp) (left right : Expr)
  deriving DecidableEq, Repr

/-! ## Operators -/

namespace UnaryOp

def symbol : UnaryOp → String
  | .not => "!"
  | .neg => "-"
  | .abs => "abs"

/-- In the order of their symbols. -/
def all : List UnaryOp := [.not, .neg, .abs]

def ofSymbol? (s : String) : Option UnaryOp := all.find? (·.symbol == s)

end UnaryOp

namespace BinaryOp

def symbol : BinaryOp → String
  | .add => "+"
  | .sub => "-"
  | .mul => "*"
  | .div => "/"
  | .eq => "=="
  | .ne => "!="
  | .gt => ">"
  | .ge => ">="
  | .lt => "<"
  | .le => "<="
  | .and => "&&"
  | .or => "||"

/-- In the order of their symbols. -/
def all : List BinaryOp :=
  [.ne, .and, .mul, .add, .sub, .div, .lt, .le, .eq, .gt, .ge, .or]

def ofSymbol? (s : String) : Option BinaryOp := all.find? (·.symbol == s)

/-- How tightly an operator binds. -/
def precedence : BinaryOp → Nat
  | .or => 1
  | .and => 2
  | .eq | .ne => 3
  | .gt | .ge | .lt | .le => 4
  | .add | .sub => 5
  | .mul | .div => 6

def isLogical : BinaryOp → Bool
  | .and | .or => true
  | _ => false

end BinaryOp

/-! ## Operations -/

namespace Expr

def zero : Expr := .const Binary64.zero

def and (l r : Expr) : Expr := .binary .and l r

def or (l r : Expr) : Expr := .binary .or l r

def not (e : Expr) : Expr := .unary .not e

/-- The condition `e != 0`. -/
def nonzero (e : Expr) : Expr := .binary .ne e zero

/-- `e` with `replacement` for every occurrence of `name`. -/
def subst (e : Expr) (name : String) (replacement : Expr) : Expr :=
  match e with
  | .const v => .const v
  | .var x => if x = name then replacement else .var x
  | .unary op e => .unary op (e.subst name replacement)
  | .binary op l r => .binary op (l.subst name replacement) (r.subst name replacement)

/-- The conditions under which every division in the expression is defined. -/
def conditions : Expr → List Expr
  | .const _ => []
  | .var _ => []
  | .unary _ e => conditions e
  | .binary .div l r => nonzero r :: (conditions l ++ conditions r)
  | .binary _ l r => conditions l ++ conditions r

/-- The variables from left to right, with repetitions. -/
def occurrences : Expr → List String
  | .const _ => []
  | .var x => [x]
  | .unary _ e => occurrences e
  | .binary _ l r => occurrences l ++ occurrences r

/-- The operands of the outermost operator. -/
def children : Expr → List Expr
  | .const _ | .var _ => []
  | .unary _ e => [e]
  | .binary _ l r => [l, r]

/-- The number of nodes. -/
def size : Expr → Nat
  | .const _ | .var _ => 1
  | .unary _ e => size e + 1
  | .binary _ l r => size l + size r + 1

theorem size_pos (e : Expr) : 0 < e.size := by
  cases e <;> simp [size]

end Expr

end WeakestPre
