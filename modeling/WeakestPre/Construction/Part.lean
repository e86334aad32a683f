import WeakestPre.Binary64.Numeral
import WeakestPre.Construction.Error
import WeakestPre.Expr.Similar
import WeakestPre.Stmt.Identity

/-!
# Building trees from parts

A part is what is supplied where a tree has a place: nothing, a plain value, an expression or a
statement. The builders check their parts in a fixed order and refuse the first bad one. An
operator is looked at before its operands, a name before the value assigned to it.
-/

namespace WeakestPre

inductive Part where
  | missing
  | plain (value : Document)
  | expr (e : Expr)
  | stmt (s : Stmt)

namespace Part

/-- A plain value, where null is nothing. -/
def ofDocument : Document → Part
  | .null => .missing
  | d => .plain d

/-- The name of the kind of a part. -/
def kind : Part → String
  | .missing => Document.null.kind
  | .plain d => d.kind
  | .expr (.const _) => "Constant"
  | .expr (.var _) => "Variable"
  | .expr (.unary ..) => "Unary"
  | .expr (.binary ..) => "Binary"
  | .stmt (.assign ..) => "Assignment"
  | .stmt (.seq _) => "Sequence"
  | .stmt (.cond ..) => "IfThenElse"

/-- Equality of parts: trees up to close constants, plain values by value. -/
def similar : Part → Part → Bool
  | .missing, .missing => true
  | .plain d, .plain d' => d.same d'
  | .expr e, .expr e' => e.similar e'
  | .stmt s, .stmt s' => s.similar s'
  | _, _ => false

/-- Equality of parts that have nothing in common, on a stack. -/
def equalsWithin (k : Stack) : Part → Part → Option Bool
  | .stmt s, .stmt s' => s.equalsWithin k 0 .nothing s'
  | p, p' => some (p.similar p')

/-- Equality of parts, ignoring the values of constants in trees. -/
def sameShape : Part → Part → Bool
  | .missing, .missing => true
  | .plain d, .plain d' => d.same d'
  | .expr e, .expr e' => e.sameShape e'
  | .stmt s, .stmt s' => s.sameShape s'
  | _, _ => false

/-- The parts that are similar to no part kept before them. -/
def distinct (parts : List Part) : List Part :=
  parts.foldl (fun kept p => if kept.any (·.similar p) then kept else kept ++ [p]) []

end Part

namespace Construction

/-! ## Expressions -/

/-- A value that must be there. -/
def required {α : Type} (otherwise : ConstructionError) : Option α → Except ConstructionError α
  | some a => .ok a
  | none => .error otherwise

/-- The number that a plain value stands for. -/
def numberOf : Document → Except ConstructionError Binary64
  | .null => .error .missingValue
  | .bool b => .ok (Binary64.ofRatio false (if b then 1 else 0) 1)
  | .int n => required .integerTooLarge (Binary64.ofInt? n)
  | .real v => .ok v
  | .text s => required (.badNumeral s) (Binary64.ofNumeral? s)
  | d => .error (.notNumeric d.kind)

def constant (value : Document) : Except ConstructionError Expr := (numberOf value).map .const

/-- A variable, named by the text of a value without the blanks around it. A name is a string. -/
def variableOf : Document → Except ConstructionError Expr
  | .null => .error .blankName
  | d =>
    let name := Text.strip (Text.nearest d.display)
    if name = "" then .error .blankName else .ok (.var name)

/-- An operator given by a value. -/
def operator {Op : Type} (ofSymbol? : String → Option Op) (unknown : Document → ConstructionError)
    (op : Document) : Except ConstructionError Op :=
  match op with
  | .list _ | .map _ => .error (.collectionOperator op.kind)
  | .text s => match ofSymbol? s with
    | some o => .ok o
    | none => .error (unknown op)
  | _ => .error (unknown op)

/-- The operand at a place. -/
def operand (op : String) (role : OperandRole) : Part → Except ConstructionError Expr
  | .expr e => .ok e
  | .missing => .error (.missingOperand op role)
  | p => .error (.wrongOperand op role p.kind)

def unary (op : Document) (x : Part) : Except ConstructionError Expr := do
  let o ← operator UnaryOp.ofSymbol? .unknownUnary op
  let e ← operand o.symbol .operand x
  return .unary o e

def binary (op : Document) (l r : Part) : Except ConstructionError Expr := do
  let o ← operator BinaryOp.ofSymbol? .unknownBinary op
  let e ← operand o.symbol .left l
  let e' ← operand o.symbol .right r
  return .binary o e e'

/-! ## Statements -/

/-- The expression at a place of a statement. -/
def componentExpr (role : ComponentRole) : Part → Except ConstructionError Expr
  | .expr e => .ok e
  | .missing => .error (.missingComponent role)
  | p => .error (.wrongComponent role p.kind)

/-- The statement at a place of a statement. -/
def componentStmt (role : ComponentRole) : Part → Except ConstructionError Stmt
  | .stmt s => .ok s
  | .missing => .error (.missingComponent role)
  | p => .error (.wrongComponent role p.kind)

/-- The name of the assigned variable, without the blanks around it. -/
def targetName : Document → Except ConstructionError String
  | .null => .error (.missingComponent .variableName)
  | .text s =>
    let name := Text.strip s
    if name = "" then .error .blankTarget else .ok name
  | d => .error (.wrongComponent .variableName d.kind)

def assignment (target : Document) (value : Part) : Except ConstructionError Stmt := do
  let x ← targetName target
  let e ← componentExpr .assignedValue value
  return .assign x e

/-- The statements among the parts, which are numbered from `index`. -/
def elements (index : Nat) : List Part → Except ConstructionError (List Stmt)
  | [] => .ok []
  | .missing :: _ => .error (.missingElement index)
  | p :: rest => do
    let s ← componentStmt (.element index) p
    let body ← elements (index + 1) rest
    return s :: body

def sequence (parts : Option (List Part)) : Except ConstructionError Stmt :=
  match parts with
  | none => .error .missingStatements
  | some [] => .error .emptySequence
  | some parts => (elements 0 parts).map .seq

def conditional (guard thenBranch elseBranch : Part) : Except ConstructionError Stmt := do
  let b ← componentExpr .condition guard
  let s ← componentStmt .thenBranch thenBranch
  let t ← componentStmt .elseBranch elseBranch
  return .cond b s t

end Construction

end WeakestPre
