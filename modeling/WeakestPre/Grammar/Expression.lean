import WeakestPre.Binary64.Numeral
import WeakestPre.Expr.Basic
import WeakestPre.Grammar.Rule

/-!
# Rules for expressions

    expression := primary (operator expression)*
    primary    := NUMBER | name | "abs" "(" expression ")" | "!" primary | "-" primary
                | "(" expression ")"

An expression is read with a least precedence. After its first primary it takes every operator
that binds at least as tightly, each with an operand that binds more tightly, so operators of one
precedence group to the left. Prefix operators bind to the next primary only.

The first argument of a rule bounds how deeply rules may be nested within it.
-/

namespace WeakestPre.Grammar

open Rule

/-- The binary operator that a token writes. -/
def binaryOp? (t : Token) : Option BinaryOp :=
  if t.kind = .operator then BinaryOp.ofSymbol? t.text else none

/-- Extends `left` by operators of precedence at least `least`. The fuel bounds their number. -/
def climb (operand : Int → Rule Expr) (least : Int) : Nat → Expr → Rule Expr
  | 0, left => return left
  | fuel + 1, left => do
    match binaryOp? (← current) with
    | none => return left
    | some op =>
      if op.precedence < least then return left
      else
        let _ ← next
        let right ← operand (op.precedence + 1)
        climb operand least fuel (.binary op left right)

/-- A numeral. -/
def number : Rule Expr := do
  let t ← next
  match Binary64.ofNumeral? t.text with
  | some v => return .const v
  | none => fail (.badNumber t)

mutual

def primary : Nat → Rule Expr
  | 0 => tooDeep
  | depth + 1 => do
    let t ← current
    if t.kind = .number then number
    else if t.isWord "abs" then
      let _ ← next
      expectMark "(" .openAfterAbs
      let e ← expression depth 0
      expectMark ")" .closeAbs
      return .unary .abs e
    else if t.kind = .identifier then
      if reservedWords.contains t.text then fail (.unexpected .expression t)
      else
        let _ ← next
        return .var t.text
    else if t.isOperator "!" then
      let _ ← next
      let e ← primary depth
      return .unary .not e
    else if t.isOperator "-" then
      let _ ← next
      let e ← primary depth
      return .unary .neg e
    else if t.isPunctuation "(" then
      let _ ← next
      let e ← expression depth 0
      expectMark ")" .closeGroup
      return e
    else fail (.unexpected .expression t)

/-- An expression whose outermost operators have precedence at least `least`. -/
def expression : Nat → Int → Rule Expr
  | 0, _ => tooDeep
  | depth + 1, least => do
    let left ← primary depth
    fun s => climb (expression depth) least s.remaining left s

end

end WeakestPre.Grammar
