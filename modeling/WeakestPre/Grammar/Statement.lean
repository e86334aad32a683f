import WeakestPre.Grammar.Expression
import WeakestPre.Stmt.Basic

/-!
# Rules for statements

    list        := statement (";" statement)* [";"]
    statement   := block | conditional | assignment
    block       := "{" (statement [";"])+ "}"
    conditional := "if" "(" expression ")" list "else" list
    assignment  := name ":=" expression

A list or a block with one statement stands for that statement. The lists of a conditional go on
as long as they can, so a semicolon after a conditional belongs to its second branch.
-/

namespace WeakestPre.Grammar

open Rule

/-- A statement may start with this token. -/
def startsStatement (t : Token) : Bool :=
  t.isPunctuation "\x7b" || (t.kind == .identifier && t.text != "else")

def assignment (depth : Nat) : Rule Stmt := do
  let target ← current
  if target.kind = .identifier ∧ !reservedWords.contains target.text then
    let _ ← next
    let sign ← current
    if sign.isOperator ":=" then
      let _ ← next
      let value ← expression depth 0
      return .assign target.text value
    else fail (.unexpected .assignment sign)
  else fail (.unexpected .variableName target)

/-- The statements after the first one of a list. The fuel bounds their number. -/
def moreStatements (statement : Rule Stmt) : Nat → Rule (List Stmt)
  | 0 => return []
  | fuel + 1 => do
    if ← acceptMark ";" then
      if startsStatement (← current) then
        let s ← statement
        let rest ← moreStatements statement fuel
        return s :: rest
      else return []
    else return []

/-- The statements of a block up to its closing brace. The fuel bounds their number. -/
def blockStatements (statement : Rule Stmt) : Nat → Rule (List Stmt)
  | 0 => return []
  | fuel + 1 => do
    let t ← current
    if t.isPunctuation "\x7d" then return []
    else if t.isEnd then fail (.unexpected .closeBlock t)
    else
      let s ← statement
      let _ ← acceptMark ";"
      let rest ← blockStatements statement fuel
      return s :: rest

def block (statement : Rule Stmt) : Rule Stmt := do
  expectMark "\x7b" .openBlock
  let body ← fun s => blockStatements statement (s.remaining + 1) s
  let close ← next
  if body.isEmpty then fail (.emptyBlock close) else return .ofList body

/-- A conditional, from its first word on. -/
def conditional (guard : Rule Expr) (list : Rule Stmt) : Rule Stmt := do
  let _ ← next
  expectMark "(" .openAfterIf
  let b ← guard
  expectMark ")" .closeCondition
  let s ← list
  let t ← current
  if t.isWord "else" then
    let _ ← next
    let s' ← list
    return .cond b s s'
  else fail (.missingElse t)

mutual

def statement : Nat → Rule Stmt
  | 0 => tooDeep
  | depth + 1 => do
    let t ← current
    if t.isPunctuation "\x7b" then block (statement depth)
    else if t.isWord "if" then conditional (expression depth 0) (statementList depth)
    else assignment depth

def statementList : Nat → Rule Stmt
  | 0 => tooDeep
  | depth + 1 => do
    let s ← statement depth
    let rest ← fun stream => moreStatements (statement depth) stream.remaining stream
    return .ofList (s :: rest)

end

end WeakestPre.Grammar
