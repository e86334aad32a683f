import WeakestPre.Derivation
import WeakestPre.Grammar.Reading
import WeakestPre.StepLog

/-!
# Reports

A calculation takes a program and a postcondition, each as a text or as a tree, derives the
precondition, records the steps in a log and reports all of it. The program is read first, so its
error is reported where both texts are bad, and a text that cannot be read leaves the log alone.

**On a stack** (`calculateWithin`). A calculation that is broken off reports nothing, but what it
has recorded stays in the log.
-/

namespace WeakestPre

/-- A tree, or a text to be read into one. -/
inductive Input (α : Type) where
  | text (s : String)
  | tree (a : α)

def Input.program (limit : Nat) : Input Stmt → Except SyntaxError Stmt
  | .text s => (Stmt.ofText limit "<program>" s).result
  | .tree s => .ok s

def Input.postcondition (limit : Nat) : Input Expr → Except SyntaxError Expr
  | .text s => (Expr.ofText limit "<postcondition>" s).result
  | .tree e => .ok e

structure Report where
  statement : Stmt
  postcondition : Expr
  precondition : Expr
  steps : List String

namespace Report

def freeVariables (r : Report) : List String := r.precondition.freeVariables

/-- The fields of a report; the steps may be left out. -/
def fields (r : Report) (showSteps : Bool := true) : List (String × Document) :=
  [("statement", .text r.statement.render),
    ("postcondition", .text r.postcondition.text),
    ("precondition", .text r.precondition.text),
    ("variables", .list (r.freeVariables.map .text))] ++
  if showSteps then [("steps", .list (r.steps.map .text))] else []

def toDocument (r : Report) (showSteps : Bool := true) : Document := .record (r.fields showSteps)

/-- The lines of a report as text. -/
def textLines (r : Report) (showSteps : Bool) : List String :=
  (if showSteps then "Steps:" :: r.steps.map ("  " ++ ·) else []) ++
    ["wp = " ++ r.precondition.text]

end Report

inductive CalculationError where
  | unreadable (e : SyntaxError)
  | log (e : LogError)
  deriving DecidableEq, Repr

/-- Derives the precondition of a statement and records the steps. -/
def derivePrecondition (s : Stmt) (post : Expr) (log : StepLog) :
    Except LogError (Report × StepLog) := do
  let (result, steps) := s.derive post
  let log ← log.recordAll (steps.map Step.description)
  return (⟨s, post, result, log.lines⟩, log)

def calculate (limit : Nat) (program : Input Stmt) (post : Input Expr)
    (log : StepLog := .empty) : Except CalculationError (Report × StepLog) := do
  let s ← (program.program limit).mapError .unreadable
  let r ← (post.postcondition limit).mapError .unreadable
  (derivePrecondition s r log).mapError .log

/-- The calculation on a stack, with the log that it leaves behind. There is no answer if it is
broken off. -/
def calculateWithin (limit : Nat) (k : Stack) (program : Input Stmt) (post : Input Expr)
    (log : StepLog := .empty) : Option (Except CalculationError Report) × StepLog :=
  match program.program limit, post.postcondition limit with
  | .error e, _ | .ok _, .error e => (some (.error (.unreadable e)), log)
  | .ok s, .ok r =>
    let (result?, steps) := s.deriveWithin k 0 r
    match log.recordEach (steps.map Step.description) with
    | (some e, log) => (some (.error (.log e)), log)
    | (none, log) => (result?.map fun result => .ok ⟨s, r, result, log.lines⟩, log)

end WeakestPre
