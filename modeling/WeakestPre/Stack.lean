import WeakestPre.Stmt.Printer

/-!
# The stack

Formulas are walked with a list of what is still to be done, so their depth does not matter. The
walks over statements call themselves for every statement within another, and each call takes some
levels of the stack. Where the stack has no level left, a walk is broken off.

How many levels a call takes differs from walk to walk and from one version of the program that runs
the calls to the next, so nothing is assumed about the numbers.
-/

namespace WeakestPre

/-- What a walk over statements takes of the stack. -/
structure WalkCost where
  /-- For a statement apart from the statements in it. -/
  node : Nat
  /-- From a sequence to one of its elements. -/
  element : Nat
  /-- From a conditional to one of its branches. -/
  branch : Nat

/-- The stack on which statements are walked. -/
structure Stack where
  /-- The levels that are free where a walk starts. -/
  room : Nat
  derivation : WalkCost
  writing : WalkCost
  comparison : WalkCost
  copying : WalkCost
  hashing : WalkCost

/-- An answer for which so many levels are needed. -/
def Stack.within {α : Type} (k : Stack) (levels : Nat) (answer? : Option α) : Option α :=
  if levels ≤ k.room then answer? else none

namespace Stmt

mutual

/-- The levels that a walk over the whole statement takes. -/
def levels (c : WalkCost) : Stmt → Nat
  | .assign _ _ => c.node
  | .seq body => max c.node (c.element + levelsAll c body)
  | .cond _ s t => max c.node (c.branch + max (levels c s) (levels c t))

def levelsAll (c : WalkCost) : List Stmt → Nat
  | [] => 0
  | s :: rest => max (levels c s) (levelsAll c rest)

end

/-- The stack has room for writing the text of the statement. -/
def isWritable (k : Stack) (s : Stmt) : Bool := s.levels k.writing ≤ k.room

end Stmt

end WeakestPre
