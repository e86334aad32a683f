import WeakestPre.Expr.Basic

/-!
# Walks with a stack of their own

A derivation makes a formula one level deeper for every assignment, so formulas are walked with an
explicit stack. The depth of a formula is then bounded by memory alone.

**Folding** (`fold`). A node is visited twice: the first time its operands are put on the stack in
front of it, the second time the results of its operands are taken off the results and replaced by
its own. The state `σ` is threaded through all visits.

**Free variables** (`freeVariables`) are collected in increasing order.
-/

namespace WeakestPre.Expr

variable {α σ : Type}

/-! ## Folding -/

/-- A node on the stack, and whether its operands have been put there already. -/
structure Visit where
  node : Expr
  opened : Bool

/-- The visits that an entry of the stack still leads to. -/
def Visit.weight (v : Visit) : Nat :=
  if v.opened then 1 else 2 * v.node.size

/-- The visits that a stack still leads to. -/
def pending : List Visit → Nat
  | [] => 0
  | v :: rest => v.weight + pending rest

theorem pending_append (l₁ l₂ : List Visit) : pending (l₁ ++ l₂) = pending l₁ + pending l₂ := by
  induction l₁ with
  | nil => simp [pending]
  | cons v l₁ ih => simp only [List.cons_append, pending, ih]; omega

/-- The operands of a node, to be visited for the first time. -/
def visitChildren (e : Expr) : List Visit := e.children.map fun child => ⟨child, false⟩

theorem pending_visitChildren_lt (e : Expr) : pending (visitChildren e) + 1 < 2 * e.size := by
  cases e <;> simp [visitChildren, children, pending, Visit.weight, size] <;> omega

/-- Empties the stack. `results` holds the results of finished nodes, last first. -/
def foldLoop (combine : Expr → List α → σ → α × σ) (stack : List Visit) (results : List α)
    (state : σ) : List α × σ :=
  match stack with
  | [] => (results, state)
  | ⟨node, opened⟩ :: rest =>
    if opened || node.children.isEmpty then
      let arity := node.children.length
      let (result, state) := combine node (results.take arity).reverse state
      foldLoop combine rest (result :: results.drop arity) state
    else foldLoop combine (visitChildren node ++ ⟨node, true⟩ :: rest) results state
termination_by pending stack
decreasing_by
  · have := node.size_pos
    simp only [pending, Visit.weight]
    split <;> omega
  · rename_i h
    have := pending_visitChildren_lt node
    simp_all [pending, pending_append, Visit.weight]
    omega

/-- Combines the nodes from the leaves up, operands from left to right. -/
def fold (combine : Expr → List α → σ → α × σ) (e : Expr) (state : σ) : Option α × σ :=
  let (results, state) := foldLoop combine [⟨e, false⟩] [] state
  (results.head?, state)

/-! ## Free variables -/

/-- Inserts a name into an increasing list, unless it is there. -/
def insertName (x : String) : List String → List String
  | [] => [x]
  | y :: ys => if x = y then y :: ys else if x < y then x :: y :: ys else y :: insertName x ys

/-- The number of nodes in a list of expressions. -/
def totalSize : List Expr → Nat
  | [] => 0
  | e :: rest => e.size + totalSize rest

/-- Adds the variables of all expressions on the stack to `names`. -/
def collectNames (stack : List Expr) (names : List String) : List String :=
  match stack with
  | [] => names
  | .const _ :: rest => collectNames rest names
  | .var x :: rest => collectNames rest (insertName x names)
  | .unary _ e :: rest => collectNames (e :: rest) names
  | .binary _ l r :: rest => collectNames (r :: l :: rest) names
termination_by totalSize stack
decreasing_by
  all_goals simp only [totalSize, size]; omega

/-- The variables of an expression, each once, in increasing order. -/
def freeVariables (e : Expr) : List String := collectNames [e] []

end WeakestPre.Expr
