import WeakestPre.Proofs.Expr.Variables
import WeakestPre.Proofs.Expr.Walk

/-!
# What a walk does on its way

A fold is given a function that combines the results of operands. Recursion says what comes out in
the end; here it is said which calls of that function are made.

**Nodes** are told apart by their addresses, for the same expression may occur in several places.
`postorder` lists the address of every node, each once (`mem_postorder`, `nodup_postorder`), those
below a node before it and those on its left before those on its right (`pairwise_postorder`).

**Calls.** The loop does not look at the state, so `combine` can write down its calls there
(`recorded`), without a change to what it computes. The calls are made along `postorder`, and each
is given the results of the calls for the operands (`exists_accounts`).

**Theorem** (`walks_eq_recursion`). Folding, writing and collecting variables with a stack do what
recursion on the expression does.
-/

namespace WeakestPre.Expr

variable {α σ : Type} {e operand : Expr} {p : List Nat} {i : Nat}

/-! ## Addresses -/

/-- The way from an expression to one of its nodes: the number of an operand on each level. -/
abbrev Address := List Nat

/-- The node at an address. -/
def at? (e : Expr) : Address → Option Expr
  | [] => some e
  | i :: p => e.children[i]?.bind fun operand => operand.at? p

theorem at?_cons (h : e.children[i]? = some operand) (p : Address) :
    e.at? (i :: p) = operand.at? p := by
  rw [at?, h, Option.bind_some]

/-- A node comes before another if it lies below it or further to the left. -/
inductive Precedes : Address → Address → Prop
  | beneath (i : Nat) (p : Address) : Precedes (i :: p) []
  | left {i j : Nat} (h : i < j) (p q : Address) : Precedes (i :: p) (j :: q)
  | within (i : Nat) {p q : Address} (h : Precedes p q) : Precedes (i :: p) (i :: q)

theorem Precedes.irrefl (p : Address) : ¬ Precedes p p := by
  induction p with
  | nil => rintro ⟨⟩
  | cons i p ih =>
    intro h
    cases h with
    | left hlt => exact Nat.lt_irrefl i hlt
    | within _ h => exact ih h

/-- The addresses of all nodes, operands from left to right and before their node. -/
def postorder : Expr → List Address
  | .const _ | .var _ => [[]]
  | .unary _ e => (postorder e).map (0 :: ·) ++ [[]]
  | .binary _ l r => (postorder l).map (0 :: ·) ++ ((postorder r).map (1 :: ·) ++ [[]])

theorem mem_postorder : p ∈ e.postorder ↔ (e.at? p).isSome := by
  induction e generalizing p with
  | const v => cases p <;> simp [postorder, at?, children]
  | var x => cases p <;> simp [postorder, at?, children]
  | unary op e ih =>
    rcases p with _ | ⟨_ | i, p⟩
    · simp [postorder, at?]
    · simp [postorder, at?, children, ih]
    · simp [postorder, at?, children]
  | binary op l r ihl ihr =>
    rcases p with _ | ⟨_ | _ | i, p⟩
    · simp [postorder, at?]
    · simp [postorder, at?, children, ihl]
    · simp [postorder, at?, children, ihr]
    · simp [postorder, at?, children]

theorem pairwise_map_cons {ps : List Address} (h : ps.Pairwise Precedes) (i : Nat) :
    (ps.map (i :: ·)).Pairwise Precedes :=
  List.pairwise_map.2 (h.imp (.within i))

theorem pairwise_postorder (e : Expr) : e.postorder.Pairwise Precedes := by
  induction e with
  | const v => exact List.pairwise_singleton _ _
  | var x => exact List.pairwise_singleton _ _
  | unary op e ih =>
    refine List.pairwise_append.2 ⟨pairwise_map_cons ih 0, List.pairwise_singleton _ _, ?_⟩
    simp [Precedes.beneath]
  | binary op l r ihl ihr =>
    refine List.pairwise_append.2 ⟨pairwise_map_cons ihl 0, ?_, ?_⟩
    · refine List.pairwise_append.2 ⟨pairwise_map_cons ihr 1, List.pairwise_singleton _ _, ?_⟩
      simp [Precedes.beneath]
    · -- whatever is on the left comes before the right operand and before the node
      simp only [List.forall_mem_map, List.forall_mem_append, List.forall_mem_singleton]
      exact fun p _ => ⟨fun q _ => .left Nat.zero_lt_one p q, .beneath 0 p⟩

theorem nodup_postorder (e : Expr) : e.postorder.Nodup := by
  refine (pairwise_postorder e).imp ?_
  rintro p _ h rfl
  exact Precedes.irrefl p h

/-- The operands of a quotient come before it, and so does all that is in them. -/
example (x y z : String) :
    (binary .div (var x) (binary .add (unary .neg (var y)) (var z))).postorder =
      [[0], [1, 0, 0], [1, 0], [1, 1], [1], []] := rfl

/-! ## Calls -/

/-- What a call was given and what it returned. -/
structure Call (α : Type) where
  node : Expr
  operands : List α
  result : α

/-- `combine`, which also writes down each of its calls. -/
def recorded (combine : Expr → List α → σ → α × σ) (node : Expr) (operands : List α)
    (state : σ × List (Call α)) : α × σ × List (Call α) :=
  let answer := combine node operands state.1
  (answer.1, answer.2, state.2 ++ [⟨node, operands, answer.1⟩])

/-- These calls can be made one after the other, each in the state that the one before left. -/
inductive Runs (combine : Expr → List α → σ → α × σ) : σ → List (Call α) → σ → Prop
  | nil (s : σ) : Runs combine s [] s
  | cons {node : Expr} {operands : List α} {result : α} {s s' s'' : σ} {calls : List (Call α)}
      (h : combine node operands s = (result, s')) (hcalls : Runs combine s' calls s'') :
      Runs combine s (⟨node, operands, result⟩ :: calls) s''

theorem Runs.append {combine : Expr → List α → σ → α × σ} {s s' s'' : σ}
    {calls calls' : List (Call α)} (h : Runs combine s calls s') (h' : Runs combine s' calls' s'') :
    Runs combine s (calls ++ calls') s'' := by
  induction h with
  | nil => exact h'
  | cons hcall _ ih => exact .cons hcall (ih h')

/-- The call for the node at an address. `value` gives a result to each address, so the operands
of the call are what the calls for the operands returned. -/
structure CallAt (e : Expr) (value : Address → α) (p : Address) (call : Call α) : Prop where
  node : e.at? p = some call.node
  operands : call.operands = (List.range call.node.children.length).map fun i => value (p ++ [i])
  result : call.result = value p

/-- The results for a node and for all below it, from those for its operands. -/
def graft (own : α) (values : List (Address → α)) : Address → α
  | [] => own
  | i :: p => (values[i]?.map fun value => value p).getD own

theorem graft_cons {own : α} {values : List (Address → α)} {value : Address → α}
    (h : values[i]? = some value) (p : Address) : graft own values (i :: p) = value p := by
  rw [graft, h, Option.map_some, Option.getD_some]

section

variable {own : α} {values : List (Address → α)} {value : Address → α} {call : Call α}

theorem CallAt.within (h : CallAt operand value p call) (hoperand : e.children[i]? = some operand)
    (hvalue : values[i]? = some value) : CallAt e (graft own values) (i :: p) call where
  node := by rw [at?_cons hoperand, h.node]
  operands := by
    rw [h.operands]
    exact List.map_congr_left fun j _ => (graft_cons hvalue (p ++ [j])).symm
  result := by rw [graft_cons hvalue, h.result]

theorem forall₂_callAt_within {ps : List Address} {calls : List (Call α)}
    (h : List.Forall₂ (CallAt operand value) ps calls) (hoperand : e.children[i]? = some operand)
    (hvalue : values[i]? = some value) :
    List.Forall₂ (CallAt e (graft own values)) (ps.map (i :: ·)) calls :=
  List.forall₂_map_left_iff.2 (h.imp fun _ _ hcall => hcall.within hoperand hvalue)

theorem callAt_root (h : values.length = e.children.length) :
    CallAt e (graft own values) [] ⟨e, values.map fun value => value [], own⟩ where
  node := rfl
  operands := by
    refine List.ext_getElem (by simp [h]) fun i hi _ => ?_
    rw [List.length_map] at hi
    have hvalue := List.getElem?_eq_getElem hi
    rw [List.getElem_map, List.getElem_map, List.getElem_range, List.nil_append, graft_cons hvalue]
  result := rfl

end

/-! ## The calls of a fold -/

variable {combine : Expr → List α → σ → α × σ} {s : σ}

/-- The calls of a fold: one for each node in post-order, and together they make the result. -/
structure Accounts (combine : Expr → List α → σ → α × σ) (e : Expr) (s : σ)
    (value : Address → α) (calls : List (Call α)) : Prop where
  result : (foldNodes combine e s).1 = value []
  recorded : ∀ log, foldNodes (recorded combine) e (s, log) =
    (value [], (foldNodes combine e s).2, log ++ calls)
  placed : List.Forall₂ (CallAt e value) e.postorder calls
  runs : Runs combine s calls (foldNodes combine e s).2

theorem accounts_leaf (h : e.children = []) :
    Accounts combine e s (graft (combine e [] s).1 []) [⟨e, [], (combine e [] s).1⟩] := by
  cases e with
  | const | var => exact ⟨rfl, fun _ => rfl, .cons (callAt_root rfl) .nil, .cons rfl (.nil _)⟩
  | unary | binary => cases h

section

variable {value : Address → α} {calls : List (Call α)}

theorem accounts_unary {op : UnaryOp} (h : Accounts combine e s value calls) :
    let node := Expr.unary op e
    let answer := combine node [value []] (foldNodes combine e s).2
    Accounts combine node s (graft answer.1 [value]) (calls ++ [⟨node, [value []], answer.1⟩]) := by
  intro node answer
  have hfold : foldNodes combine node s = answer := by rw [foldNodes, h.result]
  refine ⟨by rw [hfold]; rfl, fun log => ?_, ?_, ?_⟩
  · rw [foldNodes, h.recorded, hfold, ← List.append_assoc]
    rfl
  · exact List.rel_append (forall₂_callAt_within h.placed rfl rfl) (.cons (callAt_root rfl) .nil)
  · rw [hfold]
    exact h.runs.append (.cons rfl (.nil _))

theorem accounts_binary {op : BinaryOp} {l r : Expr} {value' : Address → α}
    {calls' : List (Call α)} (hl : Accounts combine l s value calls)
    (hr : Accounts combine r (foldNodes combine l s).2 value' calls') :
    let node := Expr.binary op l r
    let answer := combine node [value [], value' []]
      (foldNodes combine r (foldNodes combine l s).2).2
    Accounts combine node s (graft answer.1 [value, value'])
      (calls ++ (calls' ++ [⟨node, [value [], value' []], answer.1⟩])) := by
  intro node answer
  have hfold : foldNodes combine node s = answer := by rw [foldNodes, hl.result, hr.result]
  refine ⟨by rw [hfold]; rfl, fun log => ?_, ?_, ?_⟩
  · -- the right operand finds the calls of the left one in the log, and the node those of both
    rw [foldNodes, hl.recorded, hr.recorded, hfold, ← List.append_assoc, ← List.append_assoc]
    rfl
  · refine List.rel_append (forall₂_callAt_within hl.placed rfl rfl) ?_
    exact List.rel_append (forall₂_callAt_within hr.placed rfl rfl) (.cons (callAt_root rfl) .nil)
  · rw [hfold]
    exact hl.runs.append (hr.runs.append (.cons rfl (.nil _)))

end

/-- **Every fold can be accounted for by calls in post-order.** -/
theorem exists_accounts (combine : Expr → List α → σ → α × σ) (e : Expr) (s : σ) :
    ∃ value calls, Accounts combine e s value calls := by
  -- the right operand starts in the state that the left one ends in
  induction e generalizing s with
  | const v => exact ⟨_, _, accounts_leaf rfl⟩
  | var x => exact ⟨_, _, accounts_leaf rfl⟩
  | unary op e ih =>
    obtain ⟨value, calls, h⟩ := ih s
    exact ⟨_, _, accounts_unary h⟩
  | binary op l r ihl ihr =>
    obtain ⟨value, calls, hl⟩ := ihl s
    obtain ⟨value', calls', hr⟩ := ihr (foldNodes combine l s).2
    exact ⟨_, _, accounts_binary hl hr⟩

/-! ## Walks and recursion -/

/-- The variables of an expression, by recursion. -/
def names : Expr → Finset String
  | .const _ => ∅
  | .var x => {x}
  | .unary _ e => names e
  | .binary _ l r => names l ∪ names r

theorem vars_eq_names (e : Expr) : e.vars = e.names := by
  induction e with
  | const v => rfl
  | var x => rfl
  | unary op e ih => exact ih
  | binary op l r ihl ihr => rw [vars_binary, names, ihl, ihr]

/-- What a fold with a stack comes to: its end, and the calls that it makes on the way. -/
structure FoldsByRecursion (combine : Expr → List α → σ → α × σ) (e : Expr) (s : σ) : Prop where
  recursion : ∀ f : Expr → StateM σ α, IsRecursion combine f ↔ f = foldNodes combine
  stack : foldLoop combine [⟨e, false⟩] [] s =
    ([(foldNodes combine e s).1], (foldNodes combine e s).2)
  result : e.fold combine s = (some (foldNodes combine e s).1, (foldNodes combine e s).2)
  mem_postorder : ∀ p, p ∈ e.postorder ↔ (e.at? p).isSome
  nodup_postorder : e.postorder.Nodup
  pairwise_postorder : e.postorder.Pairwise Precedes
  calls : ∃ value calls, (foldNodes combine e s).1 = value [] ∧
    e.fold (recorded combine) (s, []) = (some (value []), (foldNodes combine e s).2, calls) ∧
    List.Forall₂ (CallAt e value) e.postorder calls ∧
    Runs combine s calls (foldNodes combine e s).2

theorem foldsByRecursion (combine : Expr → List α → σ → α × σ) (e : Expr) (s : σ) :
    FoldsByRecursion combine e s := by
  refine ⟨fun f => isRecursion_iff, foldLoop_root combine e s, fold_eq combine e s,
    fun p => mem_postorder, nodup_postorder e, pairwise_postorder e, ?_⟩
  obtain ⟨value, calls, h⟩ := exists_accounts combine e s
  refine ⟨value, calls, h.result, ?_, h.placed, h.runs⟩
  rw [fold_eq, h.recorded, List.nil_append]

/-- **Walks with a stack do what recursion does**: they fold each node once, after its operands and
with their results, write the formula text, and collect the union of the variables. -/
theorem walks_eq_recursion (combine : Expr → List α → σ → α × σ) (e : Expr) (s : σ) :
    FoldsByRecursion combine e s ∧ e.text = e.render ∧
      e.freeVariables.Pairwise (· < ·) ∧ e.freeVariables.toFinset = e.names := by
  refine ⟨foldsByRecursion combine e s, text_eq_render e, pairwise_freeVariables e, ?_⟩
  rw [toFinset_freeVariables, vars_eq_names]

end WeakestPre.Expr
