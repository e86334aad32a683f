import WeakestPre.Expr.Printer
import WeakestPre.Expr.Similar

/-!
# Walks with a stack and recursion

**Folding** (`fold_eq`). The stack of a fold holds nodes that are still to be visited, and its
results belong to nodes that are finished. A node on top of the stack ends up as one more result,
whatever lies below it, so the fold computes what recursion on the expression computes. The
recursion determines its result (`isRecursion_iff`). Without a state, that is any function of an
expression that is given by its values at the operands (`walk_eq_some`).

**Writing** (`text_eq_render`). Formula text is written from a stack of pieces. The pieces of a node
put together are its text, so opening a node does not change what the stack amounts to.

**Comparing** (`compareAll_eq_all`). Two expressions can be compared with a stack of pairs, which is
given up at the first difference. This finds out whether all pairs on the stack are similar.
-/

namespace WeakestPre.Expr

variable {α σ : Type}

/-! ## Folding -/

/-- Combines the nodes from the leaves up, by recursion on the expression. -/
def foldNodes (combine : Expr → List α → σ → α × σ) : Expr → σ → α × σ
  | .const v, state => combine (.const v) [] state
  | .var x, state => combine (.var x) [] state
  | .unary op e, state =>
    let operand := foldNodes combine e state
    combine (.unary op e) [operand.1] operand.2
  | .binary op l r, state =>
    let left := foldNodes combine l state
    let right := foldNodes combine r left.2
    combine (.binary op l r) [left.1, right.1] right.2

/-- **A node on the stack becomes one more result.** -/
theorem foldLoop_visit (combine : Expr → List α → σ → α × σ) (e : Expr) (rest : List Visit)
    (results : List α) (state : σ) :
    foldLoop combine (⟨e, false⟩ :: rest) results state =
      foldLoop combine rest ((foldNodes combine e state).1 :: results)
        (foldNodes combine e state).2 := by
  induction e generalizing rest results state with
  | const v =>
    rw [foldLoop]
    simp [children, foldNodes]
  | var x =>
    rw [foldLoop]
    simp [children, foldNodes]
  | unary op e ih =>
    rw [foldLoop]
    simp only [children, visitChildren, List.isEmpty_cons, Bool.or_self, Bool.false_eq_true,
      if_false, List.map_cons, List.map_nil, List.cons_append, List.nil_append]
    -- the operand first, then the second visit of the node itself
    rw [ih, foldLoop]
    simp [children, foldNodes]
  | binary op l r ihl ihr =>
    rw [foldLoop]
    simp only [children, visitChildren, List.isEmpty_cons, Bool.or_self, Bool.false_eq_true,
      if_false, List.map_cons, List.map_nil, List.cons_append, List.nil_append]
    rw [ihl, ihr, foldLoop]
    simp [children, foldNodes]

/-- One result is left when the stack is empty. -/
theorem foldLoop_root (combine : Expr → List α → σ → α × σ) (e : Expr) (state : σ) :
    foldLoop combine [⟨e, false⟩] [] state =
      ([(foldNodes combine e state).1], (foldNodes combine e state).2) := by
  rw [foldLoop_visit, foldLoop]

theorem fold_eq (combine : Expr → List α → σ → α × σ) (e : Expr) (state : σ) :
    e.fold combine state =
      (some (foldNodes combine e state).1, (foldNodes combine e state).2) := by
  rw [fold, foldLoop_root]
  rfl

/-- `f` combines each node with its own results for the operands, from left to right. -/
def IsRecursion (combine : Expr → List α → StateM σ α) (f : Expr → StateM σ α) : Prop :=
  ∀ e, f e = do
    let operands ← e.children.mapM f
    combine e operands

section

variable {combine : Expr → List α → StateM σ α}

theorem isRecursion_foldNodes : IsRecursion combine (foldNodes combine) := by
  intro e
  cases e <;> rfl

/-- **Only one function is computed by this recursion.** -/
theorem isRecursion_iff {f : Expr → StateM σ α} :
    IsRecursion combine f ↔ f = foldNodes combine := by
  constructor
  · intro h
    funext e
    -- the operands are folded alike, and both sides combine them
    induction e with
    | const v => rw [h, isRecursion_foldNodes]; rfl
    | var x => rw [h, isRecursion_foldNodes]; rfl
    | unary op e ih =>
      rw [h, isRecursion_foldNodes]
      simp only [children, List.mapM_cons, List.mapM_nil, ih]
    | binary op l r ihl ihr =>
      rw [h, isRecursion_foldNodes]
      simp only [children, List.mapM_cons, List.mapM_nil, ihl, ihr]
  · rintro rfl
    exact isRecursion_foldNodes

end

/-- A fold without a state. -/
def walk (visit : Expr → List α → α) (e : Expr) : Option α :=
  (e.fold (fun node operands (_ : Unit) => (visit node operands, ())) ()).1

/-- **A walk computes what is defined from the operands**, for every expression. -/
theorem walk_eq_some {visit : Expr → List α → α} {f : Expr → α}
    (h : ∀ e, f e = visit e (e.children.map f)) (e : Expr) : e.walk visit = some (f e) := by
  have hrecursion : IsRecursion (σ := Unit) (fun node operands => pure (visit node operands))
      (fun e => pure (f e)) := by
    intro e
    rw [List.mapM_pure, pure_bind]
    exact congrArg pure (h e)
  have hfold := congrFun (congrFun (isRecursion_iff.1 hrecursion) e) ()
  rw [walk, fold_eq]
  exact congrArg (fun answer => some answer.1) hfold.symm

/-! ## Writing -/

/-- The text of what is still to be written. -/
def Piece.render : Piece → String
  | .literal s => s
  | .node e => e.render

theorem foldr_pieces (e : Expr) (rest : String) :
    e.pieces.foldr (fun p s => p.render ++ s) rest = e.render ++ rest := by
  cases e with
  | const v => simp [pieces, Piece.render, render]
  | var x => simp [pieces, Piece.render, render]
  | unary op e => simp [pieces, Piece.render, render, String.append_assoc]
  | binary op l r => cases hop : op.isLogical <;>
      simp [pieces, Piece.render, render, hop, String.append_assoc]

theorem writePieces_eq (stack : List Piece) (written : String) :
    writePieces stack written = written ++ stack.foldr (fun p s => p.render ++ s) "" := by
  fun_induction writePieces stack written with
  | case1 written => simp
  | case2 written s rest ih => rw [ih, List.foldr_cons, Piece.render, String.append_assoc]
  | case3 written e rest ih =>
    rw [ih, List.foldr_append, foldr_pieces, List.foldr_cons, Piece.render]

/-- **The stack of pieces writes the formula text.** -/
theorem text_eq_render (e : Expr) : e.text = e.render := by
  rw [text, writePieces_eq]
  simp [Piece.render]

/-! ## Comparing -/

/-- The pairs of operands that are left to compare, unless the nodes themselves differ. -/
def openPair : Expr × Expr → Option (List (Expr × Expr))
  | (.const v, .const w) => if v.close w then some [] else none
  | (.var x, .var y) => if x = y then some [] else none
  | (.unary op e, .unary op' e') => if op = op' then some [(e, e')] else none
  | (.binary op l r, .binary op' l' r') => if op = op' then some [(l, l'), (r, r')] else none
  | _ => none

/-- The nodes on the left of all pairs. -/
def pendingSize (pairs : List (Expr × Expr)) : Nat := totalSize (pairs.map Prod.fst)

theorem pendingSize_append (l₁ l₂ : List (Expr × Expr)) :
    pendingSize (l₁ ++ l₂) = pendingSize l₁ + pendingSize l₂ := by
  induction l₁ with
  | nil => simp [pendingSize, totalSize]
  | cons p l₁ ih =>
    simp only [pendingSize, List.cons_append, List.map_cons, totalSize] at ih ⊢
    omega

theorem pendingSize_lt {p : Expr × Expr} {operands : List (Expr × Expr)}
    (h : openPair p = some operands) : pendingSize operands < p.1.size := by
  unfold openPair at h
  split at h
  all_goals grind [pendingSize, totalSize, size]

/-- Compares the pairs on the stack, the operands of a pair before what lies below it. -/
def compareAll (pairs : List (Expr × Expr)) : Bool :=
  match pairs with
  | [] => true
  | p :: rest =>
    match _h : openPair p with
    | none => false
    | some operands => compareAll (operands ++ rest)
termination_by pendingSize pairs
decreasing_by
  have := pendingSize_lt ‹_›
  rw [pendingSize_append]
  simp only [pendingSize, List.map_cons, totalSize] at this ⊢
  omega

/-- Similar nodes have similar operands. -/
theorem similar_eq_openPair (e e' : Expr) :
    e.similar e' = ((openPair (e, e')).map fun operands =>
      operands.all fun p => p.1.similar p.2).getD false := by
  cases e <;> cases e' <;> simp only [openPair, similar, Option.map_none, Option.getD_none]
  all_goals split <;> simp_all

theorem compareAll_eq_all (pairs : List (Expr × Expr)) :
    compareAll pairs = pairs.all fun p => p.1.similar p.2 := by
  fun_induction compareAll pairs with
  | case1 => rfl
  | case2 p rest h =>
    rw [List.all_cons, similar_eq_openPair, h]
    rfl
  | case3 p rest operands h ih =>
    rw [ih, List.all_append, List.all_cons, similar_eq_openPair p.1, h]
    rfl

end WeakestPre.Expr
