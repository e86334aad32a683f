import WeakestPre.Expr.Walk
import WeakestPre.Text.Hex

/-!
# The text of an expression

**Formula text** (`render`). Logical operators are written with parentheses around them, all other
binary operators without, and the operand of a unary operator stands in parentheses. The text is
meant for reading: it does not show how arithmetic was grouped.

**Outline** (`outline`). One unambiguous line in prefix notation. Constants are given by their bits.

`text` writes the formula text with a stack of its own, see `WeakestPre.Expr.Walk`.
-/

namespace WeakestPre.Expr

/-! ## Formula text -/

/-- The formula text, by recursion on the expression. -/
def render : Expr → String
  | .const v => v.text
  | .var x => x
  | .unary op e => op.symbol ++ "(" ++ render e ++ ")"
  | .binary op l r =>
    if op.isLogical then "(" ++ render l ++ " " ++ op.symbol ++ " " ++ render r ++ ")"
    else render l ++ " " ++ op.symbol ++ " " ++ render r

/-- What is still to be written: text as it is, or an expression. -/
inductive Piece where
  | literal (s : String)
  | node (e : Expr)

/-- The pieces that a node is made of. -/
def pieces : Expr → List Piece
  | .const v => [.literal v.text]
  | .var x => [.literal x]
  | .unary op e => [.literal (op.symbol ++ "("), .node e, .literal ")"]
  | .binary op l r =>
    if op.isLogical then
      [.literal "(", .node l, .literal (" " ++ op.symbol ++ " "), .node r, .literal ")"]
    else [.node l, .literal (" " ++ op.symbol ++ " "), .node r]

/-- More than the pieces of a node weigh together. -/
def Piece.weight : Piece → Nat
  | .literal _ => 1
  | .node e => 4 * e.size

/-- What a list of pieces weighs. -/
def totalWeight : List Piece → Nat
  | [] => 0
  | p :: rest => p.weight + totalWeight rest

theorem totalWeight_append (l₁ l₂ : List Piece) :
    totalWeight (l₁ ++ l₂) = totalWeight l₁ + totalWeight l₂ := by
  induction l₁ with
  | nil => simp [totalWeight]
  | cons p l₁ ih => simp only [List.cons_append, totalWeight, ih]; omega

theorem totalWeight_pieces_lt (e : Expr) : totalWeight (pieces e) < 4 * e.size := by
  cases e with
  | const v => simp [pieces, totalWeight, Piece.weight, size]
  | var x => simp [pieces, totalWeight, Piece.weight, size]
  | unary op e => simp only [pieces, totalWeight, Piece.weight, size]; omega
  | binary op l r =>
    simp only [pieces]
    split <;> simp only [totalWeight, Piece.weight, size] <;> omega

/-- Writes all pieces after the text so far. -/
def writePieces (stack : List Piece) (written : String) : String :=
  match stack with
  | [] => written
  | .literal s :: rest => writePieces rest (written ++ s)
  | .node e :: rest => writePieces (pieces e ++ rest) written
termination_by totalWeight stack
decreasing_by
  · simp only [totalWeight, Piece.weight]; omega
  · have := totalWeight_pieces_lt e
    simp only [totalWeight_append, totalWeight, Piece.weight]
    omega

def text (e : Expr) : String := writePieces [.node e] ""

/-! ## Outline -/

/-- The bits of a constant in hexadecimal digits. All patterns of not-a-number are one. -/
def outlineConst (v : Binary64) : String :=
  if v.isNaN then "#nan" else "#" ++ String.ofList (Text.hexDigits 16 v.bits.toNat)

/-- The outline of a node from the outlines of its operands. -/
def outlineNode (e : Expr) (operands : List String) : String :=
  match e with
  | .const v => outlineConst v
  | .var x => "$" ++ x
  | .unary op _ => "(" ++ " ".intercalate (op.symbol :: operands) ++ ")"
  | .binary op _ _ => "(" ++ " ".intercalate (op.symbol :: operands) ++ ")"

def outline (e : Expr) : String :=
  (e.fold (fun node operands (_ : Unit) => (outlineNode node operands, ())) ()).1.getD ""

end WeakestPre.Expr
