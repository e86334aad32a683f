import WeakestPre.Proofs.Expr.Variables
import WeakestPre.Proofs.Grammar.Printed

/-!
# What reading formula text again keeps

Formula text is read as the expression regrouped, which in general is another expression. The two
agree in all that is read off their chains from left to right.

**Symbols** (`symbols`). Constants, variables and operators stand in the same order in both.

**Free variables.** They depend on the occurrences of variables alone, which stand in the same order
in both too.

**Theorem** (`ofText_text_stable`). However an expression is grouped, its text can be read, and what
is read has the same text, the same free variables and the same symbols in the same order.
-/

namespace WeakestPre.Expr

variable {e : Expr} {source : String}

/-! ## Symbols -/

/-- What stands in an expression, apart from its grouping. -/
inductive Symbol where
  | const (value : Binary64)
  | var (name : String)
  | unary (op : UnaryOp)
  | binary (op : BinaryOp)
  deriving DecidableEq, Repr

/-- The constants, variables and operators from left to right. -/
def symbols : Expr → List Symbol
  | .const v => [.const v]
  | .var x => [.var x]
  | .unary op e => .unary op :: symbols e
  | .binary op l r => symbols l ++ .binary op :: symbols r

theorem inorder_symbols : Inorder symbols fun op => [.binary op] where
  chain _ _ _ _ := rfl
  unary _ _ _ h := by rw [symbols, symbols, h]
  logical _ _ _ _ _ _ hl hr := by rw [symbols, symbols, hl, hr]

/-! ## Text and occurrences -/

theorem inorder_render :
    Inorder (fun e => e.render.toList) fun op => ' ' :: (op.symbol.toList ++ [' ']) where
  chain _ _ _ hop := by simp [render, hop]
  unary _ _ _ h := by simp [render, h]
  logical _ _ _ _ _ hop hl hr := by simp [render, hop, hl, hr]

theorem inorder_occurrences : Inorder occurrences fun _ => [] where
  chain _ _ _ _ := rfl
  unary _ _ _ h := h
  logical _ _ _ _ _ _ hl hr := by rw [occurrences, occurrences, hl, hr]

/-! ## Reading again -/

/-- **Formula text is stable.** What is read from it has the same text, the same free variables and
the same constants, variables and operators from left to right. -/
theorem ofText_text_stable {limit : Nat} (h : e.Legible)
    (hdepth : ∀ t, (Expr.ofText limit source e.text).result ≠ .error (.tooDeep t)) :
    ∃ e', (Expr.ofText limit source e.text).result = .ok e' ∧ e'.text = e.text ∧
      e'.freeVariables = e.freeVariables ∧ e'.symbols = e.symbols := by
  have hread := ofText_text_of_grouped h (grouped_regroup e) h.regroup
    (inorder_lexemes.regroup e) hdepth
  refine ⟨e.regroup, hread, ?_, ?_, inorder_symbols.regroup e⟩
  · rw [text_eq_render, text_eq_render, ← String.toList_inj]
    exact inorder_render.regroup e
  · rw [freeVariables_eq_foldr, freeVariables_eq_foldr, inorder_occurrences.regroup]

/-- The text `-(x * y + 2) / x` is read with the product in the sum, within the parentheses only. -/
def sumInProduct : Expr :=
  .binary .div
    (.unary .neg (.binary .mul (.var "x") (.binary .add (.var "y") (.const ⟨0x4000000000000000⟩))))
    (.var "x")

theorem ofText_sumInProduct : sumInProduct.Legible ∧ ¬ sumInProduct.Grouped ∧
    (∀ t, (Expr.ofText 100 "" sumInProduct.text).result ≠ .error (.tooDeep t)) ∧
    ∃ e', (Expr.ofText 100 "" sumInProduct.text).result = .ok e' ∧ e'.text = sumInProduct.text ∧
      e'.freeVariables = sumInProduct.freeVariables ∧ e'.symbols = sumInProduct.symbols := by
  have hlegible : sumInProduct.Legible := by decide +kernel
  have hgrouped : ¬ sumInProduct.Grouped := by
    simp [sumInProduct, grouped_binary, grouped_unary, level, BinaryOp.isLogical,
      BinaryOp.precedence]
  have hread : (Expr.ofText 100 "" sumInProduct.text).result.isOk = true := by decide +kernel
  have hdepth : ∀ t, (Expr.ofText 100 "" sumInProduct.text).result ≠ .error (.tooDeep t) :=
    fun _ => ne_error_of_isOk hread _
  exact ⟨hlegible, hgrouped, hdepth, ofText_text_stable hlegible hdepth⟩

end WeakestPre.Expr
