import WeakestPre.Proofs.Grammar.Expression
import WeakestPre.Proofs.Meaning

/-!
# How operators are grouped

Formula text puts parentheses around logical and unary operators only. All other operators between
two such parentheses make one chain, and the text does not show how the chain was grouped.

**Grouped expressions** (`Grouped`). In each chain tighter operators stand below looser ones, and
operators of one precedence group to the left. This is the grouping that a reader of the text
assumes.

**Regrouping** (`regroup`). Every expression can be regrouped in this way. What stands in its chains
and in which order stays the same (`Inorder.regroup`), and the result is grouped
(`grouped_regroup`).

A chain is rebuilt from the left. The next operator and its operand go into the right edge of what
was built so far, below all operators that are looser (`attach`).
-/

namespace WeakestPre.Expr

variable {op : BinaryOp} {l r : Expr}

/-! ## Grouped expressions -/

/-- The precedence of the outermost operator of a chain; parentheses and leaves hold together more
tightly than any operator. -/
def level : Expr → Nat
  | .binary op _ _ => if op.isLogical then 7 else op.precedence
  | _ => 7

/-- At each operator of a chain, one of the same chain on its left is at least as tight, and one on
its right is tighter. -/
def Grouped (e : Expr) : Prop :=
  ∀ op l r, .binary op l r ∈ e.subexpressions → op.isLogical = false →
    (∀ op' a b, l = .binary op' a b → op'.isLogical = false → op.precedence ≤ op'.precedence) ∧
    (∀ op' a b, r = .binary op' a b → op'.isLogical = false → op.precedence < op'.precedence)

theorem level_of_logical (h : op.isLogical = true) : (Expr.binary op l r).level = 7 := if_pos h

theorem level_of_not_logical (h : op.isLogical = false) :
    (Expr.binary op l r).level = op.precedence := if_neg (by simp [h])

/-- Only operators of the same chain bound the level of an expression. -/
theorem le_level_iff {k : Nat} (hk : k ≤ 7) {e : Expr} : k ≤ e.level ↔
    ∀ op a b, e = .binary op a b → op.isLogical = false → k ≤ op.precedence := by
  cases e with
  | const v => simpa [level] using hk
  | var x => simpa [level] using hk
  | unary op e => simpa [level] using hk
  | binary op a b =>
    cases hop : op.isLogical with
    | true => simpa [level_of_logical hop, hop] using hk
    | false => simp [level_of_not_logical hop, hop]

theorem three_le_level (e : Expr) : 3 ≤ e.level := by
  refine (le_level_iff (by decide)).2 fun op _ _ _ hop => ?_
  revert hop
  cases op <;> decide

theorem grouped_const (v : Binary64) : (Expr.const v).Grouped := by
  simp [Grouped, subexpressions]

theorem grouped_var (x : String) : (Expr.var x).Grouped := by
  simp [Grouped, subexpressions]

theorem grouped_unary {op : UnaryOp} {e : Expr} : (Expr.unary op e).Grouped ↔ e.Grouped := by
  simp [Grouped, subexpressions]

theorem grouped_binary : (Expr.binary op l r).Grouped ↔
    (op.isLogical = false → op.precedence ≤ l.level ∧ op.precedence < r.level) ∧
      l.Grouped ∧ r.Grouped := by
  have hle := op.precedence_bounds.2
  constructor
  · intro h
    refine ⟨fun hop => ?_, fun op' a b hmem => h op' a b ?_, fun op' a b hmem => h op' a b ?_⟩
    · obtain ⟨hleft, hright⟩ := h op l r (mem_subexpressions_self _) hop
      exact ⟨(le_level_iff (by omega)).2 hleft, (le_level_iff (by omega)).2 hright⟩
    · exact List.mem_cons_of_mem _ (List.mem_append_left _ hmem)
    · exact List.mem_cons_of_mem _ (List.mem_append_right _ hmem)
  · rintro ⟨hlevels, hl, hr⟩ op' a b hmem hop'
    rcases List.mem_cons.1 hmem with heq | hmem
    · obtain ⟨rfl, rfl, rfl⟩ := Expr.binary.inj heq
      obtain ⟨hleft, hright⟩ := hlevels hop'
      exact ⟨(le_level_iff (by omega)).1 hleft, (le_level_iff (by omega)).1 hright⟩
    · rcases List.mem_append.1 hmem with hmem | hmem
      · exact hl op' a b hmem hop'
      · exact hr op' a b hmem hop'

/-! ## Regrouping -/

/-- `l` with `op` and `r` behind it: they go below the looser operators on the right edge. -/
def attach (op : BinaryOp) (r : Expr) : Expr → Expr
  | .binary op' a b =>
    if op'.isLogical = false ∧ op'.precedence < op.precedence then .binary op' a (attach op r b)
    else .binary op (.binary op' a b) r
  | l => .binary op l r

/-- `l` with `op` and the whole chain of the third argument behind it. -/
def join : Expr → BinaryOp → Expr → Expr
  | l, op, .binary op' a b =>
    if op'.isLogical then attach op (.binary op' a b) l else join (join l op a) op' b
  | l, op, r => attach op r l

/-- The grouped expression with the same chains. -/
def regroup : Expr → Expr
  | .unary op e => .unary op (regroup e)
  | .binary op l r =>
    if op.isLogical then .binary op (regroup l) (regroup r) else join (regroup l) op (regroup r)
  | e => e

/-! ## What stays the same -/

/-- A list that is read off an expression from left to right. Along a chain it depends on the
operands and operators only, not on their grouping. -/
structure Inorder {β : Type} (f : Expr → List β) (g : BinaryOp → List β) : Prop where
  chain : ∀ op l r, op.isLogical = false → f (.binary op l r) = f l ++ (g op ++ f r)
  unary : ∀ op e e', f e = f e' → f (.unary op e) = f (.unary op e')
  logical : ∀ op l l' r r', op.isLogical = true → f l = f l' → f r = f r' →
    f (.binary op l r) = f (.binary op l' r')

namespace Inorder

variable {β : Type} {f : Expr → List β} {g : BinaryOp → List β}

theorem attach (h : Inorder f g) (hop : op.isLogical = false) (r l : Expr) :
    f (attach op r l) = f l ++ (g op ++ f r) := by
  induction l with
  | const v => exact h.chain op _ r hop
  | var x => exact h.chain op _ r hop
  | unary op' e _ => exact h.chain op _ r hop
  | binary op' a b _ ihb =>
    rw [Expr.attach]
    split
    · rename_i hop'
      rw [h.chain op' a _ hop'.1, ihb, h.chain op' a b hop'.1]
      simp
    · exact h.chain op _ r hop

theorem join (h : Inorder f g) {op : BinaryOp} (hop : op.isLogical = false) (l r : Expr) :
    f (join l op r) = f l ++ (g op ++ f r) := by
  induction r generalizing op l with
  | const v => exact h.attach hop _ l
  | var x => exact h.attach hop _ l
  | unary op' e _ => exact h.attach hop _ l
  | binary op' a b iha ihb =>
    rw [Expr.join]
    cases hop' : op'.isLogical with
    | true => exact h.attach hop _ l
    | false =>
      show f (Expr.join (Expr.join l op a) op' b) = _
      rw [ihb hop', iha hop, h.chain op' a b hop']
      simp

/-- **Regrouping keeps what stands in an expression, from left to right.** -/
theorem regroup (h : Inorder f g) (e : Expr) : f e.regroup = f e := by
  induction e with
  | const v => rfl
  | var x => rfl
  | unary op e ih => exact h.unary op _ _ ih
  | binary op l r ihl ihr =>
    rw [Expr.regroup]
    cases hop : op.isLogical with
    | true => exact h.logical op _ _ _ _ hop ihl ihr
    | false =>
      show f (Expr.join l.regroup op r.regroup) = _
      rw [h.join hop, ihl, ihr, h.chain op l r hop]

end Inorder

/-! ## Regrouping groups -/

/-- An operand that is no chain goes below the looser operators only, so nothing above it becomes
too tight. -/
theorem grouped_attach (hop : op.isLogical = false) (hr : r.Grouped) (hlevel : r.level = 7)
    (hl : l.Grouped) :
    (attach op r l).Grouped ∧ min l.level op.precedence ≤ (attach op r l).level := by
  have hle := op.precedence_bounds.2
  have htop : ∀ l : Expr, l.Grouped → op.precedence ≤ l.level →
      (binary op l r).Grouped ∧ min l.level op.precedence ≤ (binary op l r).level := by
    intro l hl hlevel'
    rw [grouped_binary, level_of_not_logical hop]
    exact ⟨⟨fun _ => ⟨hlevel', by omega⟩, hl, hr⟩, Nat.min_le_right _ _⟩
  induction l with
  | const v => exact htop _ hl (Nat.le_succ_of_le hle)
  | var x => exact htop _ hl (Nat.le_succ_of_le hle)
  | unary op' e _ => exact htop _ hl (Nat.le_succ_of_le hle)
  | binary op' a b _ ihb =>
    rw [attach]
    split
    · rename_i hlooser
      -- The new right operand of `op'` starts with `op` or with an operator that was there before.
      obtain ⟨hgroups, ha, hb⟩ := grouped_binary.1 hl
      obtain ⟨hleft, hright⟩ := hgroups hlooser.1
      obtain ⟨hgrouped, hmin⟩ := ihb hb
      rw [grouped_binary, level_of_not_logical hlooser.1, level_of_not_logical hlooser.1]
      refine ⟨⟨fun _ => ⟨hleft, ?_⟩, ha, hgrouped⟩, Nat.min_le_left _ _⟩
      omega
    · rename_i hnot
      refine htop _ hl ((le_level_iff (by omega)).2 fun op₁ a₁ b₁ heq hop₁ => ?_)
      obtain ⟨rfl, -, -⟩ := Expr.binary.inj heq
      exact Nat.le_of_not_lt fun hlt => hnot ⟨hop₁, hlt⟩

theorem grouped_join (hop : op.isLogical = false) (hl : l.Grouped) (hr : r.Grouped) :
    (join l op r).Grouped := by
  induction r generalizing op l with
  | const v => exact (grouped_attach hop hr rfl hl).1
  | var x => exact (grouped_attach hop hr rfl hl).1
  | unary op' e _ => exact (grouped_attach hop hr rfl hl).1
  | binary op' a b iha ihb =>
    rw [join]
    cases hop' : op'.isLogical with
    | true => exact (grouped_attach hop hr (level_of_logical hop') hl).1
    | false =>
      obtain ⟨-, ha, hb⟩ := grouped_binary.1 hr
      exact ihb hop' (iha hop hl ha) hb

/-- **Every expression can be regrouped.** -/
theorem grouped_regroup (e : Expr) : e.regroup.Grouped := by
  induction e with
  | const v => exact grouped_const v
  | var x => exact grouped_var x
  | unary op e ih => exact grouped_unary.2 ih
  | binary op l r ihl ihr =>
    rw [regroup]
    cases hop : op.isLogical with
    | true => exact grouped_binary.2 ⟨fun h => by simp [hop] at h, ihl, ihr⟩
    | false => exact grouped_join hop ihl ihr

end WeakestPre.Expr
