import WeakestPre.Proofs.Expr.Grouping
import WeakestPre.Proofs.Expr.Leaves
import WeakestPre.Proofs.Expr.Walk
import WeakestPre.Proofs.Grammar.Reading
import WeakestPre.Proofs.Grammar.Span
import WeakestPre.Proofs.Token.Joining

/-!
# Reading formula text

**Text and lexemes** (`layout_render`). Formula text is laid out as the lexemes of the expression
(`lexemes`), if its names and numerals are lexemes by themselves. Between any two lexemes stands a
blank, or one of them is a parenthesis.

**Derivation** (`exprAt_of_grouped`). From the lexemes of a grouped expression the grammar derives
that expression, from the layer of its level. Lexemes do not depend on the grouping, so those of any
expression derive the regrouped one.

**Theorem** (`ofText_text_eq_ok`). The text of an expression can be read, and it is read as that
expression iff the expression is grouped.
-/

namespace WeakestPre

variable {source : String} {e : Expr}

/-! ## Expressions whose text can be read -/

/-- The text is one token of this kind, with nothing around it. -/
def IsToken (kind : TokenKind) (s : String) : Prop :=
  ∃ source t mark, tokenize source s = .ok [t, mark] ∧ t.kind = kind ∧ t.text = s

theorem IsToken.layout {kind : TokenKind} {s : String} (h : IsToken kind s) :
    Layout [] s.toList [(kind, s.toList)] := by
  obtain ⟨source, t, mark, htokens, rfl, rfl⟩ := h
  obtain ⟨lexemes, mark', heq, -, hlayout⟩ := exists_layout_of_tokenize htokens
  have hsplit : [t] ++ [mark] = lexemes ++ [mark'] := heq
  obtain ⟨rfl, -⟩ := List.append_inj' hsplit rfl
  exact hlayout

theorem isToken_of_isLexeme {kind : TokenKind} {s : String} (h : IsLexeme kind s.toList) :
    IsToken kind s := by
  have hnothing : Layout [] [] [] := .blanks (by simp)
  have hlayout : Layout [] s.toList [(kind, s.toList)] := by
    simpa using hnothing.cons h (endsBefore_nil kind _)
  obtain ⟨w, mark, htokens, hw, -⟩ := hlayout.exists_tokens ""
  obtain ⟨t, rfl, ht⟩ := List.map_eq_singleton_iff.1 hw
  exact ⟨"", t, mark, htokens, Token.lexeme_eq_iff.1 ht⟩

/-- A lexeme is read whole as a text of its own. -/
theorem isLexeme_iff {kind : TokenKind} {v : List Char} :
    IsLexeme kind v ↔ lexeme? v = some (kind, v) := by
  constructor
  · intro h
    simpa using lexeme?_append h (endsBefore_nil kind v)
  · intro h
    obtain ⟨-, -, hlexeme, -⟩ := exists_of_lexeme? h
    exact hlexeme

theorem isToken_iff {kind : TokenKind} {s : String} :
    IsToken kind s ↔ lexeme? s.toList = some (kind, s.toList) := by
  rw [← isLexeme_iff]
  refine ⟨fun h => ?_, isToken_of_isLexeme⟩
  have hlayout := h.layout
  generalize s.toList = v at hlayout
  generalize hlexeme : (kind, v) = l at hlayout
  cases hlayout with
  | lexeme hw hv hend hs =>
    obtain ⟨rfl, hchars⟩ := Prod.mk.inj hlexeme
    rw [hchars]
    exact hv

instance (kind : TokenKind) (s : String) : Decidable (IsToken kind s) :=
  decidable_of_iff _ isToken_iff.symm

namespace Expr

/-- Every name is an identifier that is not reserved, and every constant is written as a numeral
that is read as the constant. -/
structure Legible (e : Expr) : Prop where
  name : ∀ x, .var x ∈ e.leaves → IsToken .identifier x ∧ x ∉ reservedWords
  numeral : ∀ v, .const v ∈ e.leaves →
    IsToken .number v.text ∧ Binary64.ofNumeral? v.text = some v

theorem Legible.of_leaves {e' : Expr} (h : e.Legible) (hleaves : ∀ d ∈ e'.leaves, d ∈ e.leaves) :
    e'.Legible :=
  ⟨fun x hx => h.name x (hleaves _ hx), fun v hv => h.numeral v (hleaves _ hv)⟩

/-- Whether a constant or a variable is legible. -/
def isLegibleLeaf : Expr → Bool
  | .var x => decide (IsToken .identifier x) && !reservedWords.contains x
  | .const v => decide (IsToken .number v.text) && Binary64.ofNumeral? v.text == some v
  | _ => true

theorem legible_iff : e.Legible ↔ e.leaves.all isLegibleLeaf = true := by
  rw [List.all_eq_true]
  constructor
  · intro h d hd
    cases d with
    | var x => simpa [isLegibleLeaf] using h.name x hd
    | const v => simpa [isLegibleLeaf] using h.numeral v hd
    | unary | binary => rfl
  · intro h
    exact ⟨fun x hx => by simpa [isLegibleLeaf] using h _ hx,
      fun v hv => by simpa [isLegibleLeaf] using h _ hv⟩

instance (e : Expr) : Decidable e.Legible := decidable_of_iff _ legible_iff.symm

theorem inorder_leaves : Inorder leaves fun _ => [] where
  chain _ _ _ _ := rfl
  unary _ _ _ h := h
  logical _ _ _ _ _ _ hl hr := by rw [leaves, leaves, hl, hr]

theorem Legible.regroup (h : e.Legible) : e.regroup.Legible := by
  refine h.of_leaves fun d hd => ?_
  rwa [inorder_leaves.regroup] at hd

end Expr

/-! ## Text and lexemes -/

def UnaryOp.lexeme (op : UnaryOp) : TokenKind × List Char :=
  (if op = .abs then .identifier else .operator, op.symbol.toList)

def BinaryOp.lexeme (op : BinaryOp) : TokenKind × List Char := (.operator, op.symbol.toList)

theorem UnaryOp.isLexeme (op : UnaryOp) : IsLexeme op.lexeme.1 op.lexeme.2 := by
  cases op with
  | not => exact .shortOperator (by decide)
  | neg => exact .shortOperator (by decide)
  | abs => exact .word (by decide) (List.all_eq_true.1 (by decide))

theorem BinaryOp.isLexeme (op : BinaryOp) : IsLexeme op.lexeme.1 op.lexeme.2 := by
  have hsymbol : op.symbol.toList ∈ longOperators ∨
      op.symbol.toList ∈ shortOperators.map fun c => [c] := by
    cases op <;> decide
  rcases hsymbol with hlong | hshort
  · exact .longOperator hlong
  · obtain ⟨c, hc, heq⟩ := List.mem_map.1 hshort
    rw [lexeme, ← heq]
    exact .shortOperator hc

namespace Expr

def openMark : TokenKind × List Char := (.punctuation, ['('])

def closeMark : TokenKind × List Char := (.punctuation, [')'])

/-- What the text of an expression consists of, apart from blanks. -/
def lexemes : Expr → List (TokenKind × List Char)
  | .const v => [(.number, v.text.toList)]
  | .var x => [(.identifier, x.toList)]
  | .unary op e => op.lexeme :: openMark :: (lexemes e ++ [closeMark])
  | .binary op l r =>
    if op.isLogical then openMark :: (lexemes l ++ op.lexeme :: (lexemes r ++ [closeMark]))
    else lexemes l ++ op.lexeme :: lexemes r

theorem inorder_lexemes : Inorder lexemes fun op => [op.lexeme] where
  chain _ _ _ hop := by simp [lexemes, hop]
  unary _ _ _ h := by simp [lexemes, h]
  logical _ _ _ _ _ hop hl hr := by simp [lexemes, hop, hl, hr]

section

variable {cs : List Char} {ls : List (TokenKind × List Char)} (h : Layout [] cs ls)

include h

theorem layout_close : Layout [] (cs ++ [')']) (ls ++ [closeMark]) :=
  h.append_delimiter (by decide) (.mark_cons (by decide) (.blanks (by simp)))

theorem layout_operator (op : BinaryOp) :
    Layout [] (' ' :: (op.symbol.toList ++ ' ' :: cs)) (op.lexeme :: ls) :=
  (Layout.cons op.isLexeme (endsBefore_delimiter (by decide) _ _ _) h.blank_cons).blank_cons

end

/-- **Formula text is laid out as the lexemes of the expression.** -/
theorem layout_render (h : e.Legible) : Layout [] e.render.toList e.lexemes := by
  induction e with
  | const v => exact (h.numeral v (by simp [leaves])).1.layout
  | var x => exact (h.name x (by simp [leaves])).1.layout
  | unary op e ih =>
    have hchars : (Expr.unary op e).render.toList =
        op.symbol.toList ++ '(' :: (e.render.toList ++ [')']) := by
      simp [render]
    rw [hchars, lexemes]
    refine .cons op.isLexeme (endsBefore_delimiter (by decide) _ _ _) (.mark_cons (by decide) ?_)
    exact layout_close (ih (h.of_leaves fun d hd => hd))
  | binary op l r ihl ihr =>
    have hl := ihl (h.of_leaves fun d hd => List.mem_append_left _ hd)
    have hr := ihr (h.of_leaves fun d hd => List.mem_append_right _ hd)
    cases hop : op.isLogical with
    | true =>
      have hchars : (Expr.binary op l r).render.toList = '(' :: (l.render.toList ++
          ' ' :: (op.symbol.toList ++ ' ' :: (r.render.toList ++ [')']))) := by
        simp [render, hop]
      rw [hchars, lexemes, if_pos hop]
      refine .mark_cons (by decide) (hl.append_delimiter (by decide) ?_)
      exact layout_operator (layout_close hr) op
    | false =>
      have hchars : (Expr.binary op l r).render.toList = l.render.toList ++
          ' ' :: (op.symbol.toList ++ ' ' :: r.render.toList) := by
        simp [render, hop]
      rw [hchars, lexemes, if_neg (by simp [hop])]
      exact hl.append_delimiter (by decide) (layout_operator hr op)

/-! ## Derivation from the lexemes -/

open Grammar

theorem binaryOp?_of_lexeme {t : Token} {op : BinaryOp} (h : t.lexeme = op.lexeme) :
    binaryOp? t = some op := by
  obtain ⟨hkind, htext⟩ := Token.lexeme_eq_iff.1 h
  rw [binaryOp?, if_pos hkind, htext]
  cases op <;> decide

theorem exprAt_binary {l r : Expr} {w w' : List Token} {t : Token} {op : BinaryOp} {j k : Nat}
    (hl : ExprAt j w l []) (ht : t.lexeme = op.lexeme) (hr : ExprAt k w' r [])
    (hleft : op.precedence ≤ j) (hright : op.precedence < k) :
    ExprAt op.precedence (w ++ t :: w') (.binary op l r) [] :=
  .binary (ExprAt.append_iff.2 (hl.weaken hleft)) (binaryOp?_of_lexeme ht) rfl (hr.weaken hright)

theorem exprAt_closing {w : List Token} {c : Token} {k : Nat} (h : ExprAt k w e []) (hk : 1 ≤ k) :
    ExprAt 1 (w ++ [c]) e [c] :=
  ExprAt.append_iff.2 (h.weaken hk)

theorem exprAt_unary {w : List Token} {t o c : Token} {op : UnaryOp} {k : Nat}
    (ht : t.lexeme = op.lexeme) (ho : o.isPunctuation "(" = true) (h : ExprAt k w e [])
    (hk : 1 ≤ k) (hc : c.isPunctuation ")" = true) :
    ExprAt 7 (t :: o :: (w ++ [c])) (.unary op e) [] := by
  have hinner : ExprAt 1 (w ++ [c]) e [c] := exprAt_closing h hk
  have hsymbol := Token.lexeme_eq_iff.1 ht
  cases op with
  | not => exact .not (Token.isOperator_iff.2 hsymbol) (.group ho hinner hc)
  | neg => exact .neg (Token.isOperator_iff.2 hsymbol) (.group ho hinner hc)
  | abs => exact .abs (Token.isWord_iff.2 hsymbol) ho hinner hc

/-- Two operands within parentheses. -/
theorem exprAt_group {l r : Expr} {w w' : List Token} {t o c : Token} {op : BinaryOp} {j k : Nat}
    (ho : o.isPunctuation "(" = true) (hl : ExprAt j w l []) (ht : t.lexeme = op.lexeme)
    (hr : ExprAt k w' r []) (hleft : op.precedence ≤ j) (hright : op.precedence < k)
    (hc : c.isPunctuation ")" = true) :
    ExprAt 7 (o :: (w ++ t :: (w' ++ [c]))) (.binary op l r) [] := by
  have hclosing := exprAt_closing (c := c) (exprAt_binary hl ht hr hleft hright)
    op.precedence_bounds.1
  rw [List.append_assoc, List.cons_append] at hclosing
  exact .group ho hclosing hc

/-- **A grouped expression is derived from its lexemes**, from the layer of its level. -/
theorem exprAt_of_grouped {w : List Token} (hgrouped : e.Grouped) (hlegible : e.Legible)
    (hw : w.map Token.lexeme = e.lexemes) : ExprAt e.level w e [] := by
  induction e generalizing w with
  | const v =>
    obtain ⟨t, rfl, ht⟩ := List.map_eq_singleton_iff.1 hw
    obtain ⟨hkind, htext⟩ := Token.lexeme_eq_iff.1 ht
    refine .number hkind ?_
    rw [htext]
    exact (hlegible.numeral v (by simp [leaves])).2
  | var x =>
    obtain ⟨t, rfl, ht⟩ := List.map_eq_singleton_iff.1 hw
    obtain ⟨hkind, rfl⟩ := Token.lexeme_eq_iff.1 ht
    exact .name hkind (hlegible.name _ (by simp [leaves])).2
  | unary op e ih =>
    simp only [lexemes, List.map_eq_cons_iff, List.map_eq_append_iff, List.map_eq_nil_iff] at hw
    obtain ⟨t, _, rfl, ht, o, _, rfl, ho, w, _, rfl, hw, c, _, rfl, hc, rfl⟩ := hw
    have he := ih (grouped_unary.1 hgrouped) (hlegible.of_leaves fun d hd => hd) hw
    exact exprAt_unary ht (Token.isPunctuation_of_lexeme ho) he
      (by have := three_le_level e; omega) (Token.isPunctuation_of_lexeme hc)
  | binary op l r ihl ihr =>
    obtain ⟨hlevels, hl, hr⟩ := grouped_binary.1 hgrouped
    have hl := fun {w} => @ihl w hl (hlegible.of_leaves fun d hd => List.mem_append_left _ hd)
    have hr := fun {w} => @ihr w hr (hlegible.of_leaves fun d hd => List.mem_append_right _ hd)
    cases hop : op.isLogical with
    | true =>
      -- A logical operator is looser than all that its operands can show without parentheses.
      have hlow : op.precedence < 3 := by
        revert hop
        cases op <;> decide
      have := three_le_level l
      have := three_le_level r
      rw [lexemes, if_pos hop] at hw
      simp only [List.map_eq_cons_iff, List.map_eq_append_iff, List.map_eq_nil_iff] at hw
      obtain ⟨o, _, rfl, ho, w, _, rfl, hw, t, _, rfl, ht, w', _, rfl, hw', c, _, rfl, hc, rfl⟩ :=
        hw
      rw [level_of_logical hop]
      exact exprAt_group (Token.isPunctuation_of_lexeme ho) (hl hw) ht (hr hw') (by omega)
        (by omega) (Token.isPunctuation_of_lexeme hc)
    | false =>
      obtain ⟨hleft, hright⟩ := hlevels hop
      rw [lexemes, if_neg (by simp [hop])] at hw
      simp only [List.map_eq_cons_iff, List.map_eq_append_iff] at hw
      obtain ⟨w, _, rfl, hw, t, w', rfl, ht, hw'⟩ := hw
      rw [level_of_not_logical hop]
      exact exprAt_binary (hl hw) ht (hr hw') hleft hright

/-! ## Reading the text -/

/-- A text is read as the expression that is derived from all its tokens. -/
theorem ofText_of_exprAt {limit : Nat} {text : String} {w : List Token} {mark : Token} {k : Nat}
    (htokens : tokenize source text = .ok (w ++ [mark])) (hend : mark.isEnd = true)
    (h : ExprAt k w e []) (hk : 1 ≤ k)
    (hdepth : ∀ t, (Expr.ofText limit source text).result ≠ .error (.tooDeep t)) :
    (Expr.ofText limit source text).result = .ok e := by
  have hwhole : ExprAt 1 (w ++ [mark]) e [mark] := exprAt_closing h hk
  have hstops : Stops 0 [mark] := stops_cons (binaryOp?_eq_none (by simp [Token.isEnd_iff.1 hend]))
  obtain ⟨_, rfl, hread⟩ := exists_readText_eq_ok htokens hwhole.isSuffix.2 hdepth fun s hs =>
    ((expression_complete limit).2 0 s e [mark] (hs ▸ hwhole) (by simp) hstops).mono
      fun _ _ h => ⟨h.1, isEnd_of_toList h.2 hend⟩
  exact hread

/-- The text of an expression is read as any grouped expression with the same lexemes. -/
theorem ofText_text_of_grouped {limit : Nat} {e' : Expr} (hlegible : e.Legible)
    (hgrouped : e'.Grouped) (hlegible' : e'.Legible) (hlexemes : e'.lexemes = e.lexemes)
    (hdepth : ∀ t, (Expr.ofText limit source e.text).result ≠ .error (.tooDeep t)) :
    (Expr.ofText limit source e.text).result = .ok e' := by
  have hlayout := layout_render hlegible
  rw [← text_eq_render] at hlayout
  obtain ⟨w, mark, htokens, hw, hend⟩ := hlayout.exists_tokens source
  have hexpr := exprAt_of_grouped hgrouped hlegible' (hw.trans hlexemes.symm)
  exact ofText_of_exprAt htokens hend hexpr (by have := three_le_level e'; omega) hdepth

/-- **Formula text can be read, and it is read as the expression that it was written for iff that
expression is grouped.** -/
theorem ofText_text_eq_ok {limit : Nat} (h : e.Legible)
    (hdepth : ∀ t, (Expr.ofText limit source e.text).result ≠ .error (.tooDeep t)) :
    ∃ e', (Expr.ofText limit source e.text).result = .ok e' ∧ (e' = e ↔ e.Grouped) := by
  have hregroup := ofText_text_of_grouped h (grouped_regroup e) h.regroup
    (inorder_lexemes.regroup e) hdepth
  refine ⟨e.regroup, hregroup, fun heq => heq ▸ grouped_regroup e, fun hgrouped => ?_⟩
  have hself := ofText_text_of_grouped h hgrouped h rfl hdepth
  exact Except.ok.inj (hregroup.symm.trans hself)

/-- The text `(a - b - 2 > 0 && !(c))` is read with the differences the other way around. -/
def nestedDifference : Expr :=
  .binary .and
    (.binary .gt (.binary .sub (.var "a") (.binary .sub (.var "b") (.const ⟨0x4000000000000000⟩)))
      zero)
    (.unary .not (.var "c"))

theorem ofText_nestedDifference : nestedDifference.Legible ∧ ¬ nestedDifference.Grouped ∧
    (∀ t, (Expr.ofText 100 "" nestedDifference.text).result ≠ .error (.tooDeep t)) ∧
    ∃ e', (Expr.ofText 100 "" nestedDifference.text).result = .ok e' ∧
      (e' = nestedDifference ↔ nestedDifference.Grouped) := by
  have hlegible : nestedDifference.Legible := by
    constructor
    · intro x hx
      obtain rfl | rfl | rfl : x = "a" ∨ x = "b" ∨ x = "c" := by
        simpa [nestedDifference, leaves, zero] using hx
      · exact ⟨isToken_of_isLexeme (.word (by decide) (by simp)), by decide⟩
      · exact ⟨isToken_of_isLexeme (.word (by decide) (by simp)), by decide⟩
      · exact ⟨isToken_of_isLexeme (.word (by decide) (by simp)), by decide⟩
    · intro v hv
      obtain rfl | rfl : v = ⟨0x4000000000000000⟩ ∨ v = Binary64.zero := by
        simpa [nestedDifference, leaves, zero] using hv
      · have htext : Binary64.text ⟨0x4000000000000000⟩ = "2" := by decide +kernel
        rw [htext]
        refine ⟨isToken_of_isLexeme (.number (by decide) ?_), by decide +kernel⟩
        exact List.all_eq_true.1 (by decide)
      · have htext : Binary64.zero.text = "0" := by decide +kernel
        rw [htext]
        refine ⟨isToken_of_isLexeme (.number (by decide) ?_), by decide +kernel⟩
        exact List.all_eq_true.1 (by decide)
  have hgrouped : ¬ nestedDifference.Grouped := by
    simp [nestedDifference, grouped_binary, level, BinaryOp.isLogical, BinaryOp.precedence]
  have hread : (Expr.ofText 100 "" nestedDifference.text).result.isOk = true := by decide +kernel
  have hdepth : ∀ t, (Expr.ofText 100 "" nestedDifference.text).result ≠ .error (.tooDeep t) := by
    intro t ht
    rw [ht] at hread
    cases hread
  exact ⟨hlegible, hgrouped, hdepth, ofText_text_eq_ok hlegible hdepth⟩

end Expr

end WeakestPre
