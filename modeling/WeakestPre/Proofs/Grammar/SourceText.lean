import WeakestPre.Proofs.Grammar.Block
import WeakestPre.Proofs.Grammar.Printed
import WeakestPre.Proofs.Stmt.Proper

/-!
# Source text

Formula text and program text leave out what they can: they do not show how operators of a chain are
grouped, nor where a sequence within a sequence starts. Source text writes it all down.

**Source text** (`Expr.sourceText`, `Stmt.sourceText`). Every binary operator stands in parentheses
and every sequence in braces. A conditional would take the semicolon behind it, and the statements
behind that, into its second branch; as an element of a sequence it has braces of its own.

**Spelling** (`Spells`). Text and derivation are built side by side: a text spells a property of
tokens if it is laid out as lexemes that any tokens with the property may have. There is one lemma
for each way in which a text is put together.

**Theorem** (`ofText_sourceText`). Every expression is what its source text is read as, and so is
every statement that a text can be read as: one without sequences of a single element.
-/

namespace WeakestPre

variable {source : String}

/-! ## The text -/

/-- The text with parentheses around every binary operator. -/
def Expr.sourceText : Expr → String
  | .const v => v.text
  | .var x => x
  | .unary op e => op.symbol ++ "(" ++ e.sourceText ++ ")"
  | .binary op l r => "(" ++ l.sourceText ++ " " ++ op.symbol ++ " " ++ r.sourceText ++ ")"

namespace Stmt

def isConditional : Stmt → Bool
  | .cond _ _ _ => true
  | _ => false

/-- The text of an element of a sequence, from its source text. -/
def asElement (S : Stmt) (text : String) : String :=
  if S.isConditional then "\x7b" ++ text ++ "\x7d" else text

mutual

/-- The text with braces around every sequence and every branch. -/
def sourceText : Stmt → String
  | .assign x e => x ++ " := " ++ e.sourceText
  | .seq body => "\x7b " ++ " ; ".intercalate (elementTexts body) ++ " \x7d"
  | .cond b s t =>
    "if (" ++ b.sourceText ++ ") \x7b" ++ sourceText s ++ "\x7d else \x7b" ++ sourceText t ++ "\x7d"

def elementTexts : List Stmt → List String
  | [] => []
  | s :: rest => s.asElement (sourceText s) :: elementTexts rest

end

/-- Every name and every constant of the statement can be read. -/
def Legible (S : Stmt) : Prop := ∀ e ∈ S.expressions, e.Legible

instance (S : Stmt) : Decidable S.Legible := inferInstanceAs (Decidable (∀ e ∈ S.expressions, _))

end Stmt

/-! ## Spelling -/

/-- The text is laid out as lexemes, and tokens with these lexemes have the property. -/
def Spells (cs : List Char) (P : List Token → Prop) : Prop :=
  ∃ ls, Layout [] cs ls ∧ ∀ w, w.map Token.lexeme = ls → P w

namespace Spells

variable {cs cs' : List Char} {c : Char} {P Q : List Token → Prop}

theorem mono (h : Spells cs P) (hPQ : ∀ w, P w → Q w) : Spells cs Q := by
  obtain ⟨ls, hlayout, hP⟩ := h
  exact ⟨ls, hlayout, fun w hw => hPQ w (hP w hw)⟩

theorem nil : Spells [] (· = []) :=
  ⟨[], .blanks (by simp), fun _ hw => List.map_eq_nil_iff.1 hw⟩

theorem single {kind : TokenKind} {s : String} (hs : IsToken kind s) :
    Spells s.toList fun w => ∃ t : Token, w = [t] ∧ t.lexeme = (kind, s.toList) :=
  ⟨_, hs.layout, fun _ hw => List.map_eq_singleton_iff.1 hw⟩

theorem append (h : Spells cs P) (hc : c ∈ delimiters) (h' : Spells (c :: cs') Q) :
    Spells (cs ++ c :: cs') fun w => ∃ w₁ w₂, w = w₁ ++ w₂ ∧ P w₁ ∧ Q w₂ := by
  obtain ⟨ls, hlayout, hP⟩ := h
  obtain ⟨ls', hlayout', hQ⟩ := h'
  refine ⟨_, hlayout.append_delimiter hc hlayout', fun w hw => ?_⟩
  obtain ⟨w₁, w₂, rfl, hw₁, hw₂⟩ := List.map_eq_append_iff.1 hw
  exact ⟨w₁, w₂, rfl, hP w₁ hw₁, hQ w₂ hw₂⟩

theorem blank (h : Spells cs P) : Spells (' ' :: cs) P := by
  obtain ⟨ls, hlayout, hP⟩ := h
  exact ⟨ls, hlayout.blank_cons, hP⟩

theorem mark (hc : c ∈ punctuationMarks) (h : Spells cs P) : Spells (c :: cs) fun w =>
    ∃ t w', w = t :: w' ∧ t.isPunctuation (String.singleton c) = true ∧ P w' := by
  obtain ⟨ls, hlayout, hP⟩ := h
  refine ⟨_, hlayout.mark_cons hc, fun w hw => ?_⟩
  obtain ⟨t, w', rfl, ht, hw'⟩ := List.map_eq_cons_iff.1 hw
  exact ⟨t, w', rfl, Token.isPunctuation_of_lexeme ht, hP w' hw'⟩

theorem token {kind : TokenKind} {s : String} (hs : IsToken kind s) (hc : c ∈ delimiters)
    (h : Spells (c :: cs) P) : Spells (s.toList ++ c :: cs) fun w =>
      ∃ t w', w = t :: w' ∧ t.lexeme = (kind, s.toList) ∧ P w' := by
  refine ((single hs).append hc h).mono ?_
  rintro _ ⟨_, w, rfl, ⟨t, rfl, ht⟩, hw⟩
  exact ⟨t, w, rfl, ht, hw⟩

end Spells

theorem UnaryOp.isToken (op : UnaryOp) : IsToken op.lexeme.1 op.symbol :=
  isToken_of_isLexeme op.isLexeme

theorem BinaryOp.isToken (op : BinaryOp) : IsToken op.lexeme.1 op.symbol :=
  isToken_of_isLexeme op.isLexeme

/-! ## Expressions -/

open Grammar

/-- **Source text spells the expression**, as a primary. -/
theorem Expr.spells_sourceText {e : Expr} (h : e.Legible) :
    Spells e.sourceText.toList fun w => ExprAt 7 w e [] := by
  induction e with
  | const v =>
    obtain ⟨htoken, hvalue⟩ := h.numeral v (by simp [leaves])
    refine (Spells.single htoken).mono ?_
    rintro _ ⟨t, rfl, ht⟩
    obtain ⟨hkind, htext⟩ := Token.lexeme_eq_iff.1 ht
    exact .number hkind (by rw [htext]; exact hvalue)
  | var x =>
    obtain ⟨htoken, hname⟩ := h.name x (by simp [leaves])
    refine (Spells.single htoken).mono ?_
    rintro _ ⟨t, rfl, ht⟩
    obtain ⟨hkind, rfl⟩ := Token.lexeme_eq_iff.1 ht
    exact .name hkind hname
  | unary op e ih =>
    have hchars : (Expr.unary op e).sourceText.toList =
        op.symbol.toList ++ '(' :: (e.sourceText.toList ++ [')']) := by
      simp [sourceText]
    rw [hchars]
    have hinner := (ih (h.of_leaves fun d hd => hd)).append (c := ')') (by decide)
      (.mark (by decide) .nil)
    refine (Spells.token op.isToken (by decide) (hinner.mark (by decide))).mono ?_
    rintro _ ⟨t, _, rfl, ht, o, _, rfl, ho, w, _, rfl, hw, c, _, rfl, hc, rfl⟩
    exact exprAt_unary ht ho hw (by decide) hc
  | binary op l r ihl ihr =>
    have hl := ihl (h.of_leaves fun d hd => List.mem_append_left _ hd)
    have hr := ihr (h.of_leaves fun d hd => List.mem_append_right _ hd)
    have hchars : (Expr.binary op l r).sourceText.toList = '(' :: (l.sourceText.toList ++
        ' ' :: (op.symbol.toList ++ ' ' :: (r.sourceText.toList ++ [')']))) := by
      simp [sourceText]
    rw [hchars]
    have hclosed := hr.append (c := ')') (by decide) (.mark (by decide) .nil)
    have hoperator := (Spells.token op.isToken (by decide) hclosed.blank).blank
    refine ((hl.append (by decide) hoperator).mark (by decide)).mono ?_
    rintro _ ⟨o, _, rfl, ho, w, _, rfl, hw, t, _, rfl, ht, w', _, rfl, hw', c, _, rfl, hc, rfl⟩
    have := op.precedence_bounds
    exact exprAt_group ho hw ht hw' (by omega) (by omega) hc

/-! ## Statements -/

namespace Stmt

/-- The tokens are a statement in front of anything, but for a semicolon behind a conditional. -/
def DerivedFrom (S : Stmt) (w : List Token) : Prop :=
  ∀ r, (S.isConditional = true → Closed false r) → StatementAt Closed (w ++ r) S r

/-- The tokens are a statement in front of anything. -/
def ElementFrom (S : Stmt) (w : List Token) : Prop := ∀ r, StatementAt Closed (w ++ r) S r

/-- The tokens are the inside of a block. -/
def ElementsFrom (body : List Stmt) (w : List Token) : Prop := ∀ r, ItemsAt Closed (w ++ r) body r

variable {S T : Stmt} {cs cs' : List Char}

theorem spells_assign {x : String} {e : Expr} (hx : IsToken .identifier x)
    (hname : x ∉ reservedWords) (he : e.Legible) :
    Spells (Stmt.assign x e).sourceText.toList (Stmt.assign x e).DerivedFrom := by
  have hchars : (Stmt.assign x e).sourceText.toList =
      x.toList ++ ' ' :: (":=".toList ++ ' ' :: e.sourceText.toList) := by
    simp [sourceText]
  rw [hchars]
  have hsign : IsToken .operator ":=" := by decide
  have hvalue := Spells.token hsign (by decide) (e.spells_sourceText he).blank
  refine (Spells.token hx (by decide) hvalue.blank).mono ?_
  rintro _ ⟨t, _, rfl, ht, a, w, rfl, ha, hw⟩ r -
  obtain ⟨hkind, rfl⟩ := Token.lexeme_eq_iff.1 ht
  have hsign : a.isOperator ":=" = true := Token.isOperator_iff.2 (Token.lexeme_eq_iff.1 ha)
  exact .assignment hkind hname hsign (ExprAt.append_iff.2 (hw.weaken (by decide)))

/-- **Braces close a statement** to what follows. -/
theorem spells_braces (h : Spells cs S.DerivedFrom) :
    Spells ('\x7b' :: (cs ++ ['\x7d'])) S.ElementFrom := by
  have hinner := h.append (c := '\x7d') (by decide) (.mark (by decide) .nil)
  refine (hinner.mark (by decide)).mono ?_
  rintro _ ⟨o, _, rfl, ho, w, _, rfl, hw, c, _, rfl, hc, rfl⟩ r
  rw [List.cons_append, List.append_assoc]
  have hends := closed_of_endsList (r := r) (endsList_close hc) false
  exact ListAt.block ho (.mk (hw (c :: r) fun _ => hends) .stop) hc

theorem spells_asElement {text : String} (h : Spells text.toList S.DerivedFrom) :
    Spells (S.asElement text).toList S.ElementFrom := by
  rw [asElement]
  split
  · simpa using spells_braces h
  · rename_i hcond
    exact h.mono fun w hw r => hw r fun htrue => absurd htrue hcond

theorem spells_block {body : List Stmt} (hlength : 2 ≤ body.length)
    (h : Spells (" ; ".intercalate (elementTexts body)).toList (ElementsFrom body)) :
    Spells (Stmt.seq body).sourceText.toList (Stmt.seq body).DerivedFrom := by
  have hchars : (Stmt.seq body).sourceText.toList =
      '\x7b' :: ' ' :: ((" ; ".intercalate (elementTexts body)).toList ++ ' ' :: ['\x7d']) := by
    simp [sourceText]
  rw [hchars]
  have hinner := h.append (by decide) (Spells.mark (c := '\x7d') (by decide) .nil).blank
  refine (hinner.blank.mark (by decide)).mono ?_
  rintro _ ⟨o, _, rfl, ho, w, _, rfl, hw, c, _, rfl, hc, rfl⟩ r -
  rw [List.cons_append, List.append_assoc]
  match body, hlength with
  | s :: t :: rest, _ => exact .block ho (hw (c :: r)) (List.cons_ne_nil _ _) hc

theorem spells_conditional {b : Expr} (hb : b.Legible)
    (hS : Spells S.sourceText.toList S.DerivedFrom)
    (hT : Spells T.sourceText.toList T.DerivedFrom) :
    Spells (Stmt.cond b S T).sourceText.toList (Stmt.cond b S T).DerivedFrom := by
  have hchars : (Stmt.cond b S T).sourceText.toList = "if".toList ++ ' ' :: '(' ::
      (b.sourceText.toList ++ ')' :: ' ' :: ('\x7b' :: (S.sourceText.toList ++ ['\x7d']) ++
        ' ' :: ("else".toList ++ ' ' :: '\x7b' :: (T.sourceText.toList ++ ['\x7d'])))) := by
    simp [sourceText]
  rw [hchars]
  have hwords : IsToken .identifier "if" ∧ IsToken .identifier "else" := by decide
  have helse := Spells.token hwords.2 (by decide) (spells_braces hT).blank
  have hbranches := ((spells_braces hS).append (by decide) helse.blank).blank
  have hguard := (b.spells_sourceText hb).append (by decide) (hbranches.mark (c := ')') (by decide))
  refine (Spells.token hwords.1 (by decide) (hguard.mark (c := '(') (by decide)).blank).mono ?_
  rintro _ ⟨i, _, rfl, hi, o, _, rfl, ho, w, _, rfl, hw, c, _, rfl, hc, w₁, _, rfl, hw₁,
    l, w₂, rfl, hl, hw₂⟩ r hr
  have hif : i.isWord "if" = true := Token.isWord_iff.2 (Token.lexeme_eq_iff.1 hi)
  have helse : l.isWord "else" = true := Token.isWord_iff.2 (Token.lexeme_eq_iff.1 hl)
  simp only [List.cons_append, List.append_assoc]
  have hthen_list : ListAt Closed (w₁ ++ l :: (w₂ ++ r)) [S] false (l :: (w₂ ++ r)) :=
    .mk (hw₁ _) .stop
  have hends := closed_of_endsList (r := w₂ ++ r) (endsList_else helse) false
  have helse_list : ListAt Closed (w₂ ++ r) [T] false r := .mk (hw₂ r) .stop
  exact .conditional hif ho (ExprAt.append_iff.2 (hw.weaken (by decide))) hc hthen_list hends helse
    helse_list (hr rfl)

theorem spells_cons {text text' : String} {body : List Stmt} (h : Spells text.toList S.ElementFrom)
    (hrest : Spells text'.toList (ElementsFrom body)) :
    Spells (text ++ " ; " ++ text').toList (ElementsFrom (S :: body)) := by
  have hchars : (text ++ " ; " ++ text').toList =
      text.toList ++ ' ' :: ';' :: ' ' :: text'.toList := by
    simp
  rw [hchars]
  refine (h.append (by decide) (hrest.blank.mark (c := ';') (by decide)).blank).mono ?_
  rintro _ ⟨w, _, rfl, hw, m, w', rfl, hm, hw'⟩ r
  rw [List.append_assoc]
  exact .cons (hw _) (.inr ⟨m, hm, rfl⟩) (hw' r)

mutual

/-- **Source text spells the statement.** -/
theorem spells_sourceText : ∀ {S : Stmt}, S.isCollapsed = true → S.Legible →
    Spells S.sourceText.toList S.DerivedFrom
  | .assign x e, _, h => by
    obtain ⟨hx, he⟩ : (Expr.var x).Legible ∧ e.Legible := by
      simpa [Legible, expressions] using h
    obtain ⟨htoken, hname⟩ := hx.name x (by simp [Expr.leaves])
    exact spells_assign htoken hname he
  | .seq body, hcollapsed, h => by
    obtain ⟨hlength, hbody⟩ := isCollapsed_seq.1 hcollapsed
    refine spells_block hlength (spells_elementTexts ?_ hbody h)
    rintro rfl
    simp at hlength
  | .cond b s t, hcollapsed, h => by
    obtain ⟨hs, ht⟩ := isCollapsed_cond.1 hcollapsed
    obtain ⟨hb, hst⟩ := List.forall_mem_cons.1 h
    obtain ⟨hs', ht'⟩ := List.forall_mem_append.1 hst
    exact spells_conditional hb (spells_sourceText hs hs') (spells_sourceText ht ht')

theorem spells_elementTexts : ∀ {body : List Stmt}, body ≠ [] → isCollapsedAll body = true →
    (∀ e ∈ expressionsAll body, e.Legible) →
      Spells (" ; ".intercalate (elementTexts body)).toList (ElementsFrom body)
  | [], hne, _, _ => absurd rfl hne
  | s :: rest, _, hcollapsed, h => by
    obtain ⟨hs, hrest⟩ := isCollapsedAll_cons.1 hcollapsed
    obtain ⟨hs', hrest'⟩ := List.forall_mem_append.1 h
    have helement := spells_asElement (spells_sourceText hs hs')
    match rest with
    | [] =>
      have htext : " ; ".intercalate (elementTexts [s]) = s.asElement s.sourceText := by
        simp [elementTexts]
      rw [htext]
      exact helement.mono fun w hw r => .cons (hw r) (.inl rfl) .nil
    | t :: rest =>
      rw [elementTexts, String.intercalate_cons_of_ne_nil (by simp [elementTexts])]
      exact spells_cons helement (spells_elementTexts (List.cons_ne_nil _ _) hrest hrest')

end

/-! ## Reading the text -/

/-- A statement is what the tokens of its source text derive. -/
theorem inputAt_sourceText (hcollapsed : S.isCollapsed = true) (h : S.Legible) (source : String) :
    ∃ tokens, tokenize source S.sourceText = .ok tokens ∧ InputAt Exhausted tokens S := by
  obtain ⟨ls, hlayout, hderived⟩ := spells_sourceText hcollapsed h
  obtain ⟨w, mark, htokens, hw, hend⟩ := hlayout.exists_tokens source
  have hclosed := closed_of_endsList (r := []) (endsList_of_isEnd hend) false
  have hlist : ListAt Closed (w ++ [mark]) [S] false [mark] :=
    .mk (hderived w hw [mark] fun _ => hclosed) .stop
  exact ⟨_, htokens, [S], false, mark, hlist.mono fun _ _ => exhausted_of_closed, hend, rfl⟩

end Stmt

/-- **Source text is read as the tree that it was written for.** -/
theorem ofText_sourceText {limit : Nat} :
    (∀ S : Stmt, S.isCollapsed = true → S.Legible →
      (∀ t, (Stmt.ofText limit source S.sourceText).result ≠ .error (.tooDeep t)) →
        (Stmt.ofText limit source S.sourceText).result = .ok S) ∧
    ∀ e : Expr, e.Legible →
      (∀ t, (Expr.ofText limit source e.sourceText).result ≠ .error (.tooDeep t)) →
        (Expr.ofText limit source e.sourceText).result = .ok e := by
  refine ⟨fun S hcollapsed h hdepth => ?_, fun e h hdepth => ?_⟩
  · obtain ⟨tokens, htokens, hinput⟩ := Stmt.inputAt_sourceText hcollapsed h source
    obtain ⟨_, rfl, hread⟩ := exists_readText_eq_ok htokens hinput.one_lt_length hdepth
      fun s hs => statementList_of_exhausted (hs ▸ hinput)
    exact hread
  · obtain ⟨ls, hlayout, hderived⟩ := e.spells_sourceText h
    obtain ⟨w, mark, htokens, hw, hend⟩ := hlayout.exists_tokens source
    exact Expr.ofText_of_exprAt htokens hend (hderived w hw) (by decide) hdepth

/-- A conditional and a sequence stand within a sequence, and so they do within a branch. -/
def nestedSequence : Stmt :=
  let reset := Stmt.assign "x" .zero
  let halve := Stmt.assign "x" (.binary .div (.var "x") (.const ⟨0x4000000000000000⟩))
  let guarded := Stmt.cond (.unary .not (.var "b")) (.seq [halve, .seq [reset, halve]]) reset
  .seq [guarded, .seq [halve, guarded], reset]

theorem ofText_sourceText_nestedSequence :
    nestedSequence.isCollapsed = true ∧ nestedSequence.Legible ∧ Expr.nestedDifference.Legible ∧
    (Stmt.ofText 100 "" nestedSequence.sourceText).result = .ok nestedSequence ∧
    (Expr.ofText 100 "" Expr.nestedDifference.sourceText).result = .ok Expr.nestedDifference := by
  have hcollapsed : nestedSequence.isCollapsed = true := by decide
  have hstmt : nestedSequence.Legible := by decide +kernel
  have hexpr : Expr.nestedDifference.Legible := by decide +kernel
  have hread : (Stmt.ofText 100 "" nestedSequence.sourceText).result.isOk = true ∧
      (Expr.ofText 100 "" Expr.nestedDifference.sourceText).result.isOk = true := by
    decide +kernel
  exact ⟨hcollapsed, hstmt, hexpr,
    ofText_sourceText.1 _ hcollapsed hstmt fun _ => ne_error_of_isOk hread.1 _,
    ofText_sourceText.2 _ hexpr fun _ => ne_error_of_isOk hread.2 _⟩

end WeakestPre
