import WeakestPre.Proofs.Binary64.Numeral
import WeakestPre.Proofs.Derivation
import WeakestPre.Proofs.Grammar.Checked
import WeakestPre.Proofs.Grammar.Lookahead

/-!
# Where constants and variables come from

**Written leaves** (`Token.Writes`). Every constant of a tree that is read from a text is the value
of a numeral of the text, and every variable is an identifier of the text (`ExprAt.allLeaves`,
`StatementAt.allLeaves`). So the lexical classes carry over to the tree (`Expr.IsTextLeaf`): numbers
have no sign, and names have no blanks around them.

**Preconditions** inherit this from the two texts that they are derived from, since a derivation
brings in zeros only.

**Theorem** (`reading_keeps_invariants`). A text is read as a tree with these properties or refused
by a syntax error, and nothing else can happen on the way.
-/

namespace WeakestPre

/-! ## Written leaves -/

/-- The token is how the constant or the variable is written. -/
inductive Token.Writes (t : Token) : Expr → Prop
  | number {v : Binary64} (ht : t.kind = .number) (hv : Binary64.ofNumeral? t.text = some v) :
      Writes t (.const v)
  | name (ht : t.kind = .identifier) (hname : t.text ∉ reservedWords) : Writes t (.var t.text)

/-- One of the tokens writes the constant or the variable. -/
def WrittenIn (tokens : List Token) (d : Expr) : Prop := ∃ t ∈ tokens, t.Writes d

theorem WrittenIn.mono {tokens tokens' : List Token} {d : Expr} (h : WrittenIn tokens d)
    (hsub : tokens ⊆ tokens') : WrittenIn tokens' d := by
  obtain ⟨t, ht, hwrites⟩ := h
  exact ⟨t, hsub ht, hwrites⟩

theorem Expr.AllLeaves.of_suffix {s r : List Token} {e : Expr} (h : e.AllLeaves (WrittenIn r))
    (hsuffix : r <:+ s) : e.AllLeaves (WrittenIn s) :=
  h.mono fun _ hd => hd.mono hsuffix.subset

theorem Stmt.AllLeaves.of_suffix {s r : List Token} {S : Stmt} (h : S.AllLeaves (WrittenIn r))
    (hsuffix : r <:+ s) : S.AllLeaves (WrittenIn s) :=
  h.mono fun _ hd => hd.mono hsuffix.subset

namespace Grammar

theorem suffix_cons_cons (t u : Token) (s : List Token) : s <:+ t :: u :: s :=
  (List.suffix_cons u s).trans (List.suffix_cons t _)

/-- **An expression has its constants and variables from the tokens that derive it.** -/
theorem ExprAt.allLeaves {k : Nat} {s r : List Token} {e : Expr} (h : ExprAt k s e r) :
    e.AllLeaves (WrittenIn s) := by
  induction h with
  | number ht hv => exact Expr.allLeaves_const.2 ⟨_, List.mem_cons_self, .number ht hv⟩
  | name ht hname => exact Expr.allLeaves_var.2 ⟨_, List.mem_cons_self, .name ht hname⟩
  | abs _ _ _ _ ih => exact Expr.allLeaves_unary.2 (ih.of_suffix (suffix_cons_cons _ _ _))
  | not _ _ ih | neg _ _ ih => exact Expr.allLeaves_unary.2 (ih.of_suffix (List.suffix_cons _ _))
  | group _ _ _ ih => exact ih.of_suffix (List.suffix_cons _ _)
  | tighter _ ih => exact ih
  | binary he _ _ _ ih ih' =>
    have hright := (List.suffix_cons _ _).trans he.isSuffix.1
    exact Expr.allLeaves_binary.2 ⟨ih, ih'.of_suffix hright⟩

variable {ends : Bool → List Token → Prop}

mutual

/-- **So has a statement.** -/
theorem StatementAt.allLeaves : ∀ {s r : List Token} {t : Stmt}, StatementAt ends s t r →
    t.AllLeaves (WrittenIn s)
  | _, _, _, .assignment hx hname _ he => Stmt.allLeaves_assign.2
    ⟨⟨_, List.mem_cons_self, .name hx hname⟩, he.allLeaves.of_suffix (suffix_cons_cons _ _ _)⟩
  | _, _, _, .block _ hbody _ _ => Stmt.allLeaves_ofList.2 fun t ht =>
    (hbody.allLeaves t ht).of_suffix (List.suffix_cons _ _)
  | _, _, _, .conditional _ _ hb _ hthen _ _ helse _ => by
    have hfirst := (List.suffix_cons _ _).trans hb.isSuffix.1
    have hsecond := ((List.suffix_cons _ _).trans hthen.isSuffix.1).trans hfirst
    refine Stmt.allLeaves_cond.2 ⟨hb.allLeaves.of_suffix (suffix_cons_cons _ _ _), ?_, ?_⟩
    · exact Stmt.allLeaves_ofList.2 fun t ht =>
        (hthen.allLeaves t ht).of_suffix (hfirst.trans (suffix_cons_cons _ _ _))
    · exact Stmt.allLeaves_ofList.2 fun t ht =>
        (helse.allLeaves t ht).of_suffix (hsecond.trans (suffix_cons_cons _ _ _))

theorem ListAt.allLeaves : ∀ {s r : List Token} {body : List Stmt} {trailing : Bool},
    ListAt ends s body trailing r → ∀ t ∈ body, t.AllLeaves (WrittenIn s)
  | _, _, _, _, .mk ht hmore => List.forall_mem_cons.2 ⟨ht.allLeaves, fun t h =>
      (hmore.allLeaves t h).of_suffix ht.isSuffix.1⟩

theorem MoreAt.allLeaves : ∀ {s r : List Token} {body : List Stmt} {trailing : Bool},
    MoreAt ends s body trailing r → ∀ t ∈ body, t.AllLeaves (WrittenIn s)
  | _, _, _, _, .stop => by simp
  | _, _, _, _, .trailing _ => by simp
  | _, _, _, _, .more _ ht hmore => List.forall_mem_cons.2
    ⟨ht.allLeaves.of_suffix (List.suffix_cons _ _), fun t h =>
      (hmore.allLeaves t h).of_suffix (ht.isSuffix.1.trans (List.suffix_cons _ _))⟩

theorem ItemsAt.allLeaves : ∀ {s r : List Token} {body : List Stmt}, ItemsAt ends s body r →
    ∀ t ∈ body, t.AllLeaves (WrittenIn s)
  | _, _, _, .nil => by simp
  | _, _, _, .cons ht hm hrest => List.forall_mem_cons.2 ⟨ht.allLeaves, fun t h =>
      (hrest.allLeaves t h).of_suffix (hm.isSuffix.trans ht.isSuffix.1)⟩

end

end Grammar

/-! ## Texts -/

variable {limit : Nat} {source text : String}

theorem Expr.writtenIn_of_ofText {e : Expr} (h : (Expr.ofText limit source text).result = .ok e) :
    ∃ tokens, tokenize source text = .ok tokens ∧ e.AllLeaves (WrittenIn tokens) := by
  obtain ⟨tokens, htokens⟩ := exists_tokenize_of_readText h
  obtain ⟨s, r, rfl, hdone, -⟩ := exists_done_of_readText htokens h
  have hread := (Grammar.expression_sound limit).2 0 s (endsOnce_of_tokenize htokens).ended
  rw [hdone] at hread
  exact ⟨_, htokens, hread.1.allLeaves⟩

theorem Stmt.writtenIn_of_ofText {S : Stmt} (h : (Stmt.ofText limit source text).result = .ok S) :
    ∃ tokens, tokenize source text = .ok tokens ∧ S.AllLeaves (WrittenIn tokens) := by
  obtain ⟨tokens, htokens, body, trailing, mark, hlist, -, rfl⟩ := Stmt.inputAt_of_ofText h
  exact ⟨tokens, htokens, Stmt.allLeaves_ofList.2 hlist.allLeaves⟩

/-- A constant that is no error value and has no sign, or a variable whose name is an identifier
with nothing around it. -/
def Expr.IsTextLeaf : Expr → Prop
  | .const v => v.isNaN = false ∧ v.isNegative = false
  | .var x => Text.strip x = x ∧ IsToken .identifier x ∧ x ∉ reservedWords
  | _ => True

theorem isNumeralPart_of_isLexeme {v : List Char} (h : IsLexeme .number v) :
    ∀ c ∈ v, Text.isNumeralPart c = true := by
  cases h with
  | number _ hv => exact hv

theorem Expr.isTextLeaf_zero : Expr.zero.IsTextLeaf := ⟨rfl, rfl⟩

theorem WrittenIn.isTextLeaf {tokens : List Token} {d : Expr}
    (htokens : tokenize source text = .ok tokens) (h : WrittenIn tokens d) : d.IsTextLeaf := by
  obtain ⟨t, ht, hwrites⟩ := h
  cases hwrites with
  | number hkind hv =>
    have hlexeme := isLexeme_of_mem_tokenize htokens ht (by simp [hkind])
    rw [hkind] at hlexeme
    exact Binary64.sign_of_ofNumeral? (isNumeralPart_of_isLexeme hlexeme) hv
  | name hkind hname =>
    have hlexeme := isLexeme_of_mem_tokenize htokens ht (by simp [hkind])
    rw [hkind] at hlexeme
    exact ⟨(isName_of_isLexeme hlexeme).stripped, isToken_of_isLexeme hlexeme, hname⟩

theorem Expr.IsTextLeaf.named {d : Expr} (h : d.IsTextLeaf) : d.Named := by
  cases d with
  | var x =>
    refine ⟨h.1, ?_⟩
    rintro rfl
    exact absurd h.2.1 (by decide)
  | const | unary | binary => trivial

theorem Expr.isTextLeaf_of_ofText {e : Expr} (h : (Expr.ofText limit source text).result = .ok e) :
    e.AllLeaves IsTextLeaf := by
  obtain ⟨tokens, htokens, hleaves⟩ := Expr.writtenIn_of_ofText h
  exact hleaves.mono fun d hd => hd.isTextLeaf htokens

theorem Stmt.isTextLeaf_of_ofText {S : Stmt} (h : (Stmt.ofText limit source text).result = .ok S) :
    S.AllLeaves Expr.IsTextLeaf := by
  obtain ⟨tokens, htokens, hleaves⟩ := Stmt.writtenIn_of_ofText h
  exact hleaves.mono fun d hd => hd.isTextLeaf htokens

/-- What is read is well-formed. -/
theorem Expr.wellFormed_of_ofText {e : Expr} (h : (Expr.ofText limit source text).result = .ok e) :
    e.WellFormed :=
  (Expr.isTextLeaf_of_ofText h).mono fun _ hd => hd.named

theorem Stmt.wellFormed_of_ofText {S : Stmt} (h : (Stmt.ofText limit source text).result = .ok S) :
    S.WellFormed where
  proper := isProper_of_isCollapsed (Stmt.isCollapsed_of_ofText h)
  named := (Stmt.isTextLeaf_of_ofText h).mono fun _ hd => hd.named

/-! ## Blank texts -/

theorem Refuses.kind_ne_emptyInput {e : SyntaxError} {r : TokenStream} {u : List Token}
    (h : Refuses e r u) : e.kind ≠ .emptyInput := by
  cases h with
  | unexpected x t rest =>
    rw [SyntaxError.kind]
    split <;> simp
  | missingElse | tooDeep | badNumber | emptyBlock => simp [SyntaxError.kind]

/-- A rule refuses tokens, so nothing but a blank text is refused for being empty. -/
theorem readText_emptyInput_iff {α : Type} {rule : Rule α}
    (hrule : ∀ s : TokenStream, EndsOnce s.toList → rule.LocalAt s) (source text : String) :
    (∃ e, (readText rule source text).result = .error e ∧ e.kind = .emptyInput) ↔
      ∀ c ∈ text.toList, Text.isBlank c = true := by
  rw [← List.all_eq_true]
  show _ ↔ Text.isBlankText text = true
  cases hblank : Text.isBlankText text with
  | true => exact iff_of_true ⟨.blankInput, by rw [readText, if_pos hblank], rfl⟩ rfl
  | false =>
    refine iff_of_false ?_ (by simp)
    rintro ⟨e, he, hkind⟩
    cases htokens : tokenize source text with
    | error u =>
      rw [readText, if_neg (by simp [hblank]), htokens] at he
      obtain rfl := Except.error.inj he
      cases hkind
    | ok tokens =>
      obtain ⟨s, rfl, hresult⟩ := readText_result rule htokens hblank
      have hlocal := hrule s (endsOnce_of_tokenize htokens)
      rw [hresult] at he
      rw [Rule.LocalAt] at hlocal
      cases hs : rule s with
      | done a r =>
        simp only [hs] at he
        split at he
        · cases he
        · obtain rfl := Except.error.inj he
          cases hkind
      | failed e' r =>
        simp only [hs] at he hlocal
        obtain rfl := Except.error.inj he
        obtain ⟨w, t, u, -, hrefuses, -⟩ := hlocal
        exact hrefuses.kind_ne_emptyInput hkind

/-! ## Reading keeps the invariants -/

/-- **Every text is read without a fault**, and is called empty only if it is blank. Trees that are
read are collapsed and have their leaves from the text, and so has the precondition that is
calculated from two texts, zeros apart. -/
theorem reading_keeps_invariants (limit : Nat) (source text : String) :
    Checked.readExpr limit source text = .ok (Expr.ofText limit source text).result ∧
    Checked.readStmt limit source text = .ok (Stmt.ofText limit source text).result ∧
    ((∃ e, (Expr.ofText limit source text).result = .error e ∧ e.kind = .emptyInput) ↔
      ∀ c ∈ text.toList, Text.isBlank c = true) ∧
    ((∃ e, (Stmt.ofText limit source text).result = .error e ∧ e.kind = .emptyInput) ↔
      ∀ c ∈ text.toList, Text.isBlank c = true) ∧
    (∀ e, (Expr.ofText limit source text).result = .ok e → e.AllLeaves Expr.IsTextLeaf) ∧
    (∀ S, (Stmt.ofText limit source text).result = .ok S →
      S.isCollapsed = true ∧ S.AllLeaves Expr.IsTextLeaf) ∧
    ∀ post S R log, (Stmt.ofText limit "<program>" text).result = .ok S →
      (Expr.ofText limit "<postcondition>" post).result = .ok R →
      ∃ tokens tokens' report log', tokenize "<program>" text = .ok tokens ∧
        tokenize "<postcondition>" post = .ok tokens' ∧
        calculate limit (.text text) (.text post) log = .ok (report, log') ∧
        report.precondition.AllLeaves fun d =>
          d.IsTextLeaf ∧ (d = .zero ∨ WrittenIn (tokens ++ tokens') d) := by
  obtain ⟨hexpr, hstmt⟩ := Checked.ofText_eq limit source text
  refine ⟨hexpr, hstmt,
    readText_emptyInput_iff ((Grammar.expression_localAt limit).2 0) source text,
    readText_emptyInput_iff (Grammar.statement_localAt limit).2 source text,
    fun e he => Expr.isTextLeaf_of_ofText he,
    fun S hS => ⟨Stmt.isCollapsed_of_ofText hS, Stmt.isTextLeaf_of_ofText hS⟩, ?_⟩
  intro post S R log hS hR
  obtain ⟨tokens, htokens, hleaves⟩ := Stmt.writtenIn_of_ofText hS
  obtain ⟨tokens', htokens', hleaves'⟩ := Expr.writtenIn_of_ofText hR
  have hprogram : (Input.text text : Input Stmt).program limit = .ok S := hS
  have hpost : (Input.text post : Input Expr).postcondition limit = .ok R := hR
  refine ⟨tokens, tokens', _, _, htokens, htokens', calculate_eq_ok hprogram hpost log, ?_⟩
  show ((S.derive R).1).AllLeaves _
  rw [Stmt.derive_eq]
  -- The derivation adds nothing but zeros to what the two texts have written.
  refine Stmt.AllLeaves.wp ⟨Expr.isTextLeaf_zero, .inl rfl⟩ ?_ ?_
  · refine hleaves.mono fun d hd => ⟨hd.isTextLeaf htokens, .inr ?_⟩
    exact hd.mono (List.subset_append_left _ _)
  · refine hleaves'.mono fun d hd => ⟨hd.isTextLeaf htokens', .inr ?_⟩
    exact hd.mono (List.subset_append_right _ _)

/-- The divisor is written in the program, and the bound in the postcondition. -/
theorem reading_keeps_invariants_quotient : ∃ tokens tokens' report log',
    tokenize "<program>" "x := y / (3. - z)" = .ok tokens ∧
    tokenize "<postcondition>" "abs(x) < .5" = .ok tokens' ∧
    calculate 100 (.text "x := y / (3. - z)") (.text "abs(x) < .5") .empty = .ok (report, log') ∧
    (report.precondition.AllLeaves fun d =>
      d.IsTextLeaf ∧ (d = .zero ∨ WrittenIn (tokens ++ tokens') d)) ∧
    ∃ e, (Expr.ofText 100 "" " \t").result = .error e ∧ e.kind = .emptyInput := by
  obtain ⟨S, hS⟩ : ∃ S, (Stmt.ofText 100 "<program>" "x := y / (3. - z)").result = .ok S :=
    exists_ok_of_isOk (by decide +kernel)
  obtain ⟨R, hR⟩ : ∃ R, (Expr.ofText 100 "<postcondition>" "abs(x) < .5").result = .ok R :=
    exists_ok_of_isOk (by decide +kernel)
  obtain ⟨-, -, -, -, -, -, hprecondition⟩ :=
    reading_keeps_invariants 100 "<program>" "x := y / (3. - z)"
  obtain ⟨tokens, tokens', report, log', htokens, htokens', hreport, hleaves⟩ :=
    hprecondition "abs(x) < .5" S R .empty hS hR
  have hblank := (reading_keeps_invariants 100 "" " \t").2.2.1.2 (List.all_eq_true.1 (by decide))
  exact ⟨tokens, tokens', report, log', htokens, htokens', hreport, hleaves, hblank⟩

end WeakestPre
