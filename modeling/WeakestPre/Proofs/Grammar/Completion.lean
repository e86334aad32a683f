import WeakestPre.Proofs.Grammar.Lookahead

/-!
# What was read can be completed

When a rule refuses a token, the tokens in front of it are the start of a word that the grammar
derives. We complete them by the shortest means: an operand is the variable `x`, a statement is
`x := x`, and whatever is open is closed.

**Starts** (`Starts`). Some tokens start a word of a language (`IsExpr`, `IsStatement` and so on) if
further tokens complete them. Derivations are about words (`StatementAt.word`), so the start of a
part, behind what was read before that part, is the start of the whole.

**Invariant** (`RefusedIn`). A rule fails because rules are nested too deeply, or the tokens
between its start and the refused one start what the rule derives. As in the proof of soundness,
the loop for operators carries a left operand from a layer above which nothing follows.
-/

namespace WeakestPre.Grammar

open TokenStream Rule Outcome

/-! ## Words -/

variable {ends : Bool → List Token → Prop}

/-- Where a branch may end in front of `r`, it may end in front of `r'`, also if the same tokens
stand before either. -/
def Carries (ends : Bool → List Token → Prop) (r r' : List Token) : Prop :=
  ∀ trailing v, ends trailing (v ++ r) → ends trailing (v ++ r')

theorem carries_anywhere {r r' : List Token} : Carries Anywhere r r' := fun _ _ _ => trivial

theorem Carries.append {r r' : List Token} (h : Carries ends r r') (w : List Token) :
    Carries ends (w ++ r) (w ++ r') := by
  intro trailing v hends
  rw [← List.append_assoc] at hends ⊢
  exact h trailing (v ++ w) hends

mutual

/-- **A derivation of a statement is about a word**: the tokens that it takes, among which is no
mark of the end. Behind them may stand what lets branches end as before. -/
theorem StatementAt.word : ∀ {s r : List Token} {t : Stmt}, StatementAt ends s t r →
    ∃ w, s = w ++ r ∧ (∀ u ∈ w, u.isEnd = false) ∧
      ∀ r', Carries ends r r' → StatementAt ends (w ++ r') t r'
  | _, _, _, .assignment hx hname ha he => by
    obtain ⟨w, rfl, hw, hany⟩ := he.word
    refine ⟨_ :: _ :: w, rfl, ?_, fun r' _ => .assignment hx hname ha (hany r')⟩
    simpa [isEnd_eq_false_of_kind hx (by decide), isEnd_eq_false_of_isOperator ha] using hw
  | _, _, _, .block (o := o) (c := c) ho hbody hne hc => by
    obtain ⟨w, rfl, hw, hany⟩ := hbody.word
    refine ⟨o :: (w ++ [c]), by simp, ?_, fun r' hr => ?_⟩
    · simpa [isEnd_eq_false_of_isPunctuation ho, isEnd_eq_false_of_isPunctuation hc, or_imp,
        forall_and] using hw
    · have h := StatementAt.block ho (hany (c :: r') (hr.append [c])) hne hc
      simpa using h
  | _, _, _, .conditional (i := i) (o := o) (c := c) (w := e) hi ho hb hc hthen hends hw helse
      hends' => by
    obtain ⟨wb, rfl, hwb, hanyb⟩ := hb.word
    obtain ⟨w₁, rfl, hw₁, hany₁⟩ := hthen.word
    obtain ⟨w₂, rfl, hw₂, hany₂⟩ := helse.word
    refine ⟨i :: o :: (wb ++ c :: (w₁ ++ e :: w₂)), by simp, ?_, fun r' hr => ?_⟩
    · simp only [List.forall_mem_cons, List.forall_mem_append]
      exact ⟨isEnd_eq_false_of_isWord hi, isEnd_eq_false_of_isPunctuation ho, hwb,
        isEnd_eq_false_of_isPunctuation hc, hw₁, isEnd_eq_false_of_isWord hw, hw₂⟩
    · have h := StatementAt.conditional hi ho (hanyb (c :: (w₁ ++ e :: (w₂ ++ r')))) hc
        (hany₁ (e :: (w₂ ++ r')) (hr.append (e :: w₂))) (hr _ (e :: w₂) hends) hw (hany₂ r' hr)
        (hr _ [] hends')
      simpa using h

theorem ListAt.word : ∀ {s r : List Token} {body : List Stmt} {trailing : Bool},
    ListAt ends s body trailing r →
    ∃ w, s = w ++ r ∧ (∀ u ∈ w, u.isEnd = false) ∧
      ∀ r', Carries ends r r' → ListAt ends (w ++ r') body trailing r'
  | _, _, _, _, .mk ht hmore => by
    obtain ⟨w, rfl, hw, hany⟩ := ht.word
    obtain ⟨w₁, rfl, hw₁, hany₁⟩ := hmore.word
    refine ⟨w ++ w₁, by simp, List.forall_mem_append.2 ⟨hw, hw₁⟩, fun r' hr => ?_⟩
    have h := ListAt.mk (hany (w₁ ++ r') (hr.append w₁)) (hany₁ r' hr)
    simpa using h

theorem MoreAt.word : ∀ {s r : List Token} {body : List Stmt} {trailing : Bool},
    MoreAt ends s body trailing r →
    ∃ w, s = w ++ r ∧ (∀ u ∈ w, u.isEnd = false) ∧
      ∀ r', Carries ends r r' → MoreAt ends (w ++ r') body trailing r'
  | _, _, _, _, .stop => ⟨[], rfl, by simp, fun _ _ => .stop⟩
  | _, _, _, _, .trailing (m := m) hm =>
    ⟨[m], rfl, by simp [isEnd_eq_false_of_isPunctuation hm], fun _ _ => .trailing hm⟩
  | _, _, _, _, .more (m := m) hm ht hmore => by
    obtain ⟨w, rfl, hw, hany⟩ := ht.word
    obtain ⟨w₁, rfl, hw₁, hany₁⟩ := hmore.word
    refine ⟨m :: (w ++ w₁), by simp, ?_, fun r' hr => ?_⟩
    · exact List.forall_mem_cons.2
        ⟨isEnd_eq_false_of_isPunctuation hm, List.forall_mem_append.2 ⟨hw, hw₁⟩⟩
    · have h := MoreAt.more hm (hany (w₁ ++ r') (hr.append w₁)) (hany₁ r' hr)
      simpa using h

theorem ItemsAt.word : ∀ {s r : List Token} {body : List Stmt}, ItemsAt ends s body r →
    ∃ w, s = w ++ r ∧ (∀ u ∈ w, u.isEnd = false) ∧
      ∀ r', Carries ends r r' → ItemsAt ends (w ++ r') body r'
  | _, _, _, .nil => ⟨[], rfl, by simp, fun _ _ => .nil⟩
  | _, _, _, .cons ht (Or.inl hm) hrest => by
    obtain ⟨w, rfl, hw, hany⟩ := ht.word
    obtain ⟨w₁, rfl, hw₁, hany₁⟩ := hrest.word
    subst hm
    refine ⟨w ++ w₁, by simp, List.forall_mem_append.2 ⟨hw, hw₁⟩, fun r' hr => ?_⟩
    have h := ItemsAt.cons (hany (w₁ ++ r') (hr.append w₁)) (Or.inl rfl) (hany₁ r' hr)
    simpa using h
  | _, _, _, .cons ht (Or.inr hm) hrest => by
    obtain ⟨w, rfl, hw, hany⟩ := ht.word
    obtain ⟨w₁, rfl, hw₁, hany₁⟩ := hrest.word
    obtain ⟨m, hm, rfl⟩ := hm
    refine ⟨w ++ m :: w₁, by simp, ?_, fun r' hr => ?_⟩
    · exact List.forall_mem_append.2
        ⟨hw, List.forall_mem_cons.2 ⟨isEnd_eq_false_of_isPunctuation hm, hw₁⟩⟩
    · have h := ItemsAt.cons (hany (m :: (w₁ ++ r')) (hr.append (m :: w₁)))
        (Or.inr ⟨m, hm, rfl⟩) (hany₁ r' hr)
      simpa using h

end

/-! ## Languages -/

/-- Layer `k` derives an expression from these tokens. -/
def IsExpr (k : Nat) (w : List Token) : Prop := ∃ e, ExprAt k w e []

def IsStatement (w : List Token) : Prop := ∃ t, StatementAt Anywhere w t []

def IsList (w : List Token) : Prop := ∃ body trailing, ListAt Anywhere w body trailing []

/-- What may stand behind the first statement of a list. -/
def IsMore (w : List Token) : Prop := ∃ body trailing, MoreAt Anywhere w body trailing []

/-- The inside of a block, with at least one statement. -/
def IsBody (w : List Token) : Prop := ∃ body, body ≠ [] ∧ ItemsAt Anywhere w body []

theorem ExprAt.isExpr {k : Nat} {s r : List Token} {e : Expr} (h : ExprAt k s e r) :
    ∃ v, s = v ++ r ∧ IsExpr k v := by
  obtain ⟨v, rfl, -, -⟩ := h.word
  exact ⟨v, rfl, e, ExprAt.append_iff.1 h⟩

section

variable {v v' : List Token}

theorem IsExpr.weaken {k m : Nat} (h : IsExpr m v) (hk : k ≤ m) : IsExpr k v := by
  obtain ⟨e, he⟩ := h
  exact ⟨e, he.weaken hk⟩

theorem IsExpr.abs {t o c : Token} (ht : t.isWord "abs" = true) (ho : o.isPunctuation "(" = true)
    (hc : c.isPunctuation ")" = true) (h : IsExpr 1 v) : IsExpr 7 (t :: o :: (v ++ [c])) := by
  obtain ⟨e, he⟩ := h
  exact ⟨_, .abs ht ho (ExprAt.append_iff.2 he) hc⟩

theorem IsExpr.group {o c : Token} (ho : o.isPunctuation "(" = true)
    (hc : c.isPunctuation ")" = true) (h : IsExpr 1 v) : IsExpr 7 (o :: (v ++ [c])) := by
  obtain ⟨e, he⟩ := h
  exact ⟨e, .group ho (ExprAt.append_iff.2 he) hc⟩

theorem IsExpr.not {t : Token} (ht : t.isOperator "!" = true) (h : IsExpr 7 v) :
    IsExpr 7 (t :: v) := by
  obtain ⟨e, he⟩ := h
  exact ⟨_, .not ht he⟩

theorem IsExpr.neg {t : Token} (ht : t.isOperator "-" = true) (h : IsExpr 7 v) :
    IsExpr 7 (t :: v) := by
  obtain ⟨e, he⟩ := h
  exact ⟨_, .neg ht he⟩

theorem IsExpr.binary {t : Token} {op : BinaryOp} (h : IsExpr op.precedence v)
    (ht : binaryOp? t = some op) (h' : IsExpr (op.precedence + 1) v') :
    IsExpr op.precedence (v ++ t :: v') := by
  obtain ⟨e, he⟩ := h
  obtain ⟨e', he'⟩ := h'
  exact ⟨_, .binary (ExprAt.append_iff.2 he) ht rfl he'⟩

theorem IsExpr.unmarked {k : Nat} (h : IsExpr k v) : ∀ t ∈ v, t.isEnd = false := by
  obtain ⟨e, he⟩ := h
  obtain ⟨w, hw, hunmarked, -⟩ := he.word
  obtain rfl : v = w := by simpa using hw
  exact hunmarked

theorem IsList.unmarked (h : IsList v) : ∀ t ∈ v, t.isEnd = false := by
  obtain ⟨body, trailing, hlist⟩ := h
  obtain ⟨w, hw, hunmarked, -⟩ := hlist.word
  obtain rfl : v = w := by simpa using hw
  exact hunmarked

theorem StatementAt.append {t : Stmt} (h : StatementAt Anywhere v t []) (r : List Token) :
    StatementAt Anywhere (v ++ r) t r := by
  obtain ⟨w, hw, -, hany⟩ := h.word
  obtain rfl : v = w := by simpa using hw
  exact hany r carries_anywhere

theorem ListAt.append {body : List Stmt} {trailing : Bool} (h : ListAt Anywhere v body trailing [])
    (r : List Token) : ListAt Anywhere (v ++ r) body trailing r := by
  obtain ⟨w, hw, -, hany⟩ := h.word
  obtain rfl : v = w := by simpa using hw
  exact hany r carries_anywhere

theorem ItemsAt.append {body : List Stmt} (h : ItemsAt Anywhere v body []) (r : List Token) :
    ItemsAt Anywhere (v ++ r) body r := by
  obtain ⟨w, hw, -, hany⟩ := h.word
  obtain rfl : v = w := by simpa using hw
  exact hany r carries_anywhere

theorem IsStatement.assignment {x a : Token} (hx : x.kind = .identifier)
    (hname : x.text ∉ reservedWords) (ha : a.isOperator ":=" = true) (h : IsExpr 1 v) :
    IsStatement (x :: a :: v) := by
  obtain ⟨e, he⟩ := h
  exact ⟨_, .assignment hx hname ha he⟩

theorem IsStatement.block {o c : Token} (ho : o.isPunctuation "\x7b" = true)
    (hc : c.isPunctuation "\x7d" = true) (h : IsBody v) : IsStatement (o :: (v ++ [c])) := by
  obtain ⟨body, hne, hbody⟩ := h
  exact ⟨_, .block ho (hbody.append [c]) hne hc⟩

theorem IsStatement.conditional {i o c w : Token} {vb : List Token} (hi : i.isWord "if" = true)
    (ho : o.isPunctuation "(" = true) (hb : IsExpr 1 vb) (hc : c.isPunctuation ")" = true)
    (h : IsList v) (hw : w.isWord "else" = true) (h' : IsList v') :
    IsStatement (i :: o :: (vb ++ c :: (v ++ w :: v'))) := by
  obtain ⟨b, hb⟩ := hb
  obtain ⟨body, trailing, hbody⟩ := h
  obtain ⟨body', trailing', hbody'⟩ := h'
  exact ⟨_, .conditional hi ho (ExprAt.append_iff.2 hb) hc (hbody.append _) trivial hw hbody'
    trivial⟩

theorem IsList.mk (h : IsStatement v) (h' : IsMore v') : IsList (v ++ v') := by
  obtain ⟨t, ht⟩ := h
  obtain ⟨body, trailing, hmore⟩ := h'
  exact ⟨t :: body, trailing, .mk (ht.append v') hmore⟩

theorem IsMore.nil : IsMore [] := ⟨[], false, .stop⟩

theorem IsMore.more {m : Token} (hm : m.isPunctuation ";" = true) (h : IsStatement v)
    (h' : IsMore v') : IsMore (m :: (v ++ v')) := by
  obtain ⟨t, ht⟩ := h
  obtain ⟨body, trailing, hmore⟩ := h'
  exact ⟨t :: body, trailing, .more hm (ht.append v') hmore⟩

theorem IsStatement.isList (h : IsStatement v) : IsList v := by
  simpa using IsList.mk h .nil

theorem IsStatement.isBody (h : IsStatement v) : IsBody v := by
  obtain ⟨t, ht⟩ := h
  exact ⟨[t], by simp, .cons ht (Or.inl rfl) .nil⟩

theorem IsBody.cons (h : IsStatement v) (h' : IsBody v') : IsBody (v ++ v') := by
  obtain ⟨t, ht⟩ := h
  obtain ⟨body, -, hbody⟩ := h'
  exact ⟨t :: body, by simp, .cons (ht.append v') (Or.inl rfl) hbody⟩

theorem IsBody.cons_semicolon {m : Token} (h : IsStatement v) (hm : m.isPunctuation ";" = true)
    (h' : IsBody v') : IsBody (v ++ m :: v') := by
  obtain ⟨t, ht⟩ := h
  obtain ⟨body, -, hbody⟩ := h'
  exact ⟨t :: body, by simp, .cons (ht.append (m :: v')) (Or.inr ⟨m, hm, rfl⟩) hbody⟩

end

/-! ## Shortest words -/

/-- A token that stands in no text. -/
def filler (kind : TokenKind) (text : String) : Token := ⟨kind, text, ⟨0, 0, ""⟩⟩

/-- `x` -/
def shortestExpr : List Token := [filler .identifier "x"]

/-- `x := x` -/
def shortestStatement : List Token :=
  filler .identifier "x" :: filler .operator ":=" :: shortestExpr

/-- `) x := x else x := x` -/
def shortestBranches : List Token :=
  filler .punctuation ")" :: (shortestStatement ++ filler .identifier "else" :: shortestStatement)

theorem isExpr_shortestExpr : IsExpr 7 shortestExpr := ⟨_, .name rfl (by decide)⟩

theorem isStatement_shortestStatement : IsStatement shortestStatement :=
  .assignment rfl (by decide) rfl (isExpr_shortestExpr.weaken (by decide))

/-! ## Starts of words -/

/-- The tokens can be completed to a word of a language. -/
def Starts (D : List Token → Prop) (w : List Token) : Prop := ∃ ext, D (w ++ ext)

/-- The rules were nested too deeply, or a token was refused and the tokens in front of it start a
word. -/
def RefusedIn (D : List Token → Prop) (start : List Token) (e : SyntaxError) (r : TokenStream) :
    Prop :=
  TooDeep e r ∨ ∃ w u, start = w ++ u ∧ Refuses e r u ∧ Starts D w

/-- The rule reads a word, or it refuses a token behind the start of one. -/
def Recognizes {α : Type} (D : List Token → Prop) (rule : Rule α) : Prop :=
  ∀ s, Ended s.toList → (rule s).Satisfies (fun _ r => ∃ v, s.toList = v ++ r.toList ∧ D v)
    (RefusedIn D s.toList)

/-- Any value. -/
def AnyValue {α : Type} (_ : α) (_ : TokenStream) : Prop := True

section

variable {α β : Type} {D D₁ : List Token → Prop} {s : TokenStream} {start : List Token}

/-- The start of a part is the start of the whole. -/
theorem RefusedIn.embed {s : List Token} {e : SyntaxError} {r : TokenStream}
    (h : RefusedIn D₁ s e r) (w₀ : List Token) (hstart : start = w₀ ++ s) (post : List Token)
    (hpost : ∀ v, D₁ v → D (w₀ ++ (v ++ post))) : RefusedIn D start e r := by
  rcases h with hdeep | ⟨w, u, rfl, hrefuses, ext, hext⟩
  · exact Or.inl hdeep
  · refine Or.inr ⟨w₀ ++ w, u, by rw [hstart, List.append_assoc], hrefuses, ext ++ post, ?_⟩
    simpa using hpost _ hext

/-- A rule whose words are parts of the words of `D`, and what comes after it. -/
theorem Recognizes.bind {r : Rule α} {f : α → Rule β} (h : Recognizes D₁ r) (hs : Ended s.toList)
    (w₀ : List Token) (hstart : start = w₀ ++ s.toList) (post : List Token)
    (hpost : ∀ v, D₁ v → D (w₀ ++ (v ++ post)))
    (hf : ∀ a s₁ v, Ended s₁.toList → D₁ v → start = (w₀ ++ v) ++ s₁.toList →
      (f a s₁).Satisfies AnyValue (RefusedIn D start)) :
    ((r >>= f) s).Satisfies AnyValue (RefusedIn D start) := by
  refine ((h s hs).mono_error fun _ _ hr => hr.embed w₀ hstart post hpost).bind ?_
  rintro a s₁ ⟨v, hv, hD⟩
  refine hf a s₁ v (hs.of_suffix (hv ▸ List.suffix_append _ _) toList_ne_nil) hD ?_
  rw [hstart, hv, List.append_assoc]

theorem expectMark_refusedIn {f : Unit → Rule β} {mark : String} {x : Expectation}
    (hs : Ended s.toList) (w₀ : List Token) (hstart : start = w₀ ++ s.toList) (hw₀ : Starts D w₀)
    (hf : ∀ c, c.isPunctuation mark = true → start = (w₀ ++ [c]) ++ s.advance.toList →
      Ended s.advance.toList → (f () s.advance).Satisfies AnyValue (RefusedIn D start)) :
    ((expectMark mark x >>= f) s).Satisfies AnyValue (RefusedIn D start) := by
  rw [expectMark_bind]
  split
  · rename_i hmark
    obtain ⟨hl, hadv⟩ := read_of_kind hs (Token.isPunctuation_iff.1 hmark).1 (by decide)
    exact hf _ hmark (by rw [hstart, hl]; simp) hadv
  · exact Or.inr ⟨w₀, _, hstart, .unexpected _ _ _, hw₀⟩

end

/-! ## Expressions -/

theorem number_refusedIn {s : TokenStream} (hs : Ended s.toList)
    (hkind : s.current.kind = .number) :
    (number s).Satisfies AnyValue (RefusedIn (IsExpr 7) s.toList) := by
  rw [number, next_bind]
  cases Binary64.ofNumeral? s.current.text with
  | some v => trivial
  | none =>
    have hl := (read_of_kind hs hkind (by decide)).1
    exact Or.inr ⟨[], _, hl, .badNumber _ _, shortestExpr, isExpr_shortestExpr⟩

theorem primary_refusedIn_step {d : Nat} (hprimary : Recognizes (IsExpr 7) (primary d))
    (hexpression : Recognizes (IsExpr 1) (expression d 0)) {s : TokenStream}
    (hs : Ended s.toList) :
    (primary (d + 1) s).Satisfies AnyValue (RefusedIn (IsExpr 7) s.toList) := by
  have hnone : ∀ x, RefusedIn (IsExpr 7) s.toList (.unexpected x s.current) s := fun x =>
    Or.inr ⟨[], _, rfl, .unexpected _ _ _, shortestExpr, isExpr_shortestExpr⟩
  have hopenMark : (filler .punctuation "(").isPunctuation "(" = true := rfl
  have hcloseMark : (filler .punctuation ")").isPunctuation ")" = true := rfl
  rw [primary, current_bind]
  simp only [ite_run]
  split
  · rename_i hkind
    exact number_refusedIn hs hkind
  split
  · rename_i habs
    obtain ⟨hl, hadv⟩ := read_of_kind hs (Token.isWord_iff.1 habs).1 (by decide)
    rw [next_bind]
    refine expectMark_refusedIn hadv [s.current] (by simpa using hl) ?_ ?_
    · exact ⟨_, IsExpr.abs habs hopenMark hcloseMark (isExpr_shortestExpr.weaken (by decide))⟩
    intro o ho hstart hs₁
    refine hexpression.bind hs₁ _ hstart [filler .punctuation ")"] ?_ ?_
    · exact fun v hv => IsExpr.abs habs ho hcloseMark hv
    intro e s₂ v hs₂ hv hstart₂
    refine expectMark_refusedIn hs₂ _ hstart₂ ⟨[filler .punctuation ")"], ?_⟩ fun _ _ _ _ => trivial
    simpa using IsExpr.abs habs ho hcloseMark hv
  split
  · split
    · exact hnone _
    · trivial
  split
  · rename_i hnot
    obtain ⟨hl, hadv⟩ := read_of_kind hs (Token.isOperator_iff.1 hnot).1 (by decide)
    rw [next_bind]
    refine hprimary.bind hadv [s.current] (by simpa using hl) [] ?_ fun _ _ _ _ _ _ =>
      trivial
    exact fun v hv => by simpa using IsExpr.not hnot hv
  split
  · rename_i hneg
    obtain ⟨hl, hadv⟩ := read_of_kind hs (Token.isOperator_iff.1 hneg).1 (by decide)
    rw [next_bind]
    refine hprimary.bind hadv [s.current] (by simpa using hl) [] ?_ fun _ _ _ _ _ _ =>
      trivial
    exact fun v hv => by simpa using IsExpr.neg hneg hv
  split
  · rename_i hopen
    obtain ⟨hl, hadv⟩ := read_of_kind hs (Token.isPunctuation_iff.1 hopen).1 (by decide)
    rw [next_bind]
    refine hexpression.bind hadv [s.current] (by simpa using hl)
      [filler .punctuation ")"] ?_ ?_
    · exact fun v hv => IsExpr.group hopen hcloseMark hv
    intro e s₁ v hs₁ hv hstart
    refine expectMark_refusedIn hs₁ _ hstart ⟨[filler .punctuation ")"], ?_⟩ fun _ _ _ _ => trivial
    simpa using IsExpr.group hopen hcloseMark hv
  · exact hnone _

/-- The loop of the rule: if an operand cannot be read, then its operator still belongs to the
left operand. -/
theorem climb_refusedIn {operand : Int → Rule Expr} {least : Int} {start : List Token}
    (hoperand : ∀ k s, Ended s.toList → (operand k s).Satisfies
      (fun e r => ExprAt (layer k) s.toList e r.toList ∧ Stops k r.toList)
      (RefusedIn (IsExpr (layer k)) s.toList)) :
    ∀ (fuel m : Nat) (left : Expr) (s : TokenStream), Ended s.toList → layer least ≤ m →
      ExprAt m start left s.toList → Stops (m + 1) s.toList →
      (climb operand least fuel left s).Satisfies AnyValue
        (RefusedIn (IsExpr (layer least)) start) := by
  intro fuel
  induction fuel with
  | zero => intro m left s _ _ _ _; trivial
  | succ fuel ih =>
    intro m left s hs hm hleft hstop
    rw [climb, current_bind]
    cases hop : binaryOp? s.current with
    | none => trivial
    | some op =>
      have hbounds := op.precedence_bounds
      have hle := stops_toList.1 hstop op hop
      simp only [ite_run]
      split
      · trivial
      · rename_i hge
        obtain ⟨hl, hadv⟩ := read_of_kind hs (kind_of_binaryOp? hop) (by decide)
        have hlayer : layer (op.precedence + 1) = op.precedence + 1 := by
          simp only [layer]
          omega
        have hleast : layer least ≤ op.precedence := by
          simp only [layer]
          omega
        have hleft' : ExprAt op.precedence start left (s.current :: s.advance.toList) :=
          hl ▸ hleft.weaken (by omega)
        obtain ⟨v, hstart, hv⟩ := hleft'.isExpr
        have hright := hoperand (op.precedence + 1) s.advance hadv
        rw [hlayer] at hright
        rw [next_bind]
        refine (hright.mono_error fun e r h => h.embed (v ++ [s.current]) ?_ [] ?_).bind ?_
        · simpa using hstart
        · intro v' hv'
          simpa using (hv.binary hop hv').weaken hleast
        · rintro right s₂ ⟨hright, hstop₂⟩
          exact ih op.precedence _ s₂ (hadv.of_suffix hright.isSuffix.1 toList_ne_nil) hleast
            (.binary hleft' hop rfl hright) hstop₂

/-- **What was read of an expression can be completed.** -/
theorem expression_recognizes (d : Nat) : Recognizes (IsExpr 7) (primary d) ∧
    ∀ least s, Ended s.toList → (expression d least s).Satisfies
      (fun e r => ExprAt (layer least) s.toList e r.toList ∧ Stops least r.toList)
      (RefusedIn (IsExpr (layer least)) s.toList) := by
  induction d with
  | zero =>
    refine ⟨fun s _ => ?_, fun least s _ => ?_⟩
    · exact Or.inl ⟨_, rfl⟩
    · exact Or.inl ⟨_, rfl⟩
  | succ d ih =>
    have hexpression : Recognizes (IsExpr 1) (expression d 0) :=
      fun s hs => (ih.2 0 s hs).mono fun _ _ h => h.1.isExpr
    refine ⟨fun s hs => ?_, fun least s hs => ?_⟩
    · have hsound := (expression_sound (d + 1)).1 s hs
      have hrefused := primary_refusedIn_step ih.1 hexpression hs
      exact (hsound.and hrefused).mono fun _ _ h => h.1.isExpr
    · have hlayer : layer least ≤ 7 := by
        simp only [layer]
        omega
      have hprimary := ((expression_sound d).1 s hs).and (ih.1 s hs)
      have hrefused : (expression (d + 1) least s).Satisfies AnyValue
          (RefusedIn (IsExpr (layer least)) s.toList) := by
        rw [expression]
        refine (hprimary.mono_error fun e r h => h.embed [] rfl [] ?_).bind ?_
        · intro v hv
          simpa using hv.weaken hlayer
        · rintro left s₁ ⟨hleft, -⟩
          refine climb_refusedIn ih.2 _ 7 left s₁ (hs.of_suffix hleft.isSuffix.1 toList_ne_nil)
            hlayer hleft (stops_toList.2 fun op _ => ?_)
          have := op.precedence_bounds
          omega
      exact (((expression_sound (d + 1)).2 least s hs).and hrefused).mono fun _ _ h => h.1

theorem expression_recognizes_isExpr (d : Nat) : Recognizes (IsExpr 1) (expression d 0) :=
  fun s hs => ((expression_recognizes d).2 0 s hs).mono fun _ _ h => h.1.isExpr

/-! ## Statements -/

theorem StatementAt.isStatement {ends : Bool → List Token → Prop} {s r : List Token} {t : Stmt}
    (h : StatementAt ends s t r) : ∃ v, s = v ++ r ∧ IsStatement v := by
  have h' : StatementAt Anywhere s t r := h.mono fun _ _ _ => trivial
  obtain ⟨v, hv, -, hany⟩ := h'.word
  exact ⟨v, hv, t, by simpa using hany [] carries_anywhere⟩

theorem ListAt.isList {ends : Bool → List Token → Prop} {s r : List Token} {body : List Stmt}
    {trailing : Bool} (h : ListAt ends s body trailing r) : ∃ v, s = v ++ r ∧ IsList v := by
  have h' : ListAt Anywhere s body trailing r := h.mono fun _ _ _ => trivial
  obtain ⟨v, hv, -, hany⟩ := h'.word
  exact ⟨v, hv, body, trailing, by simpa using hany [] carries_anywhere⟩

theorem ItemsAt.eq_of_nil {ends : Bool → List Token → Prop} {s r : List Token}
    (h : ItemsAt ends s [] r) : s = r := by
  cases h
  rfl

theorem assignment_refusedIn (d : Nat) {s : TokenStream} (hs : Ended s.toList) :
    (assignment d s).Satisfies AnyValue (RefusedIn IsStatement s.toList) := by
  rw [assignment, current_bind]
  simp only [ite_run]
  split
  · rename_i hx
    have hname : s.current.text ∉ reservedWords := by simpa using hx.2
    obtain ⟨hl, hadv⟩ := read_of_kind hs hx.1 (by decide)
    rw [next_bind, current_bind]
    simp only [ite_run]
    split
    · rename_i ha
      obtain ⟨hl', hadv'⟩ := read_of_kind hadv (Token.isOperator_iff.1 ha).1 (by decide)
      rw [next_bind]
      refine (expression_recognizes_isExpr d).bind hadv' [s.current, s.advance.current] ?_ [] ?_
        fun _ _ _ _ _ _ => trivial
      · rw [hl, hl']
        rfl
      · intro v hv
        simpa using IsStatement.assignment hx.1 hname ha hv
    · refine Or.inr ⟨[s.current], _, hl, .unexpected _ _ _,
        filler .operator ":=" :: shortestExpr, ?_⟩
      exact .assignment hx.1 hname rfl (isExpr_shortestExpr.weaken (by decide))
  · exact Or.inr ⟨[], _, rfl, .unexpected _ _ _, shortestStatement, isStatement_shortestStatement⟩

section

variable {inner : Rule Stmt} (hinner : Recognizes IsStatement inner)

include hinner

theorem moreStatements_refusedIn : ∀ (fuel : Nat) (s : TokenStream), Ended s.toList →
    (moreStatements inner fuel s).Satisfies AnyValue (RefusedIn IsMore s.toList) := by
  intro fuel
  induction fuel with
  | zero => intro s _; trivial
  | succ fuel ih =>
    intro s hs
    rw [moreStatements, acceptMark_bind]
    split
    · rename_i hsemi
      obtain ⟨hl, hadv⟩ := read_of_kind hs (Token.isPunctuation_iff.1 hsemi).1 (by decide)
      simp only [if_true, current_bind, ite_run]
      split
      · refine hinner.bind hadv [s.current] hl []
          (fun v hv => by simpa using IsMore.more hsemi hv .nil) ?_
        intro t s₁ v hs₁ hv hstart
        refine ((ih s₁ hs₁).mono_error fun e r h => h.embed _ hstart [] ?_).bind
          fun _ _ _ => trivial
        intro v' hv'
        simpa using IsMore.more hsemi hv hv'
      · trivial
    · trivial

theorem blockStatements_refusedIn : ∀ (fuel : Nat) (s : TokenStream), Ended s.toList →
    (blockStatements inner fuel s).Satisfies AnyValue (RefusedIn IsBody s.toList) := by
  intro fuel
  induction fuel with
  | zero => intro s _; trivial
  | succ fuel ih =>
    intro s hs
    rw [blockStatements, current_bind]
    simp only [ite_run]
    split
    · trivial
    split
    · exact Or.inr ⟨[], _, rfl, .unexpected _ _ _, shortestStatement,
        isStatement_shortestStatement.isBody⟩
    refine hinner.bind hs [] rfl [] (fun v hv => by simpa using hv.isBody) ?_
    intro t s₁ v hs₁ hv hstart
    rw [acceptMark_bind]
    split
    · rename_i hsemi
      obtain ⟨hl, hadv⟩ := read_of_kind hs₁ (Token.isPunctuation_iff.1 hsemi).1 (by decide)
      refine ((ih _ hadv).mono_error fun e r h => h.embed (v ++ [s₁.current]) ?_ [] ?_).bind
        fun _ _ _ => trivial
      · rw [hstart, hl]
        simp
      · intro v' hv'
        simpa using IsBody.cons_semicolon hv hsemi hv'
    · refine ((ih s₁ hs₁).mono_error fun e r h => h.embed _ hstart [] ?_).bind
        fun _ _ _ => trivial
      intro v' hv'
      simpa using IsBody.cons hv hv'

theorem block_refusedIn (hsound : ∀ s, Ended s.toList →
      (inner s).Satisfies (fun t r => StatementAt Exhausted s.toList t r.toList) AnyError)
    {s : TokenStream} (hs : Ended s.toList) (hopen : s.current.isPunctuation "\x7b" = true) :
    (block inner s).Satisfies AnyValue (RefusedIn IsStatement s.toList) := by
  have hcloseMark : (filler .punctuation "\x7d").isPunctuation "\x7d" = true := rfl
  obtain ⟨hl, hadv⟩ := read_of_kind hs (Token.isPunctuation_iff.1 hopen).1 (by decide)
  have hbody := (blockStatements_sound hsound _ _ hadv (Nat.lt_succ_self _)).and
    (blockStatements_refusedIn hinner (s.advance.remaining + 1) _ hadv)
  rw [block, expectMark_bind, if_pos hopen]
  refine (hbody.mono_error fun e r h => h.embed [s.current] hl [filler .punctuation "\x7d"] ?_).bind
    ?_
  · exact fun v hv => IsStatement.block hopen hcloseMark hv
  · rintro body r ⟨⟨hitems, hclose⟩, -⟩
    rw [next_bind]
    simp only [ite_run]
    split
    · rename_i hempty
      obtain rfl : body = [] := by simpa using hempty
      have hr : s.advance.toList = r.toList := hitems.eq_of_nil
      have hread := read_of_kind (hr ▸ hadv) (Token.isPunctuation_iff.1 hclose).1 (by decide)
      refine Or.inr ⟨[s.current], _, ?_, .emptyBlock _ _, shortestStatement ++
        [filler .punctuation "\x7d"], ?_⟩
      · rw [hl, hr, hread.1]
        rfl
      · exact .block hopen hcloseMark isStatement_shortestStatement.isBody
    · trivial

end

theorem conditional_refusedIn {d : Nat} {list : Rule Stmt} (hlist : Recognizes IsList list)
    {s : TokenStream} (hs : Ended s.toList) (hif : s.current.isWord "if" = true) :
    (conditional (expression d 0) list s).Satisfies AnyValue
      (RefusedIn IsStatement s.toList) := by
  have hx : IsExpr 1 shortestExpr := isExpr_shortestExpr.weaken (by decide)
  have hxs : IsList shortestStatement := isStatement_shortestStatement.isList
  have hcloseMark : (filler .punctuation ")").isPunctuation ")" = true := rfl
  have helse : (filler .identifier "else").isWord "else" = true := rfl
  obtain ⟨hl, hadv⟩ := read_of_kind hs (Token.isWord_iff.1 hif).1 (by decide)
  rw [conditional, next_bind]
  have hbranches : ∀ o v, o.isPunctuation "(" = true → IsExpr 1 v →
      IsStatement (s.current :: o :: (v ++ shortestBranches)) := fun o v ho hv =>
    IsStatement.conditional hif ho hv hcloseMark hxs helse hxs
  refine expectMark_refusedIn hadv [s.current] hl
    ⟨filler .punctuation "(" :: (shortestExpr ++ shortestBranches), hbranches _ _ rfl hx⟩ ?_
  intro o ho hstart₁ hs₁
  refine (expression_recognizes_isExpr d).bind hs₁ _ hstart₁ shortestBranches
    (fun v hv => hbranches o v ho hv) ?_
  intro b s₂ vb hs₂ hvb hstart₂
  refine expectMark_refusedIn hs₂ _ hstart₂
    ⟨shortestBranches, by simpa using hbranches o vb ho hvb⟩ ?_
  intro c hc hstart₃ hs₃
  refine hlist.bind hs₃ _ hstart₃ (filler .identifier "else" :: shortestStatement) ?_ ?_
  · intro v hv
    simpa using IsStatement.conditional hif ho hvb hc hv helse hxs
  intro t s₄ v hs₄ hv hstart₄
  rw [current_bind]
  simp only [ite_run]
  split
  · rename_i hw
    obtain ⟨hl₄, hadv₄⟩ := read_of_kind hs₄ (Token.isWord_iff.1 hw).1 (by decide)
    rw [next_bind]
    refine hlist.bind hadv₄ ([s.current] ++ [o] ++ vb ++ [c] ++ v ++ [s₄.current]) ?_ [] ?_
      fun _ _ _ _ _ _ => trivial
    · rw [hstart₄, hl₄]
      simp
    · intro v' hv'
      simpa using IsStatement.conditional hif ho hvb hc hv hw hv'
  · refine Or.inr ⟨_, _, hstart₄, .missingElse _ _, filler .identifier "else" :: shortestStatement,
      ?_⟩
    simpa using IsStatement.conditional hif ho hvb hc hv helse hxs

/-- **What was read of a statement or of a list can be completed.** -/
theorem statement_recognizes (d : Nat) :
    Recognizes IsStatement (statement d) ∧ Recognizes IsList (statementList d) := by
  induction d with
  | zero =>
    refine ⟨fun s _ => ?_, fun s _ => ?_⟩
    · exact Or.inl ⟨_, rfl⟩
    · exact Or.inl ⟨_, rfl⟩
  | succ d ih =>
    refine ⟨fun s hs => ?_, fun s hs => ?_⟩
    · have hrefused : (statement (d + 1) s).Satisfies AnyValue
          (RefusedIn IsStatement s.toList) := by
        rw [statement, current_bind]
        simp only [ite_run]
        split
        · rename_i hopen
          exact block_refusedIn ih.1 (statement_sound d).1 hs hopen
        split
        · rename_i hif
          exact conditional_refusedIn ih.2 hs hif
        · exact assignment_refusedIn d hs
      exact (((statement_sound (d + 1)).1 s hs).and hrefused).mono
        fun _ _ h => h.1.isStatement
    · have hrefused : (statementList (d + 1) s).Satisfies AnyValue
          (RefusedIn IsList s.toList) := by
        rw [statementList]
        refine ih.1.bind hs [] rfl [] (fun v hv => by simpa using hv.isList) ?_
        intro t s₁ v hs₁ hv hstart
        refine ((moreStatements_refusedIn ih.1 s₁.remaining s₁ hs₁).mono_error
          fun e r h => h.embed _ hstart [] ?_).bind fun _ _ _ => trivial
        intro v' hv'
        simpa using IsList.mk hv hv'
      refine (((statement_sound (d + 1)).2 s hs).and hrefused).mono ?_
      rintro t r ⟨⟨body, trailing, -, hlist, -⟩, -⟩
      exact hlist.isList

end WeakestPre.Grammar
