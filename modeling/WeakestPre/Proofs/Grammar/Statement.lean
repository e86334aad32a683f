import WeakestPre.Grammar.Statement
import WeakestPre.Proofs.Grammar.Expression

/-!
# The grammar of statements

    list        := statement (";" statement)* [";"]
    statement   := block | conditional | assignment
    block       := "{" (statement [";"])+ "}"
    conditional := "if" "(" expression ")" list "else" list
    assignment  := name ":=" expression

`StatementAt ends s t r` says that the grammar derives `t` at the front of the tokens `s`, and that
`r` is left of them. The other relations do the same for the parts of a list and of a block.

**Ambiguity.** A semicolon behind a conditional may belong to its second branch or to the list or
block around the conditional, and so may the statement behind that semicolon. The parameter `ends`
restricts how a branch may end: it is asked about every list of a conditional, with a flag for a
semicolon at its end and with the tokens behind it. `Anywhere` restricts nothing and gives the
grammar above; `Exhausted` asks that the list could not have gone on.

**The rules read exhausted derivations.** What the rules read is derived with all branches
exhausted (`statement_sound`), and of such derivations they read every one (`statement_complete`),
so there is at most one for each text.
-/

namespace WeakestPre.Grammar

/-- `s` is `r`, perhaps with a semicolon in front. -/
def OptionalSemicolon (s r : List Token) : Prop :=
  s = r ∨ ∃ m : Token, m.isPunctuation ";" = true ∧ s = m :: r

/-! ## Derivations -/

mutual

/-- A statement is derived from `s` in front of what is left. -/
inductive StatementAt (ends : Bool → List Token → Prop) :
    List Token → Stmt → List Token → Prop
  | assignment {x a : Token} {s r : List Token} {e : Expr} (hx : x.kind = .identifier)
      (hname : x.text ∉ reservedWords) (ha : a.isOperator ":=" = true) (he : ExprAt 1 s e r) :
      StatementAt ends (x :: a :: s) (.assign x.text e) r
  | block {o c : Token} {s r : List Token} {body : List Stmt}
      (ho : o.isPunctuation "\x7b" = true) (hbody : ItemsAt ends s body (c :: r))
      (hne : body ≠ []) (hc : c.isPunctuation "\x7d" = true) :
      StatementAt ends (o :: s) (.ofList body) r
  | conditional {i o c w : Token} {s s₁ s₂ r : List Token} {b : Expr} {body body' : List Stmt}
      {trailing trailing' : Bool} (hi : i.isWord "if" = true) (ho : o.isPunctuation "(" = true)
      (hb : ExprAt 1 s b (c :: s₁)) (hc : c.isPunctuation ")" = true)
      (hthen : ListAt ends s₁ body trailing (w :: s₂)) (hends : ends trailing (w :: s₂))
      (hw : w.isWord "else" = true) (helse : ListAt ends s₂ body' trailing' r)
      (hends' : ends trailing' r) :
      StatementAt ends (i :: o :: s) (.cond b (.ofList body) (.ofList body')) r

/-- The statements of a list; the flag tells whether a semicolon ends it. -/
inductive ListAt (ends : Bool → List Token → Prop) :
    List Token → List Stmt → Bool → List Token → Prop
  | mk {s s₁ r : List Token} {t : Stmt} {body : List Stmt} {trailing : Bool}
      (ht : StatementAt ends s t s₁) (hmore : MoreAt ends s₁ body trailing r) :
      ListAt ends s (t :: body) trailing r

/-- The statements of a list after its first one. -/
inductive MoreAt (ends : Bool → List Token → Prop) :
    List Token → List Stmt → Bool → List Token → Prop
  | stop {s : List Token} : MoreAt ends s [] false s
  | trailing {m : Token} {s : List Token} (hm : m.isPunctuation ";" = true) :
      MoreAt ends (m :: s) [] true s
  | more {m : Token} {s s₁ r : List Token} {t : Stmt} {body : List Stmt} {trailing : Bool}
      (hm : m.isPunctuation ";" = true) (ht : StatementAt ends s t s₁)
      (hmore : MoreAt ends s₁ body trailing r) : MoreAt ends (m :: s) (t :: body) trailing r

/-- Any number of statements of a block. -/
inductive ItemsAt (ends : Bool → List Token → Prop) :
    List Token → List Stmt → List Token → Prop
  | nil {s : List Token} : ItemsAt ends s [] s
  | cons {s s₁ s₂ r : List Token} {t : Stmt} {body : List Stmt} (ht : StatementAt ends s t s₁)
      (hm : OptionalSemicolon s₁ s₂) (hrest : ItemsAt ends s₂ body r) :
      ItemsAt ends s (t :: body) r

end

/-- No restriction. -/
def Anywhere (_ : Bool) (_ : List Token) : Prop := True

/-- A list that ends here takes every semicolon and statement that it can: if it ends without a
semicolon then none follows, and if it ends with one then no statement can be derived behind it. -/
def Exhausted (trailing : Bool) (r : List Token) : Prop :=
  if trailing then ∀ t r', ¬ StatementAt Anywhere r t r'
  else ∀ m ∈ r.head?, m.isPunctuation ";" = false

/-- All tokens up to the mark of the end form a list of statements, which stands for `t`. -/
def InputAt (ends : Bool → List Token → Prop) (tokens : List Token) (t : Stmt) : Prop :=
  ∃ body trailing mark, ListAt ends tokens body trailing [mark] ∧ mark.isEnd = true ∧
    t = .ofList body

variable {ends : Bool → List Token → Prop} {s r : List Token}

/-! ## Tokens of a derivation -/

/-- A statement starts with an opening brace or a word. -/
theorem StatementAt.starts {t : Stmt} (h : StatementAt ends s t r) :
    ∃ tok rest, s = tok :: rest ∧ startsStatement tok = true := by
  cases h with
  | @assignment x a s r e hx hname ha he =>
    refine ⟨_, _, rfl, ?_⟩
    have hne : x.text ≠ "else" := by
      intro htext
      simp [htext, reservedWords] at hname
    simp [startsStatement, hx, hne]
  | block ho _ _ _ => exact ⟨_, _, rfl, by simp [startsStatement, ho]⟩
  | conditional hi _ _ _ _ _ _ _ _ =>
    obtain ⟨hkind, htext⟩ := Token.isWord_iff.1 hi
    exact ⟨_, _, rfl, by simp [startsStatement, hkind, htext]⟩

theorem StatementAt.starts_cons {t : Stmt} {tok : Token} (h : StatementAt ends (tok :: s) t r) :
    startsStatement tok = true := by
  obtain ⟨tok', rest, hcons, hstarts⟩ := h.starts
  obtain ⟨rfl, -⟩ := List.cons.inj hcons
  exact hstarts

theorem kind_of_startsStatement {tok : Token} (h : startsStatement tok = true) :
    tok.kind = .punctuation ∧ tok.text = "\x7b" ∨ tok.kind = .identifier := by
  have hcases : tok.isPunctuation "\x7b" = true ∨ tok.kind = .identifier ∧ tok.text ≠ "else" := by
    simpa [startsStatement] using h
  rcases hcases with hopen | ⟨hkind, -⟩
  · exact Or.inl (Token.isPunctuation_iff.1 hopen)
  · exact Or.inr hkind

/-- What starts a statement ends no block and no text. -/
theorem not_close_of_startsStatement {tok : Token} (h : startsStatement tok = true) :
    ¬ tok.isPunctuation "\x7d" = true ∧ ¬ tok.isEnd = true := by
  rcases kind_of_startsStatement h with ⟨hkind, htext⟩ | hkind
  · simp [Token.isPunctuation, Token.isEnd, hkind, htext]
  · simp [Token.isPunctuation, Token.isEnd, hkind]

theorem startsStatement_of_punctuation {tok : Token} {mark : String}
    (h : tok.isPunctuation mark = true) (hmark : mark ≠ "\x7b") : startsStatement tok = false := by
  obtain ⟨hkind, htext⟩ := Token.isPunctuation_iff.1 h
  simp [startsStatement, Token.isPunctuation, hkind, htext, hmark]

/-- No list goes on in front of this token: it is no operator, starts no statement and is no
semicolon. -/
structure EndsList (tok : Token) : Prop where
  kind : tok.kind ≠ .operator
  starts : startsStatement tok = false
  semicolon : tok.isPunctuation ";" = false

theorem endsList_of_isEnd {tok : Token} (h : tok.isEnd = true) : EndsList tok where
  kind := by simp [Token.isEnd_iff.1 h]
  starts := by simp [startsStatement, Token.isPunctuation, Token.isEnd_iff.1 h]
  semicolon := by simp [Token.isPunctuation, Token.isEnd_iff.1 h]

theorem endsList_else {tok : Token} (h : tok.isWord "else" = true) : EndsList tok where
  kind := by simp [(Token.isWord_iff.1 h).1]
  starts := by simp [startsStatement, Token.isPunctuation, Token.isWord_iff.1 h]
  semicolon := by simp [Token.isPunctuation, (Token.isWord_iff.1 h).1]

theorem OptionalSemicolon.isSuffix {s r : List Token} (h : OptionalSemicolon s r) : r <:+ s := by
  rcases h with rfl | ⟨m, -, rfl⟩
  · exact List.suffix_refl _
  · exact List.suffix_cons m r

mutual

theorem StatementAt.isSuffix : ∀ {s r : List Token} {t : Stmt}, StatementAt ends s t r →
    r <:+ s ∧ r.length < s.length
  | _, _, _, .assignment _ _ _ he => by
    obtain ⟨hsuffix, hlt⟩ := he.isSuffix
    refine ⟨hsuffix.trans ((List.suffix_cons _ _).trans (List.suffix_cons _ _)), ?_⟩
    simp only [List.length_cons]
    omega
  | _, _, _, .block _ hbody _ _ => by
    have hsuffix := hbody.isSuffix
    refine ⟨(List.suffix_cons _ _).trans (hsuffix.trans (List.suffix_cons _ _)), ?_⟩
    have := hsuffix.length_le
    simp only [List.length_cons] at *
    omega
  | _, _, _, .conditional _ _ hb _ hthen _ _ helse _ => by
    obtain ⟨hsuffix, hlt⟩ := hb.isSuffix
    obtain ⟨hsuffix₁, hlt₁⟩ := hthen.isSuffix
    obtain ⟨hsuffix₂, hlt₂⟩ := helse.isSuffix
    refine ⟨?_, ?_⟩
    · refine hsuffix₂.trans ((List.suffix_cons _ _).trans (hsuffix₁.trans ?_))
      exact (List.suffix_cons _ _).trans
        (hsuffix.trans ((List.suffix_cons _ _).trans (List.suffix_cons _ _)))
    · simp only [List.length_cons] at *
      omega

theorem ListAt.isSuffix : ∀ {s r : List Token} {body : List Stmt} {trailing : Bool},
    ListAt ends s body trailing r → r <:+ s ∧ r.length < s.length
  | _, _, _, _, .mk ht hmore => by
    obtain ⟨hsuffix, hlt⟩ := ht.isSuffix
    have hsuffix' := hmore.isSuffix
    exact ⟨hsuffix'.trans hsuffix, Nat.lt_of_le_of_lt hsuffix'.length_le hlt⟩

theorem MoreAt.isSuffix : ∀ {s r : List Token} {body : List Stmt} {trailing : Bool},
    MoreAt ends s body trailing r → r <:+ s
  | _, _, _, _, .stop => List.suffix_refl _
  | _, _, _, _, .trailing _ => List.suffix_cons _ _
  | _, _, _, _, .more _ ht hmore =>
    hmore.isSuffix.trans (ht.isSuffix.1.trans (List.suffix_cons _ _))

theorem ItemsAt.isSuffix : ∀ {s r : List Token} {body : List Stmt}, ItemsAt ends s body r → r <:+ s
  | _, _, _, .nil => List.suffix_refl _
  | _, _, _, .cons ht hm hrest => hrest.isSuffix.trans (hm.isSuffix.trans ht.isSuffix.1)

end

mutual

/-- A weaker restriction allows more derivations. -/
theorem StatementAt.mono {ends' : Bool → List Token → Prop}
    (hle : ∀ trailing r, ends trailing r → ends' trailing r) :
    ∀ {s r : List Token} {t : Stmt}, StatementAt ends s t r → StatementAt ends' s t r
  | _, _, _, .assignment hx hname ha he => .assignment hx hname ha he
  | _, _, _, .block ho hbody hne hc => .block ho (hbody.mono hle) hne hc
  | _, _, _, .conditional hi ho hb hc hthen hends hw helse hends' =>
    .conditional hi ho hb hc (hthen.mono hle) (hle _ _ hends) hw (helse.mono hle) (hle _ _ hends')

theorem ListAt.mono {ends' : Bool → List Token → Prop}
    (hle : ∀ trailing r, ends trailing r → ends' trailing r) :
    ∀ {s r : List Token} {body : List Stmt} {trailing : Bool},
      ListAt ends s body trailing r → ListAt ends' s body trailing r
  | _, _, _, _, .mk ht hmore => .mk (ht.mono hle) (hmore.mono hle)

theorem MoreAt.mono {ends' : Bool → List Token → Prop}
    (hle : ∀ trailing r, ends trailing r → ends' trailing r) :
    ∀ {s r : List Token} {body : List Stmt} {trailing : Bool},
      MoreAt ends s body trailing r → MoreAt ends' s body trailing r
  | _, _, _, _, .stop => .stop
  | _, _, _, _, .trailing hm => .trailing hm
  | _, _, _, _, .more hm ht hmore => .more hm (ht.mono hle) (hmore.mono hle)

theorem ItemsAt.mono {ends' : Bool → List Token → Prop}
    (hle : ∀ trailing r, ends trailing r → ends' trailing r) :
    ∀ {s r : List Token} {body : List Stmt}, ItemsAt ends s body r → ItemsAt ends' s body r
  | _, _, _, .nil => .nil
  | _, _, _, .cons ht hm hrest => .cons (ht.mono hle) hm (hrest.mono hle)

end

/-! ## What the rules read is derived -/

open TokenStream Rule Outcome

theorem exhausted_of_endsList {trailing : Bool} {tok : Token} (h : EndsList tok) :
    Exhausted trailing (tok :: r) := by
  cases trailing with
  | false =>
    intro m hm
    obtain rfl := Option.some.inj hm
    exact h.semicolon
  | true =>
    intro t r' ht
    exact absurd (h.starts.symm.trans ht.starts_cons) (by simp)

theorem assignment_sound (d : Nat) {s : TokenStream} (hs : Ended s.toList) :
    (assignment d s).Satisfies (fun t r => StatementAt Exhausted s.toList t r.toList) AnyError := by
  rw [assignment, current_bind]
  simp only [ite_run]
  split
  · rename_i hx
    obtain ⟨hl, hadv⟩ := read_of_kind hs hx.1 (by decide)
    rw [next_bind, current_bind]
    simp only [ite_run]
    split
    · rename_i ha
      obtain ⟨hl', hadv'⟩ := read_of_kind hadv (Token.isOperator_iff.1 ha).1 (by decide)
      rw [next_bind]
      refine ((expression_sound d).2 0 _ hadv').bind ?_
      rintro e r ⟨he, -⟩
      rw [hl, hl']
      exact .assignment hx.1 (by simpa using hx.2) ha he
    · trivial
  · trivial

section

variable {inner : Rule Stmt} (hinner : ∀ s, Ended s.toList →
  (inner s).Satisfies (fun t r => StatementAt Exhausted s.toList t r.toList) AnyError)

include hinner

theorem moreStatements_sound : ∀ (fuel : Nat) (s : TokenStream), Ended s.toList →
    s.remaining ≤ fuel → (moreStatements inner fuel s).Satisfies
      (fun body r => ∃ trailing, MoreAt Exhausted s.toList body trailing r.toList ∧
        Exhausted trailing r.toList) AnyError := by
  intro fuel
  induction fuel with
  | zero =>
    intro s hs hfuel
    have hend := isEnd_of_remaining_eq_zero hs (by omega)
    exact ⟨false, .stop, exhausted_of_endsList (endsList_of_isEnd hend)⟩
  | succ fuel ih =>
    intro s hs hfuel
    rw [moreStatements, acceptMark_bind]
    split
    · rename_i hsemi
      obtain ⟨hl, hadv⟩ := read_of_kind hs (Token.isPunctuation_iff.1 hsemi).1 (by decide)
      simp only [if_true, current_bind, ite_run]
      split
      · refine (hinner _ hadv).bind fun t s₁ ht => ?_
        obtain ⟨hsuffix, hlt⟩ := ht.isSuffix
        have hfuel₁ : s₁.remaining ≤ fuel := by
          have := remaining_eq hl
          have := remaining_lt hlt
          omega
        refine (ih s₁ (hadv.of_suffix hsuffix toList_ne_nil) hfuel₁).bind fun body r hbody => ?_
        obtain ⟨trailing, hmore, hex⟩ := hbody
        exact ⟨trailing, hl ▸ .more hsemi ht hmore, hex⟩
      · rename_i hstarts
        exact ⟨true, hl ▸ .trailing hsemi, fun t r' ht => hstarts ht.starts_cons⟩
    · rename_i hsemi
      refine ⟨false, .stop, fun m hm => ?_⟩
      obtain rfl := Option.some.inj hm
      simpa using hsemi

theorem blockStatements_sound : ∀ (fuel : Nat) (s : TokenStream), Ended s.toList →
    s.remaining < fuel → (blockStatements inner fuel s).Satisfies
      (fun body r => ItemsAt Exhausted s.toList body r.toList ∧
        r.current.isPunctuation "\x7d" = true) AnyError := by
  intro fuel
  induction fuel with
  | zero => intro s _ hfuel; omega
  | succ fuel ih =>
    intro s hs hfuel
    rw [blockStatements, current_bind]
    simp only [ite_run]
    split
    · rename_i hclose
      exact ⟨.nil, hclose⟩
    split
    · trivial
    refine (hinner s hs).bind fun t s₁ ht => ?_
    obtain ⟨hsuffix, hlt⟩ := ht.isSuffix
    have hs₁ := hs.of_suffix hsuffix toList_ne_nil
    have hlt := remaining_lt hlt
    rw [acceptMark_bind]
    split
    · rename_i hsemi
      obtain ⟨hl, hadv⟩ := read_of_kind hs₁ (Token.isPunctuation_iff.1 hsemi).1 (by decide)
      have hfuel₁ : s₁.advance.remaining < fuel := by
        have := remaining_eq hl
        omega
      refine (ih _ hadv hfuel₁).bind ?_
      rintro body r ⟨hbody, hclose⟩
      exact ⟨.cons ht (Or.inr ⟨_, hsemi, hl⟩) hbody, hclose⟩
    · refine (ih s₁ hs₁ (by omega)).bind ?_
      rintro body r ⟨hbody, hclose⟩
      exact ⟨.cons ht (Or.inl rfl) hbody, hclose⟩

theorem block_sound {s : TokenStream} (hs : Ended s.toList)
    (hopen : s.current.isPunctuation "\x7b" = true) :
    (block inner s).Satisfies (fun t r => StatementAt Exhausted s.toList t r.toList) AnyError := by
  obtain ⟨hl, hadv⟩ := read_of_kind hs (Token.isPunctuation_iff.1 hopen).1 (by decide)
  rw [block, expectMark_bind, if_pos hopen]
  refine (blockStatements_sound hinner _ _ hadv (Nat.lt_succ_self _)).bind ?_
  rintro body r ⟨hbody, hclose⟩
  obtain ⟨hl', hadv'⟩ := read_of_kind (hadv.of_suffix hbody.isSuffix toList_ne_nil)
    (Token.isPunctuation_iff.1 hclose).1 (by decide)
  rw [next_bind]
  simp only [ite_run]
  split
  · trivial
  · rename_i hne
    rw [hl]
    exact .block hopen (hl' ▸ hbody) (by simpa using hne) hclose

end

/-- The rule for lists reads a list that is exhausted. -/
def ReadsList (list : Rule Stmt) : Prop :=
  ∀ s, Ended s.toList → (list s).Satisfies (fun t r => ∃ body trailing, t = .ofList body ∧
    ListAt Exhausted s.toList body trailing r.toList ∧ Exhausted trailing r.toList) AnyError

theorem conditional_sound {d : Nat} {list : Rule Stmt} (hlist : ReadsList list) {s : TokenStream}
    (hs : Ended s.toList) (hif : s.current.isWord "if" = true) :
    (conditional (expression d 0) list s).Satisfies
      (fun t r => StatementAt Exhausted s.toList t r.toList) AnyError := by
  obtain ⟨hl, hadv⟩ := read_of_kind hs (Token.isWord_iff.1 hif).1 (by decide)
  rw [conditional, next_bind, expectMark_bind]
  split
  · rename_i hopen
    obtain ⟨hl', hadv'⟩ := read_of_kind hadv (Token.isPunctuation_iff.1 hopen).1 (by decide)
    refine closing_sound hadv' (((expression_sound d).2 0 _ hadv').mono fun _ _ h => h.1) _
      fun b s₁ c hc hb hs₁ => ?_
    refine (hlist s₁ hs₁).bind ?_
    rintro t s₂ ⟨body, trailing, htree, hthen, hends⟩
    rw [current_bind]
    simp only [ite_run]
    split
    · rename_i hw
      obtain ⟨hl₂, hadv₂⟩ := read_of_kind (hs₁.of_suffix hthen.isSuffix.1 toList_ne_nil)
        (Token.isWord_iff.1 hw).1 (by decide)
      rw [next_bind]
      refine (hlist _ hadv₂).bind ?_
      rintro t' r ⟨body', trailing', htree', helse, hends'⟩
      rw [hl, hl', htree, htree']
      exact .conditional hif hopen hb hc (hl₂ ▸ hthen) (hl₂ ▸ hends) hw helse hends'
    · trivial
  · trivial

/-- **What the rules read is derived, with all branches exhausted.** -/
theorem statement_sound (d : Nat) :
    (∀ s, Ended s.toList → (statement d s).Satisfies
      (fun t r => StatementAt Exhausted s.toList t r.toList) AnyError) ∧
    ReadsList (statementList d) := by
  induction d with
  | zero => exact ⟨fun _ _ => trivial, fun _ _ => trivial⟩
  | succ d ih =>
    refine ⟨fun s hs => ?_, fun s hs => ?_⟩
    · rw [statement, current_bind]
      simp only [ite_run]
      split
      · rename_i hopen
        exact block_sound ih.1 hs hopen
      split
      · rename_i hif
        exact conditional_sound ih.2 hs hif
      · exact assignment_sound d hs
    · rw [statementList]
      refine (ih.1 s hs).bind fun t s₁ ht => ?_
      have hs₁ := hs.of_suffix ht.isSuffix.1 toList_ne_nil
      refine (moreStatements_sound ih.1 _ s₁ hs₁ (Nat.le_refl _)).bind fun body r hbody => ?_
      obtain ⟨trailing, hmore, hex⟩ := hbody
      exact ⟨t :: body, trailing, rfl, .mk ht hmore, hex⟩

/-! ## What is derived with all branches exhausted is read -/

/-- What may stand behind a statement: no operator, and a word or an opening brace only if a
statement can be derived there. -/
def Follows (r : List Token) : Prop :=
  r ≠ [] ∧ Stops 0 r ∧
    ((∃ tok ∈ r.head?, startsStatement tok = true) → ∃ t r', StatementAt Anywhere r t r')

theorem follows_cons {tok : Token} (hop : tok.kind ≠ .operator)
    (hstarts : startsStatement tok = false) : Follows (tok :: r) := by
  refine ⟨List.cons_ne_nil _ _, stops_cons (binaryOp?_eq_none hop), ?_⟩
  rintro ⟨tok', htok', htrue⟩
  obtain rfl := Option.some.inj htok'
  exact absurd (hstarts.symm.trans htrue) (by simp)

theorem follows_punctuation {tok : Token} {mark : String} (h : tok.isPunctuation mark = true)
    (hmark : mark ≠ "\x7b") : Follows (tok :: r) :=
  follows_cons (by simp [(Token.isPunctuation_iff.1 h).1]) (startsStatement_of_punctuation h hmark)

theorem follows_endsList {tok : Token} (h : EndsList tok) : Follows (tok :: r) :=
  follows_cons h.kind h.starts

theorem StatementAt.follows {t : Stmt} (h : StatementAt ends s t r) : Follows s := by
  obtain ⟨tok, rest, rfl, hstarts⟩ := h.starts
  refine ⟨List.cons_ne_nil _ _, stops_cons (binaryOp?_eq_none ?_), fun _ => ?_⟩
  · rcases kind_of_startsStatement hstarts with ⟨hkind, -⟩ | hkind <;> simp [hkind]
  · exact ⟨t, r, h.mono fun _ _ _ => trivial⟩

theorem MoreAt.follows {body : List Stmt} {trailing : Bool} (h : MoreAt ends s body trailing r)
    (hr : Follows r) : Follows s := by
  cases h with
  | stop => exact hr
  | trailing hm => exact follows_punctuation hm (by decide)
  | more hm _ _ => exact follows_punctuation hm (by decide)

theorem ItemsAt.follows {body : List Stmt} {c : Token} (h : ItemsAt ends s body (c :: r))
    (hc : c.isPunctuation "\x7d" = true) : Follows s := by
  cases h with
  | nil => exact follows_punctuation hc (by decide)
  | cons ht _ _ => exact ht.follows

/-- The items of a block start with no semicolon. -/
theorem ItemsAt.head_ne_semicolon {body : List Stmt} {c tok : Token} {rest : List Token}
    (h : ItemsAt ends (tok :: rest) body (c :: r)) (hc : c.isPunctuation "\x7d" = true) :
    tok.isPunctuation ";" = false := by
  cases h with
  | nil => simp [Token.isPunctuation, (Token.isPunctuation_iff.1 hc).2]
  | cons ht _ _ =>
    rcases kind_of_startsStatement ht.starts_cons with ⟨-, htext⟩ | hkind
    · simp [Token.isPunctuation, htext]
    · simp [Token.isPunctuation, hkind]

theorem assignment_complete (d : Nat) {s : TokenStream} {x a : Token} {l r : List Token} {e : Expr}
    (hs : s.toList = x :: a :: l) (hx : x.kind = .identifier) (hname : x.text ∉ reservedWords)
    (ha : a.isOperator ":=" = true) (he : ExprAt 1 l e r) (hr : r ≠ []) (hstop : Stops 0 r) :
    Reads (.assign x.text e) r (assignment d s) := by
  obtain ⟨rfl, hadv⟩ := read_cons hs (List.cons_ne_nil _ _)
  obtain ⟨rfl, hadv'⟩ := read_cons hadv he.ne_nil
  rw [assignment, current_bind, ite_run, if_pos ⟨hx, by simpa using hname⟩, next_bind, current_bind,
    ite_run, if_pos ha, next_bind]
  exact ((expression_complete d).2 0 _ e r (hadv' ▸ he) hr hstop).bind fun s' hs' => ⟨rfl, hs'⟩

section

variable {inner : Rule Stmt} (hinner : ∀ s t r, StatementAt Exhausted s.toList t r → Follows r →
  Reads t r (inner s))

include hinner

theorem moreStatements_complete : ∀ {l r : List Token} {body : List Stmt} {trailing : Bool},
    MoreAt Exhausted l body trailing r → Follows r → Exhausted trailing r →
    ∀ (fuel : Nat) (s : TokenStream), s.toList = l → s.remaining ≤ fuel →
      Reads body r (moreStatements inner fuel s)
  | _, _, _, _, .stop, _, hex, 0, s, hs, _ => ⟨rfl, hs⟩
  | _, _, _, _, .stop, _, hex, fuel + 1, s, hs, _ => by
    rw [moreStatements, acceptMark_bind, if_neg]
    · exact ⟨rfl, hs⟩
    · have := hex s.current (current_mem_head? hs)
      simp [this]
  | _, _, _, _, .trailing hm, hr, hex, 0, s, hs, hfuel => by
    have := remaining_eq (hs.trans (congrArg _ (read_cons hs hr.1).2.symm))
    omega
  | _, _, _, _, .trailing hm, hr, hex, fuel + 1, s, hs, _ => by
    obtain ⟨hcur, hadv⟩ := read_cons hs hr.1
    have hstarts : startsStatement s.advance.current = false := by
      cases hstarts : startsStatement s.advance.current with
      | false => rfl
      | true =>
        obtain ⟨t, r', ht⟩ := hr.2.2 ⟨_, current_mem_head? hadv, hstarts⟩
        exact absurd ht (hex t r')
    rw [moreStatements, acceptMark_bind, hcur, if_pos hm]
    simp only [if_true, current_bind, ite_run, hstarts]
    exact ⟨rfl, hadv⟩
  | _, _, _, _, .more hm ht hmore, hr, hex, 0, s, hs, hfuel => by
    have := remaining_eq (hs.trans (congrArg _ (read_cons hs ht.follows.1).2.symm))
    omega
  | _, _, _, _, .more hm ht hmore, hr, hex, fuel + 1, s, hs, hfuel => by
    obtain ⟨hcur, hadv⟩ := read_cons hs ht.follows.1
    have ht : StatementAt Exhausted s.advance.toList _ _ := hadv ▸ ht
    rw [moreStatements, acceptMark_bind, hcur, if_pos hm]
    simp only [if_true, current_bind, ite_run, ht.starts_cons]
    refine (hinner _ _ _ ht (hmore.follows hr)).bind fun s₁ hs₁ => ?_
    have hfuel₁ : s₁.remaining ≤ fuel := by
      have := remaining_eq (hs.trans (congrArg _ hadv.symm))
      have := remaining_lt (hs₁ ▸ ht.isSuffix.2)
      omega
    exact (moreStatements_complete hmore hr hex fuel s₁ hs₁ hfuel₁).bind
      fun s₂ hs₂ => ⟨rfl, hs₂⟩

theorem blockStatements_complete : ∀ {l r : List Token} {body : List Stmt} {c : Token},
    ItemsAt Exhausted l body (c :: r) → c.isPunctuation "\x7d" = true →
    ∀ (fuel : Nat) (s : TokenStream), s.toList = l → s.remaining < fuel →
      Reads body (c :: r) (blockStatements inner fuel s)
  | _, _, _, _, _, _, 0, s, _, hfuel => absurd hfuel (Nat.not_lt_zero _)
  | _, _, _, _, .nil, hc, fuel + 1, s, hs, _ => by
    rw [blockStatements, current_bind, ite_run, if_pos (current_eq hs ▸ hc)]
    exact ⟨rfl, hs⟩
  | _, _, _, _, .cons ht hm hrest, hc, fuel + 1, s, hs, hfuel => by
    have ht : StatementAt Exhausted s.toList _ _ := hs ▸ ht
    obtain ⟨hclose, hend⟩ := not_close_of_startsStatement ht.starts_cons
    have hfollows := hrest.follows hc
    rw [blockStatements, current_bind, ite_run, if_neg hclose, ite_run, if_neg hend]
    rcases hm with rfl | ⟨m, hm, rfl⟩
    · refine (hinner _ _ _ ht hfollows).bind fun s₁ hs₁ => ?_
      have hsemi := ItemsAt.head_ne_semicolon (hs₁ ▸ hrest) hc
      have hlt := remaining_lt (hs₁ ▸ ht.isSuffix.2)
      rw [acceptMark_bind, if_neg (by simp [hsemi])]
      exact (blockStatements_complete hrest hc fuel s₁ hs₁ (by omega)).bind
        fun s₂ hs₂ => ⟨rfl, hs₂⟩
    · refine (hinner _ _ _ ht (follows_punctuation hm (by decide))).bind fun s₁ hs₁ => ?_
      have hlt := remaining_lt (hs₁ ▸ ht.isSuffix.2)
      obtain ⟨hcur₁, hadv₁⟩ := read_cons hs₁ hfollows.1
      have hlen := remaining_eq (hs₁.trans (congrArg _ hadv₁.symm))
      rw [acceptMark_bind, hcur₁, if_pos hm]
      exact (blockStatements_complete hrest hc fuel _ hadv₁ (by omega)).bind
        fun s₂ hs₂ => ⟨rfl, hs₂⟩

theorem block_complete {s : TokenStream} {o c : Token} {l r : List Token} {body : List Stmt}
    (hs : s.toList = o :: l) (ho : o.isPunctuation "\x7b" = true)
    (hbody : ItemsAt Exhausted l body (c :: r)) (hne : body ≠ [])
    (hc : c.isPunctuation "\x7d" = true) (hr : r ≠ []) :
    Reads (.ofList body) r (block inner s) := by
  obtain ⟨hcur, hadv⟩ := read_cons hs (hbody.follows hc).1
  rw [block, expectMark_bind, hcur, if_pos ho]
  refine (blockStatements_complete hinner hbody hc _ _ hadv (Nat.lt_succ_self _)).bind
    fun s₁ hs₁ => ?_
  obtain ⟨-, hadv₁⟩ := read_cons hs₁ hr
  rw [next_bind, ite_run, if_neg (by simp [hne])]
  exact ⟨rfl, hadv₁⟩

end

theorem ListAt.ne_nil {body : List Stmt} {trailing : Bool} (h : ListAt ends s body trailing r) :
    s ≠ [] := by
  have hlt := h.isSuffix.2
  intro hs
  simp [hs] at hlt

theorem conditional_complete {d : Nat} {list : Rule Stmt}
    (hlist : ∀ s body trailing r, ListAt Exhausted s.toList body trailing r → Follows r →
      Exhausted trailing r → Reads (.ofList body) r (list s))
    {s : TokenStream} {i o c w : Token} {l l₁ l₂ r : List Token} {b : Expr}
    {body body' : List Stmt} {trailing trailing' : Bool} (hs : s.toList = i :: o :: l)
    (ho : o.isPunctuation "(" = true) (hb : ExprAt 1 l b (c :: l₁))
    (hc : c.isPunctuation ")" = true) (hthen : ListAt Exhausted l₁ body trailing (w :: l₂))
    (hends : Exhausted trailing (w :: l₂)) (hw : w.isWord "else" = true)
    (helse : ListAt Exhausted l₂ body' trailing' r) (hends' : Exhausted trailing' r)
    (hr : Follows r) :
    Reads (.cond b (.ofList body) (.ofList body')) r (conditional (expression d 0) list s) := by
  obtain ⟨-, hadv⟩ := read_cons hs (List.cons_ne_nil _ _)
  obtain ⟨hcur', hadv'⟩ := read_cons hadv hb.ne_nil
  have hguard := (expression_complete d).2 0 _ b _ (hadv' ▸ hb) (List.cons_ne_nil _ _)
    (stops_punctuation hc)
  rw [conditional, next_bind, expectMark_bind, hcur', if_pos ho]
  refine closing_complete hguard hc hthen.ne_nil _ fun s₁ hs₁ => ?_
  have hfollows : Follows (w :: l₂) := follows_endsList (endsList_else hw)
  refine (hlist s₁ body trailing _ (hs₁ ▸ hthen) hfollows hends).bind fun s₂ hs₂ => ?_
  obtain ⟨hcur₂, hadv₂⟩ := read_cons hs₂ helse.ne_nil
  rw [current_bind, hcur₂, ite_run, if_pos hw, next_bind]
  exact (hlist _ body' trailing' r (hadv₂ ▸ helse) hr hends').bind fun s₃ hs₃ => ⟨rfl, hs₃⟩

section

variable {d : Nat} {s : TokenStream} {tok : Token} {l : List Token} (hs : s.toList = tok :: l)

include hs

theorem statement_eq_assignment (hkind : tok.kind = .identifier)
    (hname : tok.text ∉ reservedWords) : statement (d + 1) s = assignment d s := by
  have hif : ¬ tok.isWord "if" = true := fun hif =>
    hname (by simp [(Token.isWord_iff.1 hif).2, reservedWords])
  rw [statement, current_bind, current_eq hs, ite_run, ite_run,
    if_neg (by simp [Token.isPunctuation, hkind]), if_neg hif]

theorem statement_eq_block (hopen : tok.isPunctuation "\x7b" = true) :
    statement (d + 1) s = block (statement d) s := by
  rw [statement, current_bind, current_eq hs, ite_run, if_pos hopen]

theorem statement_eq_conditional (hif : tok.isWord "if" = true) :
    statement (d + 1) s = conditional (expression d 0) (statementList d) s := by
  rw [statement, current_bind, current_eq hs, ite_run, ite_run,
    if_neg (by simp [Token.isPunctuation, (Token.isWord_iff.1 hif).1]), if_pos hif]

end

/-- **What is derived with all branches exhausted is read as it is**, unless rules are nested too
deeply. -/
theorem statement_complete (d : Nat) :
    (∀ s t r, StatementAt Exhausted s.toList t r → Follows r → Reads t r (statement d s)) ∧
    ∀ s body trailing r, ListAt Exhausted s.toList body trailing r → Follows r →
      Exhausted trailing r → Reads (.ofList body) r (statementList d s) := by
  induction d with
  | zero => exact ⟨fun _ _ _ _ _ => ⟨_, rfl⟩, fun _ _ _ _ _ _ _ => ⟨_, rfl⟩⟩
  | succ d ih =>
    refine ⟨fun s t r h hr => ?_, fun s body trailing r h hr hex => ?_⟩
    · generalize hl : s.toList = l at h
      cases h with
      | assignment hx hname ha he =>
        rw [statement_eq_assignment hl hx hname]
        exact assignment_complete d hl hx hname ha he hr.1 hr.2.1
      | block ho hbody hne hc =>
        rw [statement_eq_block hl ho]
        exact block_complete ih.1 hl ho hbody hne hc hr.1
      | conditional hi ho hb hc hthen hends hw helse hends' =>
        rw [statement_eq_conditional hl hi]
        exact conditional_complete ih.2 hl ho hb hc hthen hends hw helse hends' hr
    · generalize hl : s.toList = l at h
      cases h with
      | mk ht hmore =>
        rw [statementList]
        refine (ih.1 s _ _ (hl ▸ ht) (hmore.follows hr)).bind fun s₁ hs₁ => ?_
        exact (moreStatements_complete ih.1 hmore hr hex _ s₁ hs₁ (Nat.le_refl _)).bind
          fun s₂ hs₂ => ⟨rfl, hs₂⟩

end WeakestPre.Grammar
