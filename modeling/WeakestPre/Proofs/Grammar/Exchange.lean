import WeakestPre.Proofs.Grammar.Statement

/-!
# Going on as long as possible rejects nothing

The rules never go back on a token, and a branch of a conditional takes every semicolon and every
statement behind it that it can. A derivation may give them to a list or block further out. We show
that the rules still read every text that has any derivation at all.

**Pending lists** (`Pending`). Where a statement ends, some lists around it are still open: the
list it is an element of, the list of the conditional that this one is a branch of, and so on, up
to the next block, first branch or end of the text, which no branch can leave. `Pending base n`
describes the tokens that may follow when `n` lists are open and `base` tells what may follow after
them. Of two open lists the outer one can do whatever the inner one does, and an open list may
always be closed, so nothing is lost by keeping lists open.

**Exchange** (`Pending.semicolon`). If a semicolon may follow, then the innermost open list may take
it: either a statement can be derived behind it, and all lists stay open, or the tokens behind it
are pending for the lists that remain.

**Invariant** (`statement_keepsOpen`). If a statement is derived in front of tokens that are
pending for `n` lists, then the rule for statements ends in front of tokens that are pending for
`n` lists, perhaps further on. The proof is by induction on the depth of the rules, with inner
inductions along lists and blocks.
-/

namespace WeakestPre.Grammar

open TokenStream Rule Outcome

/-! ## Open lists -/

/-- What may follow where `n` lists are open; `base` may follow after the outermost one. -/
inductive Pending (base : List Token → Prop) : Nat → List Token → Prop
  | base {s : List Token} (h : base s) : Pending base 0 s
  | close {n : Nat} {s : List Token} (h : Pending base n s) : Pending base (n + 1) s
  | trailing {n : Nat} {m : Token} {s : List Token} (hm : m.isPunctuation ";" = true)
      (h : Pending base n s) : Pending base (n + 1) (m :: s)
  | separator {n : Nat} {m : Token} {s s' : List Token} {t : Stmt}
      (hm : m.isPunctuation ";" = true) (ht : StatementAt Anywhere s t s')
      (h : Pending base (n + 1) s') : Pending base (n + 1) (m :: s)

/-- What a block, a first branch or the end of the text lets follow its statements. -/
structure IsBase (base : List Token → Prop) : Prop where
  follows : ∀ {s}, base s → s ≠ [] ∧ Stops 0 s
  starts : ∀ {tok s}, base (tok :: s) → startsStatement tok = true →
    ∃ t s', StatementAt Anywhere (tok :: s) t s' ∧ base s'
  semicolon : ∀ {m s}, base (m :: s) → m.isPunctuation ";" = true → base s

variable {base : List Token → Prop} {n : Nat} {s : List Token}

namespace Pending

theorem follows (hb : IsBase base) (h : Pending base n s) : s ≠ [] ∧ Stops 0 s := by
  induction h with
  | base h => exact hb.follows h
  | close _ ih => exact ih
  | trailing hm _ _ => exact ⟨List.cons_ne_nil _ _, stops_punctuation hm⟩
  | separator hm _ _ _ => exact ⟨List.cons_ne_nil _ _, stops_punctuation hm⟩

theorem starts (hb : IsBase base) {tok : Token} (hstarts : startsStatement tok = true)
    (h : Pending base n (tok :: s)) :
    ∃ t s', StatementAt Anywhere (tok :: s) t s' ∧ Pending base n s' := by
  generalize hl : tok :: s = l at h
  induction h with
  | base h =>
    subst hl
    obtain ⟨t, s', ht, hs'⟩ := hb.starts h hstarts
    exact ⟨t, s', ht, .base hs'⟩
  | close _ ih =>
    obtain ⟨t, s', ht, hs'⟩ := ih hl
    exact ⟨t, s', ht, .close hs'⟩
  | trailing hm _ _ | separator hm _ _ _ =>
    obtain ⟨rfl, -⟩ := List.cons.inj hl
    exact absurd ((startsStatement_of_punctuation hm (by decide)).symm.trans hstarts) (by simp)

/-- A list that is followed by no semicolon ends here. -/
theorem of_succ {tok : Token} (htok : tok.isPunctuation ";" = false)
    (h : Pending base (n + 1) (tok :: s)) : Pending base n (tok :: s) := by
  cases h with
  | close h => exact h
  | trailing hm _ => exact absurd (htok.symm.trans hm) (by simp)
  | separator hm _ _ => exact absurd (htok.symm.trans hm) (by simp)

/-- A list that is open around the innermost one may hand it a semicolon. -/
theorem semicolon_outer (hb : IsBase base) {m : Token} (hm : m.isPunctuation ";" = true)
    (h : Pending base n (m :: s)) :
    (∃ t s', StatementAt Anywhere s t s' ∧ Pending base (n + 1) s') ∨ Pending base n s := by
  generalize hl : m :: s = l at h
  induction h with
  | base h =>
    subst hl
    exact Or.inr (.base (hb.semicolon h hm))
  | close _ ih =>
    rcases ih hl with ⟨t, s', ht, hs'⟩ | hs
    · exact Or.inl ⟨t, s', ht, .close hs'⟩
    · exact Or.inr (.close hs)
  | trailing _ h _ =>
    obtain ⟨-, rfl⟩ := List.cons.inj hl
    exact Or.inr (.close h)
  | separator _ ht h _ =>
    obtain ⟨-, rfl⟩ := List.cons.inj hl
    exact Or.inl ⟨_, _, ht, .close h⟩

/-- **The innermost open list may take a semicolon.** Then a statement can be derived, and all
lists stay open, or none starts there, and the list ends with the semicolon. -/
theorem semicolon (hb : IsBase base) {m tok : Token} (hm : m.isPunctuation ";" = true)
    (h : Pending base (n + 1) (m :: tok :: s)) :
    (∃ t s', StatementAt Anywhere (tok :: s) t s' ∧ Pending base (n + 1) s') ∨
      startsStatement tok = false ∧ Pending base n (tok :: s) := by
  have hcases : (∃ t s', StatementAt Anywhere (tok :: s) t s' ∧ Pending base (n + 1) s') ∨
      Pending base n (tok :: s) := by
    cases h with
    | close h => exact h.semicolon_outer hb hm
    | trailing _ h => exact Or.inr h
    | separator _ ht h => exact Or.inl ⟨_, _, ht, h⟩
  rcases hcases with hleft | hs
  · exact Or.inl hleft
  cases hstarts : startsStatement tok with
  | false => exact Or.inr ⟨rfl, hs⟩
  | true =>
    obtain ⟨t, s', ht, hs'⟩ := hs.starts hb hstarts
    exact Or.inl ⟨t, s', ht, .close hs'⟩

end Pending

/-- The rest of a derived list keeps that list open. -/
theorem MoreAt.pending : ∀ {s r : List Token} {body : List Stmt} {trailing : Bool},
    MoreAt Anywhere s body trailing r → Pending base n r → Pending base (n + 1) s
  | _, _, _, _, .stop, h => .close h
  | _, _, _, _, .trailing hm, h => .trailing hm h
  | _, _, _, _, .more hm ht hmore, h => .separator hm ht (hmore.pending h)

/-! ## Bases -/

/-- Behind a first branch and behind the text only one continuation is possible. -/
theorem isBase_of_endsList {tok : Token} (h : EndsList tok) (r : List Token) :
    IsBase (· = tok :: r) where
  follows := by
    rintro _ rfl
    exact ⟨List.cons_ne_nil _ _, stops_cons (binaryOp?_eq_none h.kind)⟩
  starts := by
    intro tok' s hcons hstarts
    obtain ⟨rfl, -⟩ := List.cons.inj hcons
    exact absurd (h.starts.symm.trans hstarts) (by simp)
  semicolon := by
    intro m s hcons hm
    obtain ⟨rfl, -⟩ := List.cons.inj hcons
    exact absurd (h.semicolon.symm.trans hm) (by simp)

/-- The rest of a block after one of its statements, up to its closing brace and `r`. -/
def BlockRest (c : Token) (r s : List Token) : Prop :=
  ∃ s' body, OptionalSemicolon s s' ∧ ItemsAt Anywhere s' body (c :: r)

theorem isBase_blockRest {c : Token} (hc : c.isPunctuation "\x7d" = true) (r : List Token) :
    IsBase (BlockRest c r) where
  follows := by
    rintro s ⟨s', body, rfl | ⟨m, hm, rfl⟩, hitems⟩
    · exact ⟨(hitems.follows hc).1, (hitems.follows hc).2.1⟩
    · have hfollows : Follows (m :: s') := follows_punctuation hm (by decide)
      exact ⟨hfollows.1, hfollows.2.1⟩
  starts := by
    rintro tok s ⟨s', body, hopt, hitems⟩ hstarts
    rcases hopt with rfl | ⟨m, hm, hcons⟩
    · cases hitems with
      | nil => exact absurd hc (not_close_of_startsStatement hstarts).1
      | cons ht hm hrest => exact ⟨_, _, ht, _, _, hm, hrest⟩
    · obtain ⟨rfl, -⟩ := List.cons.inj hcons
      exact absurd ((startsStatement_of_punctuation hm (by decide)).symm.trans hstarts) (by simp)
  semicolon := by
    rintro m s ⟨s', body, hopt, hitems⟩ hm
    rcases hopt with rfl | ⟨m', -, hcons⟩
    · exact absurd ((hitems.head_ne_semicolon hc).symm.trans hm) (by simp)
    · obtain ⟨-, rfl⟩ := List.cons.inj hcons
      exact ⟨s, body, Or.inl rfl, hitems⟩

/-! ## The rules keep lists open -/

/-- In front of a derived statement the rule reads a statement, and if `n` lists were open behind
the derived one, then `n` lists are open behind the one read. -/
def KeepsOpen (rule : Rule Stmt) : Prop :=
  ∀ {base : List Token → Prop}, IsBase base → ∀ {n : Nat} {s : TokenStream} {t : Stmt}
    {u : List Token}, Ended s.toList → StatementAt Anywhere s.toList t u → Pending base n u →
    (rule s).Satisfies
      (fun t' r => StatementAt Exhausted s.toList t' r.toList ∧ Pending base n r.toList) TooDeep

/-- The same for a list. -/
def KeepsOpenList (rule : Rule Stmt) : Prop :=
  ∀ {base : List Token → Prop}, IsBase base → ∀ {n : Nat} {s : TokenStream} {body : List Stmt}
    {trailing : Bool} {u : List Token}, Ended s.toList →
    ListAt Anywhere s.toList body trailing u → Pending base n u →
    (rule s).Satisfies (fun _ r => r.toList <:+ s.toList ∧ Pending base n r.toList) TooDeep

section

variable {inner : Rule Stmt} (hinner : KeepsOpen inner)

include hinner

theorem moreStatements_keepsOpen (hb : IsBase base) : ∀ (fuel : Nat) (s : TokenStream),
    Ended s.toList → s.remaining ≤ fuel → Pending base (n + 1) s.toList →
    (moreStatements inner fuel s).Satisfies
      (fun _ r => r.toList <:+ s.toList ∧ Pending base n r.toList) TooDeep := by
  intro fuel
  induction fuel with
  | zero =>
    intro s hs hfuel h
    have hend := isEnd_of_remaining_eq_zero hs (by omega)
    exact ⟨List.suffix_refl _, h.of_succ (endsList_of_isEnd hend).semicolon⟩
  | succ fuel ih =>
    intro s hs hfuel h
    rw [moreStatements, acceptMark_bind]
    split
    · rename_i hsemi
      obtain ⟨hl, hadv⟩ := read_of_kind hs (Token.isPunctuation_iff.1 hsemi).1 (by decide)
      have hsuffix : s.advance.toList <:+ s.toList := hl ▸ List.suffix_cons _ _
      have hlen := remaining_eq hl
      rw [hl] at h
      simp only [if_true, current_bind, ite_run]
      -- the list takes the semicolon, whichever list has it in the derivation
      rcases h.semicolon hb hsemi with ⟨t, u, ht, hu⟩ | ⟨hstarts, hopen⟩
      · rw [if_pos ht.starts_cons]
        refine (hinner hb hadv ht hu).bind ?_
        rintro t' s₁ ⟨ht', hopen⟩
        obtain ⟨hsuffix₁, hlt⟩ := ht'.isSuffix
        have hlt := remaining_lt hlt
        refine (ih s₁ (hadv.of_suffix hsuffix₁ toList_ne_nil) (by omega) hopen).bind ?_
        rintro body r ⟨hsuffix₂, hr⟩
        exact ⟨hsuffix₂.trans (hsuffix₁.trans hsuffix), hr⟩
      · rw [if_neg (by simp [hstarts])]
        exact ⟨hsuffix, hopen⟩
    · rename_i hsemi
      exact ⟨List.suffix_refl _, h.of_succ (by simpa using hsemi)⟩

/-- A block is left at the brace that closes it in the derivation. -/
theorem blockStatements_keepsOpen {c : Token} {r : List Token}
    (hc : c.isPunctuation "\x7d" = true) : ∀ (fuel : Nat) (s : TokenStream) (body : List Stmt),
    Ended s.toList → s.remaining < fuel → ItemsAt Anywhere s.toList body (c :: r) →
    (blockStatements inner fuel s).Satisfies
      (fun body' s' => s'.toList = c :: r ∧ body'.isEmpty = body.isEmpty) TooDeep := by
  intro fuel
  induction fuel with
  | zero => intro s _ _ hfuel; omega
  | succ fuel ih =>
    intro s body hs hfuel hitems
    rw [blockStatements, current_bind]
    simp only [ite_run]
    generalize hl : s.toList = l at hitems
    cases hitems with
    | nil =>
      rw [if_pos (current_eq hl ▸ hc)]
      exact ⟨hl, rfl⟩
    | @cons _ s₁ s₂ _ t body ht hm hrest =>
      have ht : StatementAt Anywhere s.toList t s₁ := hl ▸ ht
      obtain ⟨hclose, hend⟩ := not_close_of_startsStatement ht.starts_cons
      rw [if_neg hclose, if_neg hend]
      -- the rule may read more than the derived statement, but the rest still leads to the brace
      refine (hinner (isBase_blockRest hc r) hs ht (.base ⟨s₂, body, hm, hrest⟩)).bind ?_
      rintro t' s' ⟨ht', hopen⟩
      obtain ⟨hsuffix, hlt⟩ := ht'.isSuffix
      have hs' := hs.of_suffix hsuffix toList_ne_nil
      have hlt := remaining_lt hlt
      cases hopen with
      | base hrest' =>
        obtain ⟨l', body', hopt, hitems⟩ := hrest'
        rw [acceptMark_bind]
        split
        · rename_i hsemi
          obtain ⟨hl', hadv⟩ := read_of_kind hs' (Token.isPunctuation_iff.1 hsemi).1 (by decide)
          have hlen := remaining_eq hl'
          rcases hopt with rfl | ⟨m, -, hcons'⟩
          · exact absurd ((ItemsAt.head_ne_semicolon hitems hc).symm.trans hsemi) (by simp)
          · obtain ⟨-, rfl⟩ := List.cons.inj (hl'.symm.trans hcons')
            exact (ih _ body' hadv (by omega) hitems).bind fun _ _ h => ⟨h.1, rfl⟩
        · rename_i hsemi
          rcases hopt with rfl | ⟨m, hm', hcons'⟩
          · exact (ih s' body' hs' (by omega) hitems).bind fun _ _ h => ⟨h.1, rfl⟩
          · exact absurd (current_eq hcons' ▸ hm') hsemi

theorem block_keepsOpen {s : TokenStream} {o c : Token} {l r : List Token} {body : List Stmt}
    (hs : Ended s.toList) (hl : s.toList = o :: l) (ho : o.isPunctuation "\x7b" = true)
    (hbody : ItemsAt Anywhere l body (c :: r)) (hne : body ≠ [])
    (hc : c.isPunctuation "\x7d" = true) (hr : r ≠ []) :
    (block inner s).Satisfies (fun _ s' => s'.toList = r) TooDeep := by
  obtain ⟨hcur, hadv⟩ := read_cons hl (hbody.follows hc).1
  have hs' : Ended s.advance.toList :=
    hs.of_suffix (hadv ▸ hl ▸ List.suffix_cons _ _) toList_ne_nil
  rw [block, expectMark_bind, hcur, if_pos ho]
  refine (blockStatements_keepsOpen hinner hc _ _ body hs' (Nat.lt_succ_self _)
    (hadv ▸ hbody)).bind ?_
  rintro body' s₁ ⟨hs₁, hempty⟩
  rw [next_bind, ite_run, if_neg (by simpa [hempty] using hne)]
  exact (read_cons hs₁ hr).2

end

theorem conditional_keepsOpen {d : Nat} {list : Rule Stmt} (hlist : KeepsOpenList list)
    (hb : IsBase base) {s : TokenStream} {i o c w : Token} {l l₁ l₂ r : List Token} {b : Expr}
    {body body' : List Stmt} {trailing trailing' : Bool} (hs : Ended s.toList)
    (hl : s.toList = i :: o :: l) (ho : o.isPunctuation "(" = true)
    (hguard : ExprAt 1 l b (c :: l₁)) (hc : c.isPunctuation ")" = true)
    (hthen : ListAt Anywhere l₁ body trailing (w :: l₂))
    (hw : w.isWord "else" = true) (helse : ListAt Anywhere l₂ body' trailing' r)
    (hopen : Pending base n r) :
    (conditional (expression d 0) list s).Satisfies (fun _ s' => Pending base n s'.toList)
      TooDeep := by
  obtain ⟨-, hadv⟩ := read_cons hl (List.cons_ne_nil _ _)
  obtain ⟨hcur', hadv'⟩ := read_cons hadv hguard.ne_nil
  have hreads := (expression_complete d).2 0 _ b _ (hadv' ▸ hguard) (List.cons_ne_nil _ _)
    (stops_punctuation hc)
  rw [conditional, next_bind, expectMark_bind, hcur', if_pos ho]
  refine closing_complete hreads hc hthen.ne_nil _ fun s₁ hs₁ => ?_
  have hended₁ : Ended s₁.toList := by
    refine hs.of_suffix ?_ toList_ne_nil
    rw [hs₁, hl]
    exact (List.suffix_cons _ _).trans
      (hguard.isSuffix.1.trans ((List.suffix_cons _ _).trans (List.suffix_cons _ _)))
  -- no list is open around the first branch, so it ends at the derived `else`
  have hbase := isBase_of_endsList (endsList_else hw) l₂
  refine (hlist hbase hended₁ (hs₁ ▸ hthen) (.base rfl)).bind ?_
  rintro t s₂ ⟨hsuffix, hs₂⟩
  cases hs₂ with
  | base hs₂ =>
    obtain ⟨hcur₂, hadv₂⟩ := read_cons hs₂ helse.ne_nil
    have hended₂ : Ended s₂.advance.toList :=
      hended₁.of_suffix (hadv₂ ▸ (hs₂ ▸ List.suffix_cons _ _ : l₂ <:+ s₂.toList).trans hsuffix)
        toList_ne_nil
    rw [current_bind, hcur₂, ite_run, if_pos hw, next_bind]
    exact (hlist hb hended₂ (hadv₂ ▸ helse) hopen).bind fun _ _ h => h.2

/-- **The rules keep lists open.** -/
theorem statement_keepsOpen (d : Nat) :
    KeepsOpen (statement d) ∧ KeepsOpenList (statementList d) := by
  induction d with
  | zero =>
    refine ⟨?_, ?_⟩
    · intro _ _ _ _ _ _ _ _ _
      exact ⟨_, rfl⟩
    · intro _ _ _ _ _ _ _ _ _ _
      exact ⟨_, rfl⟩
  | succ d ih =>
    refine ⟨?_, ?_⟩
    · intro base hb n s t u hs h hopen
      refine Satisfies.and ((statement_sound (d + 1)).1 s hs) ?_
      generalize hl : s.toList = l at h
      obtain ⟨hu, hstop⟩ := hopen.follows hb
      cases h with
      | assignment hx hname ha he =>
        rw [statement_eq_assignment hl hx hname]
        exact (assignment_complete d hl hx hname ha he hu hstop).mono
          fun _ _ h => h.2 ▸ hopen
      | block ho hbody hne hc =>
        rw [statement_eq_block hl ho]
        exact (block_keepsOpen ih.1 hs hl ho hbody hne hc hu).mono fun _ _ hr => hr ▸ hopen
      | conditional hi ho hguard hc hthen _ hw helse _ =>
        rw [statement_eq_conditional hl hi]
        exact conditional_keepsOpen ih.2 hb hs hl ho hguard hc hthen hw helse hopen
    · intro base hb n s body trailing u hs h hopen
      rw [statementList]
      cases h with
      | mk ht hmore =>
        refine (ih.1 hb hs ht (hmore.pending hopen)).bind ?_
        rintro t' s₁ ⟨ht', hopen₁⟩
        have hsuffix := ht'.isSuffix.1
        refine (moreStatements_keepsOpen ih.1 hb _ s₁ (hs.of_suffix hsuffix toList_ne_nil)
          (Nat.le_refl _) hopen₁).bind ?_
        rintro body' r ⟨hsuffix', hr⟩
        exact ⟨hsuffix'.trans hsuffix, hr⟩

end WeakestPre.Grammar
