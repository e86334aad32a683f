import WeakestPre.Proofs.Grammar.Lookahead

/-!
# How deeply rules are nested

A rule calls another one on the same tokens at most once in a row: an expression starts with a
primary and a list with a statement, but every other call comes after a token that was read. So a
text of `n` tokens is never nested deeper than `2 * n` (`expression_shallow`, `statement_shallow`).
-/

namespace WeakestPre

open TokenStream Rule

variable {α β : Type}

/-- The rule did not give up because of nesting. -/
def Outcome.Shallow (o : Outcome α) : Prop := ∀ t r, o ≠ .failed (.tooDeep t) r

namespace Outcome.Shallow

theorem done {a : α} {r : TokenStream} : (Outcome.done a r).Shallow := by
  intro t r' h
  cases h

theorem failed {e : SyntaxError} {r : TokenStream} (h : ∀ t, e ≠ .tooDeep t) :
    (Outcome.failed e r : Outcome α).Shallow := by
  intro t r' heq
  exact h t (Outcome.failed.inj heq).1

theorem bind {r : Rule α} {f : α → Rule β} {s : TokenStream} (hr : (r s).Shallow)
    (hf : ∀ a s₁, r s = .done a s₁ → (f a s₁).Shallow) : ((r >>= f) s).Shallow := by
  cases hrule : r s with
  | done a s₁ =>
    rw [bind_of_done hrule]
    exact hf a s₁ hrule
  | failed e s₁ =>
    rw [bind_of_failed hrule]
    refine failed fun t he => hr t s₁ ?_
    rw [hrule, he]

theorem unexpected {x : Expectation} {t : Token} {r : TokenStream} :
    (Outcome.failed (.unexpected x t) r : Outcome α).Shallow := by
  refine failed ?_
  intro t' h
  cases h

theorem expectMark_bind {mark : String} {x : Expectation} {f : Unit → Rule α} {s : TokenStream}
    (h : s.current.isPunctuation mark = true → (f () s.advance).Shallow) :
    ((expectMark mark x >>= f) s).Shallow := by
  rw [Rule.expectMark_bind]
  split
  · rename_i hmark
    exact h hmark
  · exact unexpected

end Outcome.Shallow

namespace Grammar

open Outcome

/-! ## Expressions -/

theorem primary_consumes (d : Nat) : Consumes (primary d) :=
  .of_sound fun s hs => ((expression_sound d).1 s hs).mono fun _ _ h => h.isSuffix

/-- Reading a token leaves one less. -/
theorem advance_of_kind {s : TokenStream} {kind : TokenKind} (hs : Ended s.toList)
    (hkind : s.current.kind = kind) (hne : kind ≠ .endOfInput) :
    Ended s.advance.toList ∧ s.remaining = s.advance.remaining + 1 := by
  obtain ⟨hl, hadv⟩ := read_of_kind hs hkind hne
  exact ⟨hadv, remaining_eq hl⟩

/-- At the end of the text the current token stays. -/
theorem advance_of_ended {s : TokenStream} (hs : Ended s.toList) :
    Ended s.advance.toList ∧ s.advance.remaining ≤ s.remaining := by
  obtain ⟨t, _ | ⟨u, rest⟩⟩ := s
  · exact ⟨hs, Nat.le_refl _⟩
  · exact ⟨hs, Nat.le_succ _⟩

theorem number_shallow (s : TokenStream) : (number s).Shallow := by
  rw [number, next_bind]
  cases Binary64.ofNumeral? s.current.text with
  | some v => exact .done
  | none => exact .failed fun t h => by cases h

theorem primary_shallow_step {d : Nat} {s : TokenStream} (hs : Ended s.toList)
    (hprimary : ∀ r, Ended r.toList → r.remaining < s.remaining → (primary d r).Shallow)
    (hexpression : ∀ r, Ended r.toList → r.remaining < s.remaining →
      (expression d 0 r).Shallow) : (primary (d + 1) s).Shallow := by
  have hclosing : ∀ (r : TokenStream) (x : Expectation) (f : Expr → Expr), Ended r.toList →
      r.remaining < s.remaining →
      ((do let e ← expression d 0; expectMark ")" x; return f e) r).Shallow := by
    intro r x f hr hlt
    exact (hexpression r hr hlt).bind fun e s₁ _ => .expectMark_bind fun _ => .done
  rw [primary, current_bind]
  simp only [ite_run]
  split
  · exact number_shallow s
  split
  · rename_i habs
    obtain ⟨hadv, hlen⟩ := advance_of_kind hs (Token.isWord_iff.1 habs).1 (by decide)
    rw [next_bind]
    refine .expectMark_bind fun hopen => ?_
    obtain ⟨hadv', hlen'⟩ := advance_of_kind hadv (Token.isPunctuation_iff.1 hopen).1 (by decide)
    exact hclosing _ _ _ hadv' (by omega)
  split
  · split
    · exact .unexpected
    · exact .done
  split
  · rename_i hnot
    obtain ⟨hadv, hlen⟩ := advance_of_kind hs (Token.isOperator_iff.1 hnot).1 (by decide)
    rw [next_bind]
    exact (hprimary _ hadv (by omega)).bind fun _ _ _ => .done
  split
  · rename_i hneg
    obtain ⟨hadv, hlen⟩ := advance_of_kind hs (Token.isOperator_iff.1 hneg).1 (by decide)
    rw [next_bind]
    exact (hprimary _ hadv (by omega)).bind fun _ _ _ => .done
  split
  · rename_i hopen
    obtain ⟨hadv, hlen⟩ := advance_of_kind hs (Token.isPunctuation_iff.1 hopen).1 (by decide)
    rw [next_bind]
    exact hclosing _ _ id hadv (by omega)
  · exact .unexpected

theorem climb_shallow {operand : Int → Rule Expr} {least : Int}
    (hconsumes : ∀ k, Consumes (operand k)) : ∀ (fuel : Nat) (left : Expr) (s : TokenStream),
    Ended s.toList →
    (∀ k r, Ended r.toList → r.remaining < s.remaining → (operand k r).Shallow) →
    (climb operand least fuel left s).Shallow := by
  intro fuel
  induction fuel with
  | zero => intro left s _ _; exact .done
  | succ fuel ih =>
    intro left s hs hoperand
    rw [climb, current_bind]
    cases hop : binaryOp? s.current with
    | none => exact .done
    | some op =>
      obtain ⟨hadv, hlen⟩ := advance_of_kind hs (kind_of_binaryOp? hop) (by decide)
      simp only [ite_run]
      split
      · exact .done
      · rw [next_bind]
        refine (hoperand _ _ hadv (by omega)).bind fun right s₁ hdone => ?_
        obtain ⟨hs₁, hlt⟩ := hconsumes _ _ _ _ hadv hdone
        exact ih _ s₁ hs₁ fun k r hr hlt' => hoperand k r hr (by omega)

/-- **Expressions are nested no deeper than twice their length.** -/
theorem expression_shallow (d : Nat) :
    (∀ s, Ended s.toList → 2 * s.remaining < d → (primary d s).Shallow) ∧
    ∀ least s, Ended s.toList → 2 * s.remaining + 1 < d → (expression d least s).Shallow := by
  induction d with
  | zero =>
    refine ⟨fun s _ hlt => ?_, fun least s _ hlt => ?_⟩
    · omega
    · omega
  | succ d ih =>
    refine ⟨fun s hs hlt => ?_, fun least s hs hlt => ?_⟩
    · refine primary_shallow_step hs ?_ ?_
      · exact fun r hr hlt' => ih.1 r hr (by omega)
      · exact fun r hr hlt' => ih.2 0 r hr (by omega)
    · rw [expression]
      refine (ih.1 s hs (by omega)).bind fun left s₁ hdone => ?_
      obtain ⟨hs₁, hlt₁⟩ := primary_consumes d _ _ _ hs hdone
      exact climb_shallow (expression_consumes d) _ left s₁ hs₁
        fun k r hr hlt' => ih.2 k r hr (by omega)

/-! ## Statements -/

theorem assignment_shallow {d : Nat} {s : TokenStream} (hs : Ended s.toList)
    (hlt : 2 * s.remaining ≤ d) : (assignment d s).Shallow := by
  rw [assignment, current_bind]
  simp only [ite_run]
  split
  · rename_i hx
    obtain ⟨hadv, hlen⟩ := advance_of_kind hs hx.1 (by decide)
    rw [next_bind, current_bind]
    simp only [ite_run]
    split
    · rename_i ha
      obtain ⟨hadv', hlen'⟩ := advance_of_kind hadv (Token.isOperator_iff.1 ha).1 (by decide)
      rw [next_bind]
      exact ((expression_shallow d).2 0 _ hadv' (by omega)).bind fun _ _ _ => .done
    · exact .unexpected
  · exact .unexpected

section

variable {inner : Rule Stmt} (hconsumes : Consumes inner)

include hconsumes

theorem moreStatements_shallow : ∀ (fuel : Nat) (s : TokenStream), Ended s.toList →
    (∀ r, Ended r.toList → r.remaining < s.remaining → (inner r).Shallow) →
    (moreStatements inner fuel s).Shallow := by
  intro fuel
  induction fuel with
  | zero => intro s _ _; exact .done
  | succ fuel ih =>
    intro s hs hinner
    rw [moreStatements, acceptMark_bind]
    split
    · rename_i hsemi
      obtain ⟨hadv, hlen⟩ := advance_of_kind hs (Token.isPunctuation_iff.1 hsemi).1 (by decide)
      simp only [if_true, current_bind, ite_run]
      split
      · refine (hinner _ hadv (by omega)).bind fun t s₁ hdone => ?_
        obtain ⟨hs₁, hlt⟩ := hconsumes _ _ _ hadv hdone
        exact (ih s₁ hs₁ fun r hr hlt' => hinner r hr (by omega)).bind fun _ _ _ => .done
      · exact .done
    · exact .done

theorem blockStatements_shallow : ∀ (fuel : Nat) (s : TokenStream), Ended s.toList →
    (∀ r, Ended r.toList → r.remaining ≤ s.remaining → (inner r).Shallow) →
    (blockStatements inner fuel s).Shallow := by
  intro fuel
  induction fuel with
  | zero => intro s _ _; exact .done
  | succ fuel ih =>
    intro s hs hinner
    rw [blockStatements, current_bind]
    simp only [ite_run]
    split
    · exact .done
    split
    · exact .unexpected
    refine (hinner s hs (Nat.le_refl _)).bind fun t s₁ hdone => ?_
    obtain ⟨hs₁, hlt⟩ := hconsumes _ _ _ hs hdone
    rw [acceptMark_bind]
    split
    · rename_i hsemi
      obtain ⟨hadv, hlen⟩ := advance_of_kind hs₁ (Token.isPunctuation_iff.1 hsemi).1 (by decide)
      exact (ih _ hadv fun r hr hlt' => hinner r hr (by omega)).bind fun _ _ _ => .done
    · exact (ih s₁ hs₁ fun r hr hlt' => hinner r hr (by omega)).bind fun _ _ _ => .done

theorem block_shallow {s : TokenStream} (hs : Ended s.toList)
    (hinner : ∀ r, Ended r.toList → r.remaining < s.remaining → (inner r).Shallow) :
    (block inner s).Shallow := by
  rw [block]
  refine .expectMark_bind fun hopen => ?_
  obtain ⟨hadv, hlen⟩ := advance_of_kind hs (Token.isPunctuation_iff.1 hopen).1 (by decide)
  refine (blockStatements_shallow hconsumes _ _ hadv
    fun r hr hle => hinner r hr (by omega)).bind fun body r _ => ?_
  rw [next_bind]
  simp only [ite_run]
  split
  · exact .failed fun t h => by cases h
  · exact .done

end

theorem statementList_consumes (d : Nat) : Consumes (statementList d) := by
  refine .of_sound fun s hs => ((statement_sound d).2 s hs).mono ?_
  rintro _ _ ⟨body, trailing, -, hlist, -⟩
  exact hlist.isSuffix

theorem conditional_shallow {guard : Rule Expr} {list : Rule Stmt} (hconsumes : Consumes guard)
    (hconsumes' : Consumes list) {s : TokenStream} (hs : Ended s.toList)
    (hguard : ∀ r, Ended r.toList → r.remaining < s.remaining → (guard r).Shallow)
    (hlist : ∀ r, Ended r.toList → r.remaining < s.remaining → (list r).Shallow) :
    (conditional guard list s).Shallow := by
  obtain ⟨hadv, hle⟩ := advance_of_ended hs
  rw [conditional, next_bind]
  refine .expectMark_bind fun hopen => ?_
  obtain ⟨hs₁, hlen₁⟩ := advance_of_kind hadv (Token.isPunctuation_iff.1 hopen).1 (by decide)
  refine (hguard _ hs₁ (by omega)).bind fun b s₂ hdone => .expectMark_bind fun hclose => ?_
  obtain ⟨hs₂, hlt₂⟩ := hconsumes _ _ _ hs₁ hdone
  obtain ⟨hs₃, hlen₃⟩ := advance_of_kind hs₂ (Token.isPunctuation_iff.1 hclose).1 (by decide)
  refine (hlist _ hs₃ (by omega)).bind fun t s₄ hdone' => ?_
  obtain ⟨hs₄, hlt₄⟩ := hconsumes' _ _ _ hs₃ hdone'
  rw [current_bind]
  simp only [ite_run]
  split
  · rename_i helse
    obtain ⟨hs₅, hlen₅⟩ := advance_of_kind hs₄ (Token.isWord_iff.1 helse).1 (by decide)
    rw [next_bind]
    exact (hlist _ hs₅ (by omega)).bind fun _ _ _ => .done
  · exact .failed fun t h => by cases h

/-- **Statements are nested no deeper than twice their length.** -/
theorem statement_shallow (d : Nat) :
    (∀ s, Ended s.toList → 2 * s.remaining < d → (statement d s).Shallow) ∧
    ∀ s, Ended s.toList → 2 * s.remaining + 1 < d → (statementList d s).Shallow := by
  induction d with
  | zero =>
    refine ⟨fun s _ hlt => ?_, fun s _ hlt => ?_⟩
    · omega
    · omega
  | succ d ih =>
    refine ⟨fun s hs hlt => ?_, fun s hs hlt => ?_⟩
    · rw [statement, current_bind]
      simp only [ite_run]
      split
      · exact block_shallow (statement_consumes d) hs fun r hr hlt' => ih.1 r hr (by omega)
      split
      · refine conditional_shallow (expression_consumes d 0) (statementList_consumes d) hs ?_ ?_
        · exact fun r hr hlt' => (expression_shallow d).2 0 r hr (by omega)
        · exact fun r hr hlt' => ih.2 r hr (by omega)
      · exact assignment_shallow hs (by omega)
    · rw [statementList]
      refine (ih.1 s hs (by omega)).bind fun t s₁ hdone => ?_
      obtain ⟨hs₁, hlt₁⟩ := statement_consumes d _ _ _ hs hdone
      exact (moreStatements_shallow (statement_consumes d) _ s₁ hs₁
        fun r hr hlt' => ih.1 r hr (by omega)).bind fun _ _ _ => .done

end Grammar

end WeakestPre
