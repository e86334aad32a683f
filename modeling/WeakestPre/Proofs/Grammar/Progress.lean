import WeakestPre.Proofs.Grammar.Depth

/-!
# Rules move on, and end

**Theorem** (`atDepth_progress`). From every place in a list of tokens whose last one alone marks
the end, every rule ends. If it ends well, then it has read a token; it never goes back, nor past
the mark of the end; and its result depends on the tokens up to the one where it ends.

**Nonterminals** (`Nonterminal`). The rules of the grammar call each other and have loops. Here the
loops are rules as well, which call themselves again, and `expand` writes out one level of calls:
what each rule does, given what the rules that it calls do. Nothing bounds how often this happens.

**Rules end** (`expanded_eq_atDepth`). Every call comes after a token that was read or goes to a
nonterminal of smaller rank. So when the rules have been written out often enough for the tokens
that are left, no call reaches the innermost level: whatever stands there, the outcome is the same,
and it is that of the rules with a bound on their nesting, if the bound is not too small.

**Rules move on.** The loops apart, each rule has a part that reads a token (`atDepth_consumes`).
Where a rule ends and what it depends on is known from its lookahead (`LocalAt.window`).
-/

namespace WeakestPre

open TokenStream Outcome Rule

variable {α β : Type}

/-- A rule gives up at the token that it refuses or behind it, and the error says which. -/
theorem Refuses.place {e : SyntaxError} {r : TokenStream} {t : Token} {u : List Token}
    (h : Refuses e r (t :: u)) :
    (r.toList = t :: u ∧ ∀ r' u', Refuses e r' (t :: u') → r'.toList = t :: u') ∨
    (r.toList = u ∧ ∀ r' u', Refuses e r' (t :: u') → r'.toList = u') := by
  cases h with
  | unexpected | missingElse | tooDeep =>
    refine .inl ⟨rfl, ?_⟩
    rintro r' u' ⟨⟩
    rfl
  | badNumber | emptyBlock =>
    refine .inr ⟨rfl, ?_⟩
    rintro r' u' ⟨⟩
    rfl

namespace Rule

/-! ## How much a rule reads -/

/-- If the rule ends well, then it has read at least `k` tokens. -/
def ReadsAtLeast (k : Nat) (rule : Rule α) : Prop :=
  ∀ s a r, Ended s.toList → rule s = .done a r → Ended r.toList ∧ r.remaining + k ≤ s.remaining

namespace ReadsAtLeast

variable {rule : Rule α} {k l : Nat}

theorem one_iff : ReadsAtLeast 1 rule ↔ Consumes rule := .rfl

theorem mono (h : ReadsAtLeast k rule) (hle : l ≤ k) : ReadsAtLeast l rule := by
  intro s a r hs hdone
  obtain ⟨hr, hlen⟩ := h s a r hs hdone
  exact ⟨hr, by omega⟩

theorem of_consumes (h : Consumes rule) : ReadsAtLeast 0 rule :=
  mono (one_iff.2 h) (Nat.zero_le 1)

theorem pure (a : α) : ReadsAtLeast 0 (Pure.pure a : Rule α) := by
  intro s b r hs hdone
  obtain ⟨-, rfl⟩ := Outcome.done.inj hdone
  exact ⟨hs, Nat.le_refl _⟩

theorem fail (k : Nat) (e : SyntaxError) : ReadsAtLeast k (Rule.fail e : Rule α) := by
  intro s a r _ hdone
  cases hdone

theorem current : ReadsAtLeast 0 current := by
  intro s t r hs hdone
  obtain ⟨-, rfl⟩ := Outcome.done.inj hdone
  exact ⟨hs, Nat.le_refl _⟩

theorem next : ReadsAtLeast 0 next := by
  intro s t r hs hdone
  obtain ⟨-, rfl⟩ := Outcome.done.inj hdone
  exact Grammar.advance_of_ended hs

theorem bind {f : α → Rule β} (h : ReadsAtLeast k rule) (hf : ∀ a, ReadsAtLeast l (f a)) :
    ReadsAtLeast (k + l) (rule >>= f) := by
  intro s b r hs hdone
  cases hrule : rule s with
  | failed e s₁ =>
    rw [bind_of_failed hrule] at hdone
    cases hdone
  | done a s₁ =>
    rw [bind_of_done hrule] at hdone
    obtain ⟨hs₁, hlen⟩ := h s a s₁ hs hrule
    obtain ⟨hr, hlen'⟩ := hf a s₁ b r hs₁ hdone
    exact ⟨hr, by omega⟩

theorem first {f : α → Rule β} (h : ReadsAtLeast k rule) (hf : ∀ a, ReadsAtLeast 0 (f a)) :
    ReadsAtLeast k (rule >>= f) := h.bind hf

theorem second {f : α → Rule β} (h : ReadsAtLeast 0 rule) (hf : ∀ a, ReadsAtLeast k (f a)) :
    ReadsAtLeast k (rule >>= f) := (h.bind hf).mono (Nat.le_add_left k 0)

theorem ite {c : Prop} [Decidable c] {rule' : Rule α} (h : ReadsAtLeast k rule)
    (h' : ReadsAtLeast k rule') : ReadsAtLeast k (if c then rule else rule') := by
  split
  · exact h
  · exact h'

theorem expectMark (mark : String) (x : Expectation) : ReadsAtLeast 1 (expectMark mark x) := by
  intro s a r hs hdone
  rw [Rule.expectMark, current_bind, ite_run] at hdone
  split at hdone
  · rename_i hmark
    obtain ⟨-, rfl⟩ := Outcome.done.inj hdone
    obtain ⟨hadv, hlen⟩ :=
      Grammar.advance_of_kind hs (Token.isPunctuation_iff.1 hmark).1 (by decide)
    exact ⟨hadv, by omega⟩
  · cases hdone

theorem acceptMark (mark : String) : ReadsAtLeast 0 (acceptMark mark) :=
  current.second fun _ => .ite (next.second fun _ => .pure _) (.pure _)

end ReadsAtLeast

/-! ## Where a rule ends -/

/-- **A rule sees the tokens up to the one where it ends**: on another text with the same tokens it
has the same result, and ends at the same place. -/
theorem LocalAt.window {rule : Rule α} {s : TokenStream} (h : LocalAt rule s) :
    ∃ w, s.toList = w ++ (rule s).rest.toList ∧ ∀ s' r' : TokenStream, EndsOnce s'.toList →
      s'.toList = w ++ r'.toList → r'.current = (rule s).rest.current →
      (rule s').toExcept = (rule s).toExcept ∧ (rule s').rest = r' := by
  rw [LocalAt] at h
  cases hrule : rule s with
  | done a r =>
    rw [hrule] at h
    obtain ⟨w, hw, hdone⟩ := h
    refine ⟨w, hw, fun s' r' hends hs' hr' => ?_⟩
    rw [hdone s' r' hends hs' hr']
    exact ⟨rfl, rfl⟩
  | failed e r =>
    rw [hrule] at h
    obtain ⟨w, t, u, hw, hrefuses, hfails⟩ := h
    obtain ⟨hr, hplace⟩ | ⟨hr, hplace⟩ := hrefuses.place
    · refine ⟨w, hr ▸ hw, fun s' r' hends hs' hr' => ?_⟩
      have hfront : r'.toList = t :: r'.upcoming :=
        congrArg (· :: r'.upcoming) (hr'.trans (current_eq hr))
      obtain ⟨r₁, hrefuses₁, hfailed⟩ := hfails s' r'.upcoming hends (hfront ▸ hs')
      rw [hfailed]
      exact ⟨rfl, ext_toList ((hplace r₁ _ hrefuses₁).trans hfront.symm)⟩
    · refine ⟨w ++ [t], by simp [hw, hr, Outcome.rest], fun s' r' hends hs' _ => ?_⟩
      rw [List.append_assoc, List.singleton_append] at hs'
      obtain ⟨r₁, hrefuses₁, hfailed⟩ := hfails s' r'.toList hends hs'
      rw [hfailed]
      exact ⟨rfl, ext_toList (hplace r₁ _ hrefuses₁)⟩

end Rule

namespace Grammar

/-! ## Nonterminals -/

/-- What the grammar has a rule for. The last three are loops: the operators behind an operand, the
statements behind the first of a list, and those up to the end of a block. -/
inductive Nonterminal where
  | primary
  | expression (least : Int)
  | assignment
  | conditional
  | block
  | statement
  | statementList
  | operators (least : Int) (left : Expr)
  | listTail
  | blockTail

namespace Nonterminal

abbrev Value : Nonterminal → Type
  | .primary | .expression _ | .operators _ _ => Expr
  | .assignment | .conditional | .block | .statement | .statementList => Stmt
  | .listTail | .blockTail => List Stmt

def isLoop : Nonterminal → Bool
  | .operators _ _ | .listTail | .blockTail => true
  | _ => false

/-- Before it has read a token, a rule calls nonterminals of smaller rank only. -/
def rank : Nonterminal → Nat
  | .expression _ | .statementList | .blockTail => 2
  | .primary | .statement => 1
  | _ => 0

theorem rank_le_two (x : Nonterminal) : x.rank ≤ 2 := by
  cases x <;> simp [rank]

end Nonterminal

/-- A rule for every nonterminal. -/
abbrev Rules := (x : Nonterminal) → Rule x.Value

/-- What each rule does, given what the rules that it calls do. -/
def expand (rules : Rules) : Rules
  | .primary => do
    let t ← current
    if t.kind = .number then number
    else if t.isWord "abs" then
      let _ ← next
      expectMark "(" .openAfterAbs
      let e ← rules (.expression 0)
      expectMark ")" .closeAbs
      return .unary .abs e
    else if t.kind = .identifier then
      if reservedWords.contains t.text then fail (.unexpected .expression t)
      else
        let _ ← next
        return .var t.text
    else if t.isOperator "!" then
      let _ ← next
      let e ← rules .primary
      return .unary .not e
    else if t.isOperator "-" then
      let _ ← next
      let e ← rules .primary
      return .unary .neg e
    else if t.isPunctuation "(" then
      let _ ← next
      let e ← rules (.expression 0)
      expectMark ")" .closeGroup
      return e
    else fail (.unexpected .expression t)
  | .expression least => do
    let left ← rules .primary
    rules (.operators least left)
  | .operators least left =>
    climbBody (fun k => rules (.expression k)) least (fun e => rules (.operators least e)) left
  | .assignment => do
    let target ← current
    if target.kind = .identifier ∧ !reservedWords.contains target.text then
      let _ ← next
      let sign ← current
      if sign.isOperator ":=" then
        let _ ← next
        let value ← rules (.expression 0)
        return .assign target.text value
      else fail (.unexpected .assignment sign)
    else fail (.unexpected .variableName target)
  | .conditional => conditional (rules (.expression 0)) (rules .statementList)
  | .block => do
    expectMark "\x7b" .openBlock
    let body ← rules .blockTail
    let close ← next
    if body.isEmpty then fail (.emptyBlock close) else return .ofList body
  | .statement => do
    let t ← current
    if t.isPunctuation "\x7b" then rules .block
    else if t.isWord "if" then rules .conditional
    else rules .assignment
  | .statementList => do
    let s ← rules .statement
    let rest ← rules .listTail
    return .ofList (s :: rest)
  | .listTail => moreBody (rules .statement) (fun _ => rules .listTail) ()
  | .blockTail => blockBody (rules .statement) (fun _ => rules .blockTail) ()

/-- The rules written out a number of times, with any rules at the innermost level. -/
def expanded (innermost : Rules) : Nat → Rules
  | 0 => innermost
  | n + 1 => expand (expanded innermost n)

/-- The rules with a bound on their nesting. -/
def atDepth (d : Nat) : Rules
  | .primary => primary d
  | .expression least => expression d least
  | .operators least left => unbounded (climb (expression d) least) left
  | .assignment => assignment d
  | .conditional => conditional (expression d 0) (statementList d)
  | .block => block (statement d)
  | .statement => statement d
  | .statementList => statementList d
  | .listTail => fun s => moreStatements (statement d) s.remaining s
  | .blockTail => fun s => blockStatements (statement d) (s.remaining + 1) s

variable {rules : Rules} {x : Nonterminal} {d : Nat} {s : TokenStream}

/-! ## Rules end -/

/-- The bounded rules are solutions of the unbounded ones: a rule that needs a level calls others
with one level less, and all other rules call them with the same bound. -/
theorem atDepth_eq_expand (hs : Ended s.toList) (hd : x.rank ≤ d) :
    ∃ d', atDepth d x s = expand (atDepth d') x s ∧ d ≤ d' + 1 ∧ (x.rank = 0 → d' = d) := by
  cases x with
  | assignment | conditional | block => exact ⟨d, rfl, Nat.le_succ d, fun _ => rfl⟩
  | operators least left =>
    exact ⟨d, (climb_isLoop (expression_consumes d) least).unroll hs, Nat.le_succ d, fun _ => rfl⟩
  | listTail =>
    exact ⟨d, (moreStatements_isLoop (statement_consumes d)).unroll (x := ()) hs, Nat.le_succ d,
      fun _ => rfl⟩
  | blockTail =>
    exact ⟨d, (blockStatements_isLoop (statement_consumes d)).unroll (x := ()) hs, Nat.le_succ d,
      fun _ => rfl⟩
  | primary | expression | statement | statementList =>
    obtain ⟨d, rfl⟩ : ∃ n, d = n + 1 := Nat.exists_eq_succ_of_ne_zero (by rintro rfl; cases hd)
    exact ⟨d, rfl, Nat.le_refl _, fun h => by cases h⟩

/-- The rules do the same wherever `x` may call them from `s`. -/
def AgreeBelow (rules rules' : Rules) (x : Nonterminal) (s : TokenStream) : Prop :=
  ∀ y r, Ended r.toList → 3 * r.remaining + y.rank < 3 * s.remaining + x.rank →
    rules y r = rules' y r

theorem AgreeBelow.later {rules' : Rules} (h : AgreeBelow rules rules' x s) (y : Nonterminal)
    {r : TokenStream} (hr : Ended r.toList) (hlt : r.remaining < s.remaining) :
    rules y r = rules' y r := by
  have := y.rank_le_two
  exact h y r hr (by omega)

theorem AgreeBelow.here {rules' : Rules} (h : AgreeBelow rules rules' x s) (hs : Ended s.toList)
    (y : Nonterminal) (hlt : y.rank < x.rank) : rules y s = rules' y s :=
  h y s hs (by omega)

theorem expand_primary_congr (hs : Ended s.toList) (h : AgreeBelow rules (atDepth d) .primary s) :
    expand rules .primary s = expand (atDepth d) .primary s := by
  rw [expand, expand, current_bind, current_bind]
  simp only [ite_run]
  split
  · rfl
  split
  · rename_i habs
    obtain ⟨hadv, hlen⟩ := advance_of_kind hs (Token.isWord_iff.1 habs).1 (by decide)
    rw [next_bind, next_bind, expectMark_bind, expectMark_bind]
    split
    · rename_i hopen
      obtain ⟨hadv', hlen'⟩ := advance_of_kind hadv (Token.isPunctuation_iff.1 hopen).1 (by decide)
      exact bind_eq_of_eq (h.later _ hadv' (by omega))
    · rfl
  split
  · rfl
  split
  · rename_i hnot
    obtain ⟨hadv, hlen⟩ := advance_of_kind hs (Token.isOperator_iff.1 hnot).1 (by decide)
    exact bind_eq_of_eq (h.later _ hadv (by omega))
  split
  · rename_i hneg
    obtain ⟨hadv, hlen⟩ := advance_of_kind hs (Token.isOperator_iff.1 hneg).1 (by decide)
    exact bind_eq_of_eq (h.later _ hadv (by omega))
  split
  · rename_i hopen
    obtain ⟨hadv, hlen⟩ := advance_of_kind hs (Token.isPunctuation_iff.1 hopen).1 (by decide)
    exact bind_eq_of_eq (h.later _ hadv (by omega))
  · rfl

theorem expand_assignment_congr (hs : Ended s.toList)
    (h : AgreeBelow rules (atDepth d) .assignment s) :
    expand rules .assignment s = expand (atDepth d) .assignment s := by
  rw [expand, expand, current_bind, current_bind]
  simp only [ite_run]
  split
  · rename_i hx
    obtain ⟨hadv, hlen⟩ := advance_of_kind hs hx.1 (by decide)
    rw [next_bind, next_bind, current_bind, current_bind]
    simp only [ite_run]
    split
    · rename_i ha
      obtain ⟨hadv', hlen'⟩ := advance_of_kind hadv (Token.isOperator_iff.1 ha).1 (by decide)
      exact bind_eq_of_eq (h.later _ hadv' (by omega))
    · rfl
  · rfl

theorem expand_conditional_congr (hs : Ended s.toList)
    (h : AgreeBelow rules (atDepth d) .conditional s) :
    expand rules .conditional s = expand (atDepth d) .conditional s := by
  obtain ⟨hadv, hle⟩ := advance_of_ended hs
  rw [expand, expand, conditional, conditional, next_bind, next_bind, expectMark_bind,
    expectMark_bind]
  split
  · rename_i hopen
    obtain ⟨hs₁, hlen₁⟩ := advance_of_kind hadv (Token.isPunctuation_iff.1 hopen).1 (by decide)
    refine bind_eq_bind (h.later _ hs₁ (by omega)) fun b s₂ hdone => ?_
    obtain ⟨hs₂, hlt₂⟩ := expression_consumes d 0 _ _ _ hs₁ hdone
    rw [expectMark_bind, expectMark_bind]
    split
    · rename_i hclose
      obtain ⟨hs₃, hlen₃⟩ := advance_of_kind hs₂ (Token.isPunctuation_iff.1 hclose).1 (by decide)
      refine bind_eq_bind (h.later _ hs₃ (by omega)) fun t s₄ hdone' => ?_
      obtain ⟨hs₄, hlt₄⟩ := statementList_consumes d _ _ _ hs₃ hdone'
      rw [current_bind, current_bind]
      simp only [ite_run]
      split
      · rename_i helse
        obtain ⟨hs₅, hlen₅⟩ := advance_of_kind hs₄ (Token.isWord_iff.1 helse).1 (by decide)
        rw [next_bind, next_bind]
        exact bind_eq_of_eq (h.later _ hs₅ (by omega))
      · rfl
    · rfl
  · rfl

theorem expand_block_congr (hs : Ended s.toList) (h : AgreeBelow rules (atDepth d) .block s) :
    expand rules .block s = expand (atDepth d) .block s := by
  rw [expand, expand, expectMark_bind, expectMark_bind]
  split
  · rename_i hopen
    obtain ⟨hadv, hlen⟩ := advance_of_kind hs (Token.isPunctuation_iff.1 hopen).1 (by decide)
    exact bind_eq_of_eq (h.later _ hadv (by omega))
  · rfl

/-- **What a rule does is determined by what it may call.** -/
theorem expand_congr (hs : Ended s.toList) (h : AgreeBelow rules (atDepth d) x s) :
    expand rules x s = expand (atDepth d) x s := by
  cases x with
  | primary => exact expand_primary_congr hs h
  | operators least left =>
    exact climbBody_congr (expression_consumes d) hs
      (fun k r hr hlt => h.later (.expression k) hr hlt)
      fun e r hr hlt => h.later (.operators least e) hr hlt
  | assignment => exact expand_assignment_congr hs h
  | conditional => exact expand_conditional_congr hs h
  | block => exact expand_block_congr hs h
  | listTail =>
    exact moreBody_congr (statement_consumes d) hs (fun r hr hlt => h.later .statement hr hlt)
      fun _ r hr hlt => h.later .listTail hr hlt
  | blockTail =>
    exact blockBody_congr (statement_consumes d) hs (h.here hs .statement (by decide))
      fun _ r hr hlt => h.later .blockTail hr hlt
  | expression least =>
    refine bind_eq_bind (h.here hs .primary (by simp [Nonterminal.rank])) fun left s₁ hdone => ?_
    obtain ⟨hs₁, hlt⟩ := primary_consumes d _ _ _ hs hdone
    exact h.later _ hs₁ hlt
  | statement =>
    rw [expand, expand, current_bind, current_bind]
    simp only [ite_run]
    split
    · exact h.here hs .block (by decide)
    split
    · exact h.here hs .conditional (by decide)
    · exact h.here hs .assignment (by decide)
  | statementList =>
    refine bind_eq_bind (h.here hs .statement (by decide)) fun t s₁ hdone => ?_
    obtain ⟨hs₁, hlt⟩ := statement_consumes d _ _ _ hs hdone
    exact bind_eq_of_eq (h.later .listTail hs₁ hlt)

/-- **Rules end.** Written out more often than `3 * s.remaining + x.rank` times, the rules do what
the bounded rules do, whatever stands at the innermost level. -/
theorem expanded_eq_atDepth (innermost : Rules) {n : Nat} (hs : Ended s.toList)
    (hn : 3 * s.remaining + x.rank < n) (hd : 2 * s.remaining + x.rank ≤ d) :
    expanded innermost n x s = atDepth d x s := by
  induction n generalizing x s d with
  | zero => exact absurd hn (Nat.not_lt_zero _)
  | succ n ih =>
    obtain ⟨d', heq, hd', hsame⟩ := atDepth_eq_expand hs (Nat.le_trans (Nat.le_add_left _ _) hd)
    rw [expanded, heq]
    refine expand_congr hs fun y r hr hlt => ih hr (by omega) ?_
    have := y.rank_le_two
    by_cases hrank : x.rank = 0
    · have := hsame hrank
      omega
    · omega

/-- With levels enough for the tokens that are left, no rule gives up because of nesting. -/
theorem atDepth_shallow (hs : Ended s.toList) (hd : 2 * s.remaining + x.rank ≤ d) :
    (atDepth d x s).Shallow := by
  have hexpression := (expression_shallow d).2
  have hstatement := (statement_shallow d).1
  have hlist := (statement_shallow d).2
  cases x with
  | primary => exact (expression_shallow d).1 s hs hd
  | expression least => exact hexpression least s hs hd
  | assignment => exact assignment_shallow hs hd
  | statement => exact hstatement s hs hd
  | statementList => exact hlist s hs hd
  | conditional =>
    exact conditional_shallow (expression_consumes d 0) (statementList_consumes d) hs
      (fun r hr hlt => hexpression 0 r hr (by omega)) fun r hr hlt => hlist r hr (by omega)
  | block =>
    exact block_shallow (statement_consumes d) hs fun r hr hlt => hstatement r hr (by omega)
  | operators least left =>
    exact climb_shallow (expression_consumes d) _ left s hs
      fun k r hr hlt => hexpression k r hr (by omega)
  | listTail =>
    exact moreStatements_shallow (statement_consumes d) _ s hs
      fun r hr hlt => hstatement r hr (by omega)
  | blockTail =>
    replace hd : 2 * s.remaining + 2 ≤ d := hd
    exact blockStatements_shallow (statement_consumes d) _ s hs
      fun r hr hle => hstatement r hr (by omega)

/-! ## Rules move on -/

theorem assignment_consumes (d : Nat) : Consumes (assignment d) := by
  have hvalue := ReadsAtLeast.one_iff.2 (expression_consumes d 0)
  rw [← ReadsAtLeast.one_iff, assignment]
  refine ReadsAtLeast.current.second fun target => ?_
  refine .ite (ReadsAtLeast.next.second fun _ => ReadsAtLeast.current.second fun sign => ?_)
    (.fail _ _)
  exact .ite (ReadsAtLeast.next.second fun _ => hvalue.first fun _ => .pure _) (.fail _ _)

theorem conditional_consumes {guard : Rule Expr} {list : Rule Stmt} (hguard : Consumes guard)
    (hlist : Consumes list) : Consumes (conditional guard list) := by
  rw [← ReadsAtLeast.one_iff, conditional]
  -- the first word is not looked at, so the mark behind it is the first token that is surely read
  refine ReadsAtLeast.next.second fun _ => (ReadsAtLeast.expectMark _ _).first fun _ => ?_
  refine (ReadsAtLeast.of_consumes hguard).first fun b => ?_
  refine ((ReadsAtLeast.expectMark _ _).mono (Nat.zero_le 1)).first fun _ => ?_
  refine (ReadsAtLeast.of_consumes hlist).first fun t => ReadsAtLeast.current.first fun _ => ?_
  refine .ite (ReadsAtLeast.next.first fun _ => ?_) (.fail _ _)
  exact (ReadsAtLeast.of_consumes hlist).first fun _ => .pure _

theorem blockStatements_readsAtLeast {inner : Rule Stmt} (hinner : Consumes inner) (fuel : Nat) :
    ReadsAtLeast 0 (blockStatements inner fuel) := by
  induction fuel with
  | zero => exact .pure _
  | succ fuel ih =>
    rw [blockStatements]
    refine ReadsAtLeast.current.first fun t => ?_
    refine .ite (.pure _) (.ite (.fail _ _) ?_)
    refine (ReadsAtLeast.of_consumes hinner).first fun _ => ?_
    exact (ReadsAtLeast.acceptMark _).first fun _ => ih.first fun _ => .pure _

theorem block_consumes {inner : Rule Stmt} (hinner : Consumes inner) : Consumes (block inner) := by
  have hbody : ReadsAtLeast 0 fun s => blockStatements inner (s.remaining + 1) s :=
    fun s => blockStatements_readsAtLeast hinner (s.remaining + 1) s
  rw [← ReadsAtLeast.one_iff, block]
  refine (ReadsAtLeast.expectMark _ _).first fun _ => hbody.first fun body => ?_
  refine ReadsAtLeast.next.first fun close => ?_
  exact .ite (.fail _ _) (.pure _)

/-- **A rule that ends well has read a token**, loops apart. -/
theorem atDepth_consumes (d : Nat) (hx : x.isLoop = false) : Consumes (atDepth d x) := by
  cases x with
  | primary => exact primary_consumes d
  | expression least => exact expression_consumes d least
  | assignment => exact assignment_consumes d
  | conditional => exact conditional_consumes (expression_consumes d 0) (statementList_consumes d)
  | block => exact block_consumes (statement_consumes d)
  | statement => exact statement_consumes d
  | statementList => exact statementList_consumes d
  | operators | listTail | blockTail => cases hx

/-- **Every rule looks one token ahead.** -/
theorem atDepth_localAt (d : Nat) (x : Nonterminal) (hs : EndsOnce s.toList) :
    LocalAt (atDepth d x) s := by
  have hstatement := (statement_localAt d).1
  have hexpression := (expression_localAt d).2
  cases x with
  | primary => exact (expression_localAt d).1 s hs
  | expression least => exact hexpression least s hs
  | operators least left => exact climb_localAt (expression_consumes d) hexpression least left hs
  | assignment => exact assignment_localAt d hs
  | conditional => exact conditional_localAt (hexpression 0) (statement_localAt d).2 hs
  | block => exact block_localAt (statement_consumes d) hstatement (statement_sound d).1 hs
  | statement => exact hstatement s hs
  | statementList => exact (statement_localAt d).2 s hs
  | listTail => exact moreStatements_localAt (statement_consumes d) hstatement hs
  | blockTail => exact blockStatements_localAt (statement_consumes d) hstatement hs

/-! ## Places in a list of tokens -/

section

variable {tokens : List Token} {pos : Nat}

theorem toList_of_at?_of_lt (hpos : pos < tokens.length)
    (hs : TokenStream.at? tokens pos = some s) : s.toList = tokens.drop pos := by
  rw [toList_of_at? hs, Nat.min_eq_left (by omega)]

theorem at?_eq_some_of_drop (h : tokens.drop pos = s.toList) :
    TokenStream.at? tokens pos = some s ∧ pos < tokens.length := by
  have hpos : pos < tokens.length := by
    apply Nat.lt_of_not_le
    intro hle
    exact s.toList_ne_nil (by rw [← h, List.drop_eq_nil_of_le hle])
  refine ⟨?_, hpos⟩
  rw [TokenStream.at?, Nat.min_eq_left (by omega), h]
  rfl

/-- The place behind the first tokens of a stream. -/
theorem at?_add_length {w : List Token} {r : TokenStream} (hpos : pos < tokens.length)
    (hs : TokenStream.at? tokens pos = some s) (hw : s.toList = w ++ r.toList) :
    TokenStream.at? tokens (pos + w.length) = some r ∧ pos + w.length < tokens.length := by
  apply at?_eq_some_of_drop
  rw [← List.drop_drop, ← toList_of_at?_of_lt hpos hs, hw, List.drop_left]

theorem extract_eq_take (hpos : pos < tokens.length) (hs : TokenStream.at? tokens pos = some s)
    (k : Nat) : tokens.extract pos (pos + k + 1) = s.toList.take (k + 1) := by
  rw [List.extract_eq_take_drop, toList_of_at?_of_lt hpos hs, Nat.add_assoc,
    Nat.add_sub_cancel_left]

/-- **Rules move on, and end**, from every place in a list of tokens. The rule moves on by `k`
tokens, and on any other list with the same tokens up to the one behind these it does the same. -/
theorem atDepth_progress (hends : EndsOnce tokens) (hpos : pos < tokens.length)
    (hs : TokenStream.at? tokens pos = some s) (x : Nonterminal) (d : Nat) :
    (2 * s.remaining + x.rank ≤ d → (atDepth d x s).Shallow ∧
      ∀ innermost n, 3 * s.remaining + x.rank < n →
        expanded innermost n x s = atDepth d x s) ∧
    ∃ k, TokenStream.at? tokens (pos + k) = some (atDepth d x s).rest ∧
      pos + k < tokens.length ∧
      (x.isLoop = false → ∀ a r, atDepth d x s = .done a r → 0 < k) ∧
      ∀ tokens' pos' s', EndsOnce tokens' → pos' < tokens'.length →
        TokenStream.at? tokens' pos' = some s' →
        tokens'.extract pos' (pos' + k + 1) = tokens.extract pos (pos + k + 1) →
        (atDepth d x s').toExcept = (atDepth d x s).toExcept ∧
          TokenStream.at? tokens' (pos' + k) = some (atDepth d x s').rest := by
  have hlist := toList_of_at?_of_lt hpos hs
  have honce : EndsOnce s.toList := hends.of_suffix (hlist ▸ List.drop_suffix _ _) toList_ne_nil
  obtain ⟨w, hw, hsame⟩ := (atDepth_localAt d x honce).window
  obtain ⟨hplace, hbefore⟩ := at?_add_length hpos hs hw
  refine ⟨fun hd => ⟨atDepth_shallow honce.ended hd, fun innermost n hn =>
    expanded_eq_atDepth innermost honce.ended hn hd⟩, w.length, hplace, hbefore, ?_, ?_⟩
  · intro hx a r hdone
    have hlt := (atDepth_consumes d hx s a r honce.ended hdone).2
    rw [hdone] at hw
    have hlen := congrArg List.length hw
    simp only [List.length_append, length_toList, Outcome.rest] at hlen
    omega
  · intro tokens' pos' s' hends' hpos' hs' hwindow
    have hlist' := toList_of_at?_of_lt hpos' hs'
    have honce' : EndsOnce s'.toList :=
      hends'.of_suffix (hlist' ▸ List.drop_suffix _ _) toList_ne_nil
    -- the other text has the tokens that were read, and behind them the one that was looked at
    rw [extract_eq_take hpos' hs', extract_eq_take hpos hs, hw] at hwindow
    have hfront : s'.toList.take (w.length + 1) = w ++ [(atDepth d x s).rest.current] := by
      rw [hwindow, List.take_length_add_append]
      rfl
    have hsplit := List.take_append_drop (w.length + 1) s'.toList
    rw [hfront, List.append_assoc, List.singleton_append] at hsplit
    obtain ⟨hresult, hrest⟩ := hsame s'
      ⟨(atDepth d x s).rest.current, s'.toList.drop (w.length + 1)⟩ honce' hsplit.symm rfl
    refine ⟨hresult, ?_⟩
    rw [hrest]
    exact (at?_add_length hpos' hs' hsplit.symm).1

/-- The tokens of a block with one statement behind a word, all at one place. -/
def blockTokens : List Token :=
  let token (kind : TokenKind) (text : String) : Token := ⟨kind, text, ⟨1, 1, ""⟩⟩
  [token .identifier "else", token .punctuation "\x7b", token .identifier "x",
    token .operator ":=", token .identifier "y", token .punctuation ";",
    token .punctuation "\x7d", token .endOfInput ""]

/-- From the second token on, 19 levels of the rules read the block up to the mark of the end. -/
theorem atDepth_progress_block :
    EndsOnce blockTokens ∧ 1 < blockTokens.length ∧
      (∀ innermost, expanded innermost 19 .block ⟨blockTokens[1], blockTokens.drop 2⟩ =
        .done (.assign "x" (.var "y")) ⟨blockTokens[7], []⟩) ∧
      ∃ k, 0 < k ∧ TokenStream.at? blockTokens (1 + k) = some ⟨blockTokens[7], []⟩ := by
  have hends : EndsOnce blockTokens := ⟨blockTokens.dropLast, blockTokens[7], rfl, rfl, by decide⟩
  have hpos : 1 < blockTokens.length := by decide
  have hdone : atDepth 12 .block ⟨blockTokens[1], blockTokens.drop 2⟩ =
      .done (.assign "x" (.var "y")) ⟨blockTokens[7], []⟩ := rfl
  obtain ⟨hlevels, k, hplace, -, hread, -⟩ := atDepth_progress hends hpos rfl .block 12
  refine ⟨hends, hpos, fun innermost => ?_, k, hread rfl _ _ hdone, hplace⟩
  exact ((hlevels (by decide)).2 innermost 19 (by decide)).trans hdone

end

end Grammar

end WeakestPre
