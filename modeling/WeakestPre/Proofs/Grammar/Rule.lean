import WeakestPre.Grammar.Rule

/-!
# Reasoning about rules

**Outcomes** (`Satisfies`). What a rule does from a stream is stated by two conditions, one for the
value and the tokens left behind if it ends well, one for the error if it fails. Rules are composed
by `bind`, and so are these statements (`Satisfies.bind`). The reading rules are unfolded by the
equations of the section on steps.

**Ends** (`Ended`). In a list that ends with the mark of the end, a token that is not that mark has
tokens after it, so reading it moves on.
-/

namespace WeakestPre

variable {α β : Type}

/-! ## Outcomes -/

namespace Outcome

/-- The value and the tokens left satisfy `P`, or the error and the place of failure `E`. -/
def Satisfies (P : α → TokenStream → Prop) (E : SyntaxError → TokenStream → Prop) :
    Outcome α → Prop
  | .done a s => P a s
  | .failed e s => E e s

theorem Satisfies.mono {P Q : α → TokenStream → Prop} {E : SyntaxError → TokenStream → Prop}
    {o : Outcome α} (h : o.Satisfies P E) (hPQ : ∀ a s, P a s → Q a s) : o.Satisfies Q E := by
  cases o with
  | done a s => exact hPQ a s h
  | failed e s => exact h

theorem Satisfies.mono_error {P : α → TokenStream → Prop}
    {E E' : SyntaxError → TokenStream → Prop} {o : Outcome α} (h : o.Satisfies P E)
    (hE : ∀ e s, E e s → E' e s) : o.Satisfies P E' := by
  cases o with
  | done a s => exact h
  | failed e s => exact hE e s h

theorem Satisfies.and {P Q : α → TokenStream → Prop} {E : SyntaxError → TokenStream → Prop}
    {o : Outcome α} (hP : o.Satisfies P fun _ _ => True) (hQ : o.Satisfies Q E) :
    o.Satisfies (fun a s => P a s ∧ Q a s) E := by
  cases o with
  | done a s => exact ⟨hP, hQ⟩
  | failed e s => exact hQ

theorem Satisfies.bind {P : α → TokenStream → Prop} {Q : β → TokenStream → Prop}
    {E : SyntaxError → TokenStream → Prop} {r : Rule α} {f : α → Rule β} {s : TokenStream}
    (h : (r s).Satisfies P E) (hf : ∀ a s', P a s' → (f a s').Satisfies Q E) :
    ((r >>= f) s).Satisfies Q E := by
  show (Rule.bind r f s).Satisfies Q E
  rw [Rule.bind]
  cases hr : r s with
  | done a s' =>
    rw [hr] at h
    exact hf a s' h
  | failed e s' =>
    rw [hr] at h
    exact h

end Outcome

/-- Any failure. -/
def AnyError (_ : SyntaxError) (_ : TokenStream) : Prop := True

/-- The failure of rules that are nested too deeply. -/
def TooDeep (e : SyntaxError) (_ : TokenStream) : Prop := ∃ t, e = .tooDeep t

/-! ## Steps -/

namespace Rule

variable {s : TokenStream}

theorem current_bind (f : Token → Rule α) : (current >>= f) s = f s.current s := rfl

theorem next_bind (f : Token → Rule α) : (next >>= f) s = f s.current s.advance := rfl

theorem ite_run (c : Prop) [Decidable c] (r r' : Rule α) :
    (if c then r else r') s = if c then r s else r' s := by
  split <;> rfl

/-- A rule that looks at the current token before it chooses how to go on. -/
theorem choice_bind (c : Token → Bool) (r r' : Token → Rule α) (f : α → Rule β) :
    ((do let t ← current; if c t then r t else r' t) >>= f) s =
      if c s.current then (r s.current >>= f) s else (r' s.current >>= f) s := by
  show Rule.bind (current >>= fun t => if c t then r t else r' t) f s = _
  rw [Rule.bind, current_bind, ite_run]
  cases hc : c s.current with
  | true => rfl
  | false => rfl

theorem expectMark_bind (mark : String) (expected : Expectation) (f : Unit → Rule α) :
    (expectMark mark expected >>= f) s =
      if s.current.isPunctuation mark then f () s.advance
      else .failed (.unexpected expected s.current) s :=
  choice_bind ..

theorem acceptMark_bind (mark : String) (f : Bool → Rule α) :
    (acceptMark mark >>= f) s =
      if s.current.isPunctuation mark then f true s.advance else f false s :=
  choice_bind ..

theorem expectEnd_bind (f : Unit → Rule α) :
    (expectEnd >>= f) s =
      if s.current.isEnd then f () s else .failed (.trailing s.current) s :=
  choice_bind ..

end Rule

/-! ## Kinds of tokens -/

namespace Token

variable {t : Token} {text : String}

theorem isPunctuation_iff :
    t.isPunctuation text = true ↔ t.kind = .punctuation ∧ t.text = text := by
  simp [isPunctuation]

theorem isOperator_iff : t.isOperator text = true ↔ t.kind = .operator ∧ t.text = text := by
  simp [isOperator]

theorem isWord_iff : t.isWord text = true ↔ t.kind = .identifier ∧ t.text = text := by
  simp [isWord]

theorem isEnd_iff : t.isEnd = true ↔ t.kind = .endOfInput := by
  simp [isEnd]

end Token

/-! ## Ends -/

/-- The last token marks the end of the text. -/
def Ended : List Token → Prop
  | [] => False
  | [t] => t.isEnd = true
  | _ :: t :: rest => Ended (t :: rest)

theorem Ended.of_suffix {l r : List Token} (h : Ended l) (hsuf : r <:+ l) (hr : r ≠ []) :
    Ended r := by
  induction l with
  | nil => exact h.elim
  | cons t l ih =>
    rcases List.suffix_cons_iff.1 hsuf with rfl | hsuf
    · exact h
    · cases l with
      | nil => exact absurd (List.suffix_nil.1 hsuf) hr
      | cons u l => exact ih h hsuf

namespace TokenStream

variable {s : TokenStream}

theorem toList_ne_nil : s.toList ≠ [] := List.cons_ne_nil _ _

theorem length_toList : s.toList.length = s.remaining + 1 := rfl

theorem remaining_lt {r : TokenStream} (h : r.toList.length < s.toList.length) :
    r.remaining < s.remaining :=
  Nat.lt_of_succ_lt_succ h

theorem remaining_eq {t : Token} {r : TokenStream} (h : s.toList = t :: r.toList) :
    s.remaining = r.remaining + 1 :=
  Nat.succ.inj (congrArg List.length h)

theorem current_eq {t : Token} {l : List Token} (h : s.toList = t :: l) : s.current = t :=
  (List.cons.inj h).1

theorem current_mem_head? {l : List Token} (h : s.toList = l) : s.current ∈ l.head? := by
  subst h
  rfl

/-- Reading a token that is not the last one. -/
theorem read_cons {t : Token} {l : List Token} (hs : s.toList = t :: l) (hl : l ≠ []) :
    s.current = t ∧ s.advance.toList = l := by
  obtain ⟨rfl, rfl⟩ : s.current = t ∧ s.upcoming = l := by simpa [toList] using hs
  refine ⟨rfl, ?_⟩
  cases hu : s.upcoming with
  | nil => exact absurd hu hl
  | cons u rest => simp [advance, hu, toList]

/-- Reading a token that is not the mark of the end. -/
theorem read_of_not_isEnd (h : Ended s.toList) (ht : s.current.isEnd = false) :
    s.toList = s.current :: s.advance.toList ∧ Ended s.advance.toList := by
  obtain ⟨t, _ | ⟨u, rest⟩⟩ := s
  · have hend : t.isEnd = true := h
    exact absurd (hend.symm.trans ht) (by simp)
  · exact ⟨rfl, h⟩

/-- Reading a token of a kind other than that of the mark. -/
theorem read_of_kind (h : Ended s.toList) {kind : TokenKind} (hk : s.current.kind = kind)
    (hne : kind ≠ .endOfInput) :
    s.toList = s.current :: s.advance.toList ∧ Ended s.advance.toList :=
  read_of_not_isEnd h (by simpa [Token.isEnd, hk] using hne)

theorem isEnd_of_remaining_eq_zero (h : Ended s.toList) (h0 : s.remaining = 0) :
    s.current.isEnd = true := by
  obtain ⟨t, _ | ⟨u, rest⟩⟩ := s
  · exact h
  · exact absurd h0 (by simp [remaining])

end TokenStream

end WeakestPre
