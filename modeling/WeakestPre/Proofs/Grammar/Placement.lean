import WeakestPre.Proofs.Grammar.Lookahead
import WeakestPre.Proofs.Token.Joining

/-!
# Rules do not look at locations

A token carries its place only for the sake of errors. Forgetting the places of all tokens before a
rule reads them is the same as forgetting them in what the rule ends with (`Rule.Blind`). The
combinators keep this, so all rules have it (`expression_blind`, `statement_blind`).

**Theorem** (`readText_congr`). Two texts with the same lexemes are read alike, whatever stands
between the lexemes: as the same tree, or with the same error up to its place.
-/

namespace WeakestPre

/-! ## Forgetting places -/

/-- The location of tokens whose place is forgotten. -/
def Location.nowhere : Location := ⟨0, 0, ""⟩

namespace Token

def unplaced (t : Token) : Token := { t with location := .nowhere }

/-- What is left of a token without its place is its lexeme. -/
theorem unplaced_inj {t t' : Token} : t.unplaced = t'.unplaced ↔ t.lexeme = t'.lexeme := by
  simp [unplaced, lexeme, String.toList_inj]

theorem map_unplaced_inj {l l' : List Token} :
    l.map unplaced = l'.map unplaced ↔ l.map lexeme = l'.map lexeme := by
  induction l generalizing l' with
  | nil => simp [eq_comm]
  | cons t l ih => cases l' <;> simp [unplaced_inj, ih]

end Token

def SyntaxError.unplaced : SyntaxError → SyntaxError
  | .blankInput => .blankInput
  | .unknownCharacter u => .unknownCharacter { u with location := .nowhere }
  | .unexpected x t => .unexpected x t.unplaced
  | .missingElse t => .missingElse t.unplaced
  | .trailing t => .trailing t.unplaced
  | .emptyBlock t => .emptyBlock t.unplaced
  | .badNumber t => .badNumber t.unplaced
  | .tooDeep t => .tooDeep t.unplaced

def TokenStream.unplaced (s : TokenStream) : TokenStream :=
  ⟨s.current.unplaced, s.upcoming.map Token.unplaced⟩

namespace TokenStream

variable {s : TokenStream}

theorem remaining_unplaced : s.unplaced.remaining = s.remaining := List.length_map _

theorem advance_unplaced : s.unplaced.advance = s.advance.unplaced := by
  obtain ⟨t, _ | ⟨u, rest⟩⟩ := s
  · rfl
  · rfl

end TokenStream

variable {α β : Type}

def Outcome.unplaced : Outcome α → Outcome α
  | .done a s => .done a s.unplaced
  | .failed e s => .failed e.unplaced s.unplaced

/-! ## Blind rules -/

namespace Rule

open TokenStream

/-- The rule does not look at places. -/
def Blind (r : Rule α) : Prop := ∀ s, r s.unplaced = (r s).unplaced

/-- The same of a rule that was given a token. -/
def BlindTo (f : Token → Rule α) : Prop := ∀ t s, f t.unplaced s.unplaced = (f t s).unplaced

namespace Blind

theorem pure (a : α) : Blind (Pure.pure a : Rule α) := fun _ => rfl

theorem bind {r : Rule α} {f : α → Rule β} (hr : Blind r) (hf : ∀ a, Blind (f a)) :
    Blind (r >>= f) := by
  intro s
  show Rule.bind r f s.unplaced = (Rule.bind r f s).unplaced
  rw [Rule.bind, Rule.bind, hr s]
  cases r s with
  | done a s' => exact hf a s'
  | failed e s' => rfl

theorem current_bind {f : Token → Rule α} (hf : BlindTo f) : Blind (current >>= f) :=
  fun s => hf s.current s

theorem next_bind {f : Token → Rule α} (hf : BlindTo f) : Blind (next >>= f) := by
  intro s
  rw [Rule.next_bind, Rule.next_bind, advance_unplaced]
  exact hf s.current s.advance

/-- Reading a token without looking at it. -/
theorem skip {r : Rule α} (hr : Blind r) : Blind (next >>= fun _ => r) :=
  next_bind fun _ s => hr s

theorem ite {c : Prop} [Decidable c] {r r' : Rule α} (hr : Blind r) (hr' : Blind r') :
    Blind (if c then r else r') := by
  by_cases hc : c
  · rw [if_pos hc]
    exact hr
  · rw [if_neg hc]
    exact hr'

/-- A rule that depends on how many tokens are left. -/
theorem remaining {f : Nat → Rule α} (hf : ∀ n, Blind (f n)) : Blind fun s => f s.remaining s := by
  intro s
  show f s.unplaced.remaining s.unplaced = _
  rw [remaining_unplaced]
  exact hf _ s

end Blind

namespace BlindTo

theorem const {r : Rule α} (hr : Blind r) : BlindTo fun _ => r := fun _ s => hr s

theorem fail {e : Token → SyntaxError} (he : ∀ t, e t.unplaced = (e t).unplaced) :
    BlindTo fun t => (Rule.fail (e t) : Rule α) := by
  intro t s
  show Outcome.failed (e t.unplaced) s.unplaced = _
  rw [he]
  rfl

/-- A choice that depends on the token but not on its place. -/
theorem ite {c : Token → Prop} [∀ t, Decidable (c t)] {f g : Token → Rule α}
    (hc : ∀ t, c t.unplaced ↔ c t) (hf : BlindTo f) (hg : BlindTo g) :
    BlindTo fun t => if c t then f t else g t := by
  intro t s
  show (if c t.unplaced then f t.unplaced else g t.unplaced) s.unplaced =
    ((if c t then f t else g t) s).unplaced
  by_cases h : c t
  · rw [if_pos h, if_pos ((hc t).2 h)]
    exact hf t s
  · rw [if_neg h, if_neg (mt (hc t).1 h)]
    exact hg t s

end BlindTo

theorem Blind.expectMark (mark : String) (x : Expectation) : Blind (expectMark mark x) :=
  .current_bind (.ite (fun _ => Iff.rfl) (.const (.skip (.pure _))) (.fail fun _ => rfl))

theorem Blind.acceptMark (mark : String) : Blind (acceptMark mark) :=
  .current_bind (.ite (fun _ => Iff.rfl) (.const (.skip (.pure _))) (.const (.pure _)))

theorem Blind.tooDeep : Blind (tooDeep : Rule α) := .current_bind (.fail fun _ => rfl)

end Rule

/-! ## All rules are blind -/

namespace Grammar

open Rule

theorem number_blind : Blind number := by
  refine .next_bind fun t s => ?_
  have htext : t.unplaced.text = t.text := rfl
  simp only [htext]
  cases Binary64.ofNumeral? t.text with
  | some v => rfl
  | none => rfl

theorem climb_blind {operand : Int → Rule Expr} (h : ∀ k, Blind (operand k)) (least : Int) :
    ∀ (fuel : Nat) (left : Expr), Blind (climb operand least fuel left)
  | 0, left => .pure left
  | fuel + 1, left => by
    refine .current_bind fun t s => ?_
    have hop : binaryOp? t.unplaced = binaryOp? t := rfl
    simp only [hop]
    cases binaryOp? t with
    | none => rfl
    | some op =>
      exact Blind.ite (.pure left)
        (.skip ((h _).bind fun right => climb_blind h least fuel (.binary op left right))) s

/-- **The rules for expressions do not look at places.** -/
theorem expression_blind (d : Nat) :
    Blind (primary d) ∧ ∀ least, Blind (expression d least) := by
  induction d with
  | zero => exact ⟨.tooDeep, fun _ => .tooDeep⟩
  | succ d ih =>
    obtain ⟨hprimary, hexpression⟩ := ih
    have hclosing : ∀ (x : Expectation) (f : Expr → Expr),
        Blind (do let e ← expression d 0; expectMark ")" x; return f e) :=
      fun x f => (hexpression 0).bind fun e => (Blind.expectMark ")" x).bind fun _ => .pure _
    refine ⟨?_, fun least => ?_⟩
    · rw [primary]
      refine .current_bind (.ite (fun _ => Iff.rfl) (.const number_blind) ?_)
      refine .ite (fun _ => Iff.rfl) (.const (.skip ?_)) ?_
      · exact (Blind.expectMark "(" _).bind fun _ => hclosing _ _
      refine .ite (fun _ => Iff.rfl) ?_ ?_
      · refine .ite (fun _ => Iff.rfl) (.fail fun _ => rfl) fun t => ?_
        exact Blind.skip (.pure (Expr.var t.text))
      refine .ite (fun _ => Iff.rfl) (.const (.skip ?_)) ?_
      · exact hprimary.bind fun _ => .pure _
      refine .ite (fun _ => Iff.rfl) (.const (.skip ?_)) ?_
      · exact hprimary.bind fun _ => .pure _
      exact .ite (fun _ => Iff.rfl) (.const (.skip (hclosing _ id))) (.fail fun _ => rfl)
    · rw [expression]
      exact hprimary.bind fun left => .remaining fun n => climb_blind hexpression least n left

theorem assignment_blind (d : Nat) : Blind (assignment d) := by
  -- Only the text of the target is used again, which is the same without its place.
  refine .current_bind (.ite (fun _ => Iff.rfl) (fun target => ?_) (.fail fun _ => rfl))
  refine Blind.skip (.current_bind (.ite (fun _ => Iff.rfl) (.const ?_) (.fail fun _ => rfl)))
  exact .skip (((expression_blind d).2 0).bind fun value => .pure (Stmt.assign target.text value))

section

variable {inner : Rule Stmt} (hinner : Blind inner)

include hinner

theorem moreStatements_blind : ∀ fuel : Nat, Blind (moreStatements inner fuel)
  | 0 => .pure []
  | fuel + 1 => by
    refine (Blind.acceptMark ";").bind fun accepted => .ite ?_ (.pure [])
    refine .current_bind (.ite (fun _ => Iff.rfl) (.const ?_) (.const (.pure [])))
    exact hinner.bind fun s => (moreStatements_blind fuel).bind fun rest => .pure (s :: rest)

theorem blockStatements_blind : ∀ fuel : Nat, Blind (blockStatements inner fuel)
  | 0 => .pure []
  | fuel + 1 => by
    refine .current_bind (.ite (fun _ => Iff.rfl) (.const (.pure [])) ?_)
    refine .ite (fun _ => Iff.rfl) (.fail fun _ => rfl) (.const ?_)
    refine hinner.bind fun s => (Blind.acceptMark ";").bind fun _ => ?_
    exact (blockStatements_blind fuel).bind fun rest => .pure (s :: rest)

theorem block_blind : Blind (block inner) := by
  have hbody : Blind fun s => blockStatements inner (s.remaining + 1) s :=
    .remaining fun n => blockStatements_blind hinner (n + 1)
  refine (Blind.expectMark _ _).bind fun _ => hbody.bind fun body => ?_
  exact .next_bind (.ite (fun _ => Iff.rfl) (.fail fun _ => rfl) (.const (.pure _)))

end

theorem conditional_blind {guard : Rule Expr} {list : Rule Stmt} (hguard : Blind guard)
    (hlist : Blind list) : Blind (conditional guard list) := by
  refine .skip ((Blind.expectMark "(" _).bind fun _ => hguard.bind fun b => ?_)
  refine (Blind.expectMark ")" _).bind fun _ => hlist.bind fun s => ?_
  refine .current_bind (.ite (fun _ => Iff.rfl) (.const ?_) (.fail fun _ => rfl))
  exact .skip (hlist.bind fun t => .pure (Stmt.cond b s t))

/-- **The rules for statements do not look at places.** -/
theorem statement_blind (d : Nat) : Blind (statement d) ∧ Blind (statementList d) := by
  induction d with
  | zero => exact ⟨.tooDeep, .tooDeep⟩
  | succ d ih =>
    obtain ⟨hstatement, hlist⟩ := ih
    refine ⟨?_, ?_⟩
    · rw [statement]
      refine .current_bind (.ite (fun _ => Iff.rfl) (.const (block_blind hstatement)) ?_)
      refine .ite (fun _ => Iff.rfl) (.const ?_) (.const (assignment_blind d))
      exact conditional_blind ((expression_blind d).2 0) hlist
    · rw [statementList]
      refine hstatement.bind fun s => Blind.bind (.remaining (moreStatements_blind hstatement)) ?_
      exact fun rest => .pure (Stmt.ofList (s :: rest))

end Grammar

/-! ## Reading texts with the same lexemes -/

variable {source source' text text' : String} {tokens tokens' : List Token}

/-- A text is blank iff its only token marks its end. -/
theorem isBlankText_iff (h : tokenize source text = .ok tokens) :
    Text.isBlankText text = true ↔ tokens.length = 1 := by
  refine ⟨length_of_isBlankText h, fun hlength => ?_⟩
  obtain ⟨lexemes, mark, rfl, -, hlayout⟩ := exists_layout_of_tokenize h
  obtain rfl : lexemes = [] := by simpa using hlength
  generalize hchars : text.toList = chars at hlayout
  cases hlayout with
  | blanks hw => exact List.all_eq_true.2 (hchars ▸ hw)

/-- What a rule that must read all tokens comes to. -/
def Outcome.whole : Outcome α → Except SyntaxError α
  | .done a r => if r.current.isEnd then .ok a else .error (.trailing r.current)
  | .failed e _ => .error e

theorem Outcome.whole_unplaced (o : Outcome α) :
    o.unplaced.whole = o.whole.mapError SyntaxError.unplaced := by
  cases o with
  | failed e r => rfl
  | done a r =>
    show (if r.current.isEnd then _ else _) = _
    rw [whole]
    cases r.current.isEnd <;> rfl

theorem TokenStream.unplaced_eq {s s' : TokenStream}
    (h : s.toList.map Token.lexeme = s'.toList.map Token.lexeme) : s.unplaced = s'.unplaced :=
  ext_toList (Token.map_unplaced_inj.2 h)

/-- What a blind rule reads, it reads from any tokens with the same lexemes. -/
theorem Rule.Blind.exists_done {rule : Rule α} (hrule : rule.Blind) {s s' r : TokenStream} {a : α}
    (hlexemes : s.toList.map Token.lexeme = s'.toList.map Token.lexeme) (h : rule s = .done a r) :
    ∃ r', rule s' = .done a r' ∧ r'.unplaced = r.unplaced := by
  have heq : (rule s).unplaced = (rule s').unplaced := by
    rw [← hrule s, ← hrule s', TokenStream.unplaced_eq hlexemes]
  rw [h] at heq
  cases hrule' : rule s' with
  | failed e r' => simp [hrule', Outcome.unplaced] at heq
  | done a' r' =>
    obtain ⟨rfl, hr⟩ : a = a' ∧ r.unplaced = r'.unplaced := by
      simpa [hrule', Outcome.unplaced] using heq
    exact ⟨r', rfl, hr.symm⟩

/-- **Texts with the same lexemes are read alike.** -/
theorem readText_congr {rule : Rule α} (hrule : rule.Blind) (h : tokenize source text = .ok tokens)
    (h' : tokenize source' text' = .ok tokens')
    (hlexemes : tokens.map Token.lexeme = tokens'.map Token.lexeme) :
    (readText rule source text).result.mapError SyntaxError.unplaced =
      (readText rule source' text').result.mapError SyntaxError.unplaced := by
  have hblank : Text.isBlankText text = Text.isBlankText text' := by
    rw [Bool.eq_iff_iff, isBlankText_iff h, isBlankText_iff h', ← List.length_map Token.lexeme,
      hlexemes, List.length_map]
  cases htext : Text.isBlankText text with
  | true =>
    rw [readText, readText, if_pos htext, if_pos (hblank ▸ htext)]
  | false =>
    obtain ⟨s, rfl, hresult⟩ := readText_result rule h htext
    obtain ⟨s', rfl, hresult'⟩ := readText_result rule h' (hblank ▸ htext)
    calc (readText rule source text).result.mapError SyntaxError.unplaced
        = (rule s).whole.mapError SyntaxError.unplaced := by rw [hresult]; rfl
      _ = (rule s.unplaced).whole := by rw [hrule s, Outcome.whole_unplaced]
      _ = (rule s'.unplaced).whole := by rw [TokenStream.unplaced_eq hlexemes]
      _ = (rule s').whole.mapError SyntaxError.unplaced := by rw [hrule s', Outcome.whole_unplaced]
      _ = (readText rule source' text').result.mapError SyntaxError.unplaced := by
        rw [hresult']; rfl

/-- Texts with the same lexemes are read as the same tree, whatever their sources are called. -/
theorem readText_eq_ok_of_lexemes {rule : Rule α} (hrule : rule.Blind) {a : α}
    (h : tokenize source text = .ok tokens) (h' : tokenize source' text' = .ok tokens')
    (hlexemes : tokens.map Token.lexeme = tokens'.map Token.lexeme)
    (hresult : (readText rule source text).result = .ok a) :
    (readText rule source' text').result = .ok a := by
  have hcongr := readText_congr hrule h h' hlexemes
  rw [hresult] at hcongr
  cases hresult' : (readText rule source' text').result with
  | error e =>
    rw [hresult'] at hcongr
    cases hcongr
  | ok b =>
    rw [hresult'] at hcongr
    cases hcongr
    rfl

end WeakestPre
