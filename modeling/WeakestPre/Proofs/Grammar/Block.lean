import WeakestPre.Proofs.Grammar.Completion

/-!
# Lists of statements within a block

The inside of a block is derived by other rules than a list of statements: a block takes semicolons
that it does not need, and a list ends where it cannot go on. Still every list is the inside of a
block (`ListAt.items`), and it stands for the same statement there.

**Closed branches** (`Closed`). A list of a conditional that is exhausted in front of what may
follow a statement is so by the next token alone. The closing brace is such a token, as is the end
of the text. So a list that was derived at the end of a text is derived in front of a brace too
(`InputAt.before`), and a block in front of a list makes a longer list
(`InputAt.block_append`).
-/

namespace WeakestPre.Grammar

variable {ends : Bool → List Token → Prop} {s r : List Token}

/-! ## Closed branches -/

/-- A list that ends here cannot go on because of the next token: without a semicolon at its end
that token is none, and behind one it starts no statement. -/
def Closed (trailing : Bool) (r : List Token) : Prop :=
  ∀ t ∈ r.head?, if trailing then startsStatement t = false else t.isPunctuation ";" = false

theorem closed_of_endsList {t : Token} (h : EndsList t) (trailing : Bool) :
    Closed trailing (t :: r) := by
  intro u hu
  obtain rfl := Option.some.inj hu
  cases trailing with
  | false => exact h.semicolon
  | true => exact h.starts

theorem exhausted_of_closed {trailing : Bool} (h : Closed trailing r) : Exhausted trailing r := by
  cases trailing with
  | false => exact h
  | true =>
    intro t r' ht
    obtain ⟨tok, rest, rfl, hstarts⟩ := ht.starts
    exact absurd ((h tok rfl).symm.trans hstarts) (by simp)

theorem closed_of_exhausted {trailing : Bool} (hr : Follows r) (h : Exhausted trailing r) :
    Closed trailing r := by
  cases trailing with
  | false => exact h
  | true =>
    intro tok htok
    cases hstarts : startsStatement tok with
    | false => rfl
    | true =>
      obtain ⟨t, r', ht⟩ := hr.2.2 ⟨tok, htok, hstarts⟩
      exact absurd ht (h t r')

/-- Being closed depends on the next token, so it carries over to anything in front of which all
lists are closed. -/
theorem carries_closed {r' : List Token} (h : ∀ trailing, Closed trailing r') :
    Carries Closed r r' := by
  intro trailing v hclosed
  cases v with
  | nil => exact h trailing
  | cons t v => exact hclosed

mutual

/-- In front of what may follow a statement, exhausted branches are closed. -/
theorem StatementAt.closed : ∀ {s r : List Token} {t : Stmt}, StatementAt Exhausted s t r →
    Follows r → StatementAt Closed s t r
  | _, _, _, .assignment hx hname ha he, _ => .assignment hx hname ha he
  | _, _, _, .block ho hbody hne hc, _ => .block ho (hbody.closed ⟨_, _, hc, rfl⟩) hne hc
  | _, _, _, .conditional hi ho hb hc hthen hends hw helse hends', hr =>
    have helse_follows := follows_endsList (endsList_else hw)
    .conditional hi ho hb hc (hthen.closed helse_follows) (closed_of_exhausted helse_follows hends)
      hw (helse.closed hr) (closed_of_exhausted hr hends')

theorem ListAt.closed : ∀ {s r : List Token} {body : List Stmt} {trailing : Bool},
    ListAt Exhausted s body trailing r → Follows r → ListAt Closed s body trailing r
  | _, _, _, _, .mk ht hmore, hr => .mk (ht.closed (hmore.follows hr)) (hmore.closed hr)

theorem MoreAt.closed : ∀ {s r : List Token} {body : List Stmt} {trailing : Bool},
    MoreAt Exhausted s body trailing r → Follows r → MoreAt Closed s body trailing r
  | _, _, _, _, .stop, _ => .stop
  | _, _, _, _, .trailing hm, _ => .trailing hm
  | _, _, _, _, .more hm ht hmore, hr =>
    .more hm (ht.closed (hmore.follows hr)) (hmore.closed hr)

theorem ItemsAt.closed : ∀ {s r : List Token} {body : List Stmt}, ItemsAt Exhausted s body r →
    (∃ c rest, c.isPunctuation "\x7d" = true ∧ r = c :: rest) → ItemsAt Closed s body r
  | _, _, _, .nil, _ => .nil
  | _, _, _, .cons ht (.inl hm) hrest, hr => by
    have hclosed := hrest.closed hr
    obtain ⟨c, rest, hc, rfl⟩ := hr
    exact .cons (ht.closed (hm ▸ hrest.follows hc)) (.inl hm) hclosed
  | _, _, _, .cons ht (.inr hm) hrest, hr => by
    have hstatement := ht.closed
    have hclosed := hrest.closed hr
    obtain ⟨m, hm, rfl⟩ := hm
    exact .cons (hstatement (follows_punctuation hm (by decide))) (.inr ⟨m, hm, rfl⟩) hclosed

end

/-! ## Lists as blocks -/

/-- Behind a statement, the rest of a list is a semicolon or nothing and then the rest of a
block. -/
theorem MoreAt.items {body : List Stmt} {trailing : Bool} (h : MoreAt ends s body trailing r) :
    ∃ s', OptionalSemicolon s s' ∧ ItemsAt ends s' body r := by
  induction body generalizing s with
  | nil =>
    cases h with
    | stop => exact ⟨r, .inl rfl, .nil⟩
    | trailing hm => exact ⟨r, .inr ⟨_, hm, rfl⟩, .nil⟩
  | cons t body ih =>
    cases h with
    | more hm ht hmore =>
      obtain ⟨s', hs', hitems⟩ := ih hmore
      exact ⟨_, .inr ⟨_, hm, rfl⟩, .cons ht hs' hitems⟩

/-- **A list is the inside of a block.** -/
theorem ListAt.items {body : List Stmt} {trailing : Bool} (h : ListAt ends s body trailing r) :
    ItemsAt ends s body r := by
  cases h with
  | mk ht hmore =>
    obtain ⟨s', hs', hitems⟩ := hmore.items
    exact .cons ht hs' hitems

theorem ListAt.body_ne_nil {body : List Stmt} {trailing : Bool}
    (h : ListAt ends s body trailing r) : body ≠ [] := by
  cases h
  exact List.cons_ne_nil _ _

/-- **A list within braces stands for the same statement.** -/
theorem ListAt.block {o c : Token} {body : List Stmt} {trailing : Bool}
    (ho : o.isPunctuation "\x7b" = true) (h : ListAt ends s body trailing (c :: r))
    (hc : c.isPunctuation "\x7d" = true) : StatementAt ends (o :: s) (.ofList body) r :=
  .block ho h.items h.body_ne_nil hc

theorem endsList_close {tok : Token} (h : tok.isPunctuation "\x7d" = true) : EndsList tok where
  kind := by simp [(Token.isPunctuation_iff.1 h).1]
  starts := startsStatement_of_punctuation h (by decide)
  semicolon := by simp [Token.isPunctuation, Token.isPunctuation_iff.1 h]

variable {w w' : List Token} {mark mark' : Token} {S T : Stmt}

/-- **What is derived up to the end of a text is derived in front of anything that ends a list.** -/
theorem InputAt.before (h : InputAt Exhausted (w ++ [mark]) S) : mark.isEnd = true ∧
    ∃ body trailing, S = .ofList body ∧ ∀ (tok : Token) (r : List Token), EndsList tok →
      ListAt Closed (w ++ tok :: r) body trailing (tok :: r) := by
  obtain ⟨body, trailing, mark', hlist, hmark, rfl⟩ := h
  obtain ⟨v, hv, -, hany⟩ := (hlist.closed (follows_endsList (endsList_of_isEnd hmark))).word
  obtain ⟨rfl, hlast⟩ := List.append_inj' hv rfl
  obtain rfl : mark = mark' := by simpa using hlast
  refine ⟨hmark, body, trailing, rfl, fun tok r htok => ?_⟩
  exact hany (tok :: r) (carries_closed (closed_of_endsList htok))

/-- **A block in front of a list makes a longer list**, whatever list is put within the braces. -/
theorem InputAt.block_append {o c m : Token} (hS : InputAt Exhausted (w ++ [mark]) S)
    (hT : InputAt Exhausted (w' ++ [mark']) T) (ho : o.isPunctuation "\x7b" = true)
    (hc : c.isPunctuation "\x7d" = true) (hm : m.isPunctuation ";" = true) :
    ∃ body, T = .ofList body ∧
      InputAt Exhausted (o :: (w ++ c :: m :: (w' ++ [mark']))) (.ofList (S :: body)) := by
  obtain ⟨-, inner, trailing, rfl, hinner⟩ := hS.before
  obtain ⟨hmark, body, trailing', rfl, hbody⟩ := hT.before
  have hblock := (hinner c (m :: (w' ++ [mark'])) (endsList_close hc)).block ho hc
  refine ⟨body, rfl, .ofList inner :: body, trailing', mark', ?_, hmark, rfl⟩
  have hlist : ListAt Closed (o :: (w ++ c :: m :: (w' ++ [mark']))) (.ofList inner :: body)
      trailing' [mark'] := by
    cases hbody mark' [] (endsList_of_isEnd hmark) with
    | mk ht hmore => exact .mk hblock (.more hm ht hmore)
  exact hlist.mono fun _ _ => exhausted_of_closed

end WeakestPre.Grammar
