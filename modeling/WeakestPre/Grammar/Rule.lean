import WeakestPre.Grammar.SyntaxError

/-!
# Grammar rules

A rule reads a stream of tokens from the front. It ends with a value and the tokens after it, or
with an error and the tokens at which it gave up. The last token of a stream marks the end of the
text and is never read past.
-/

namespace WeakestPre

/-- The tokens from the current one on. -/
structure TokenStream where
  current : Token
  upcoming : List Token
  deriving DecidableEq, Repr

namespace TokenStream

def toList (s : TokenStream) : List Token := s.current :: s.upcoming

/-- The stream behind the current token, which stays if it is the last one. -/
def advance (s : TokenStream) : TokenStream :=
  match s.upcoming with
  | [] => s
  | t :: rest => ⟨t, rest⟩

/-- How many tokens lie behind the current one. -/
def remaining (s : TokenStream) : Nat := s.upcoming.length

/-- The stream of a list of tokens; there must be one. -/
def ofList? : List Token → Option TokenStream
  | [] => none
  | t :: rest => some ⟨t, rest⟩

/-- The stream from the token with an index on; past the last token that token is read again. -/
def at? (tokens : List Token) (index : Nat) : Option TokenStream :=
  ofList? (tokens.drop (min index (tokens.length - 1)))

/-- The stream from the token that is `back` places before the end of the list; behind the last
token it starts over. -/
def fromEnd? (tokens : List Token) (back : Nat) : Option TokenStream :=
  if tokens.length < back then none
  else ofList? (tokens.drop (tokens.length - back) ++ tokens)

end TokenStream

/-- How a rule ends, and where. -/
inductive Outcome (α : Type) where
  | done (value : α) (rest : TokenStream)
  | failed (error : SyntaxError) (rest : TokenStream)

namespace Outcome

variable {α : Type}

def rest : Outcome α → TokenStream
  | .done _ s | .failed _ s => s

def toExcept : Outcome α → Except SyntaxError α
  | .done a _ => .ok a
  | .failed e _ => .error e

end Outcome

/-- A rule of the grammar. -/
def Rule (α : Type) := TokenStream → Outcome α

namespace Rule

variable {α β : Type}

def pure (a : α) : Rule α := fun s => .done a s

/-- One rule after another; the second may depend on the value of the first. -/
def bind (r : Rule α) (f : α → Rule β) : Rule β := fun s =>
  match r s with
  | .done a rest => f a rest
  | .failed e rest => .failed e rest

instance : Monad Rule where
  pure := Rule.pure
  bind := Rule.bind

def fail (e : SyntaxError) : Rule α := fun s => .failed e s

/-- The current token, left where it is. -/
def current : Rule Token := fun s => .done s.current s

/-- The current token, read. -/
def next : Rule Token := fun s => .done s.current s.advance

/-- Reads a punctuation mark that must stand here. -/
def expectMark (mark : String) (expected : Expectation) : Rule Unit := do
  let t ← current
  if t.isPunctuation mark then
    let _ ← next
  else fail (.unexpected expected t)

/-- Reads a punctuation mark if it stands here, and says whether it did. -/
def acceptMark (mark : String) : Rule Bool := do
  let t ← current
  if t.isPunctuation mark then
    let _ ← next
    return true
  else return false

/-- The text must end here. -/
def expectEnd : Rule Unit := do
  let t ← current
  if t.isEnd then return () else fail (.trailing t)

/-- Gives up because rules are nested too deeply. -/
def tooDeep : Rule α := do
  let t ← current
  fail (.tooDeep t)

end Rule

end WeakestPre
