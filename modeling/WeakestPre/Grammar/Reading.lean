import WeakestPre.Grammar.Statement

/-!
# Reading texts

A text is cut into tokens as a whole before any rule looks at them, so a character that starts no
lexeme is reported before anything else. Then one rule must read all tokens. Rules may be nested up
to a limit, which is given with the text.
-/

namespace WeakestPre

/-- What reading a text came to: the number of its tokens if it could be cut into tokens, and the
tree or the error. -/
structure Reading (α : Type) where
  tokenCount? : Option Nat
  result : Except SyntaxError α

/-- Reads all of a text by one rule. -/
def readText {α : Type} (rule : Rule α) (source text : String) : Reading α :=
  if Text.isBlankText text then ⟨none, .error .blankInput⟩
  else
    match tokenize source text with
    | .error u => ⟨none, .error (.unknownCharacter u)⟩
    | .ok tokens =>
      let whole : Rule α := do
        let a ← rule
        Rule.expectEnd
        return a
      let result := match TokenStream.ofList? tokens with
        | none => .error .blankInput
        | some stream => (whole stream).toExcept
      ⟨some tokens.length, result⟩

def Expr.ofText (limit : Nat) (source text : String) : Reading Expr :=
  readText (Grammar.expression limit 0) source text

def Stmt.ofText (limit : Nat) (source text : String) : Reading Stmt :=
  readText (Grammar.statementList limit) source text

end WeakestPre
