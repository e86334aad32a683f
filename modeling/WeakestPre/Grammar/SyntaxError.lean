import WeakestPre.Token.Cursor

/-!
# Why a text is refused

A text is refused because it is blank, because a character starts no lexeme, or because of one
token. In the last case the error holds that token, which gives the diagnostic its place and the
description of what was found.
-/

namespace WeakestPre

/-- What may stand at a place where something else was found. -/
inductive Expectation where
  | expression
  | openAfterAbs
  | closeAbs
  | closeGroup
  | openAfterIf
  | closeCondition
  | openBlock
  | closeBlock
  | variableName
  | assignment
  deriving DecidableEq, Repr

def Expectation.text : Expectation → String
  | .expression => "expression"
  | .openAfterAbs => "'(' after 'abs'"
  | .closeAbs => "')' to close 'abs('"
  | .closeGroup => "')'"
  | .openAfterIf => "'(' after 'if'"
  | .closeCondition => "')' after if condition"
  | .openBlock => "'\x7b'"
  | .closeBlock => "'\x7d'"
  | .variableName => "variable name"
  | .assignment => "':='"

inductive SyntaxError where
  | blankInput
  | unknownCharacter (character : UnknownCharacter)
  /-- Something else is expected where the token stands. -/
  | unexpected (expected : Expectation) (token : Token)
  /-- A conditional without its second branch. -/
  | missingElse (token : Token)
  /-- A token after a complete text. -/
  | trailing (token : Token)
  /-- A block without statements, by its closing brace. -/
  | emptyBlock (token : Token)
  /-- A run of digits and points that writes no number. -/
  | badNumber (token : Token)
  /-- The rules are nested deeper than the reader goes. -/
  | tooDeep (token : Token)
  deriving DecidableEq, Repr

namespace SyntaxError

/-- The token that an error is about. -/
def token? : SyntaxError → Option Token
  | .blankInput | .unknownCharacter _ => none
  | .unexpected _ t | .missingElse t | .trailing t | .emptyBlock t | .badNumber t | .tooDeep t =>
    some t

def kind : SyntaxError → ErrorKind
  | .blankInput => .emptyInput
  | .unknownCharacter _ => .unknownCharacter
  | .unexpected _ t => if t.isEnd then .unexpectedEndOfInput else .unexpectedToken
  | .missingElse _ => .missingElse
  | .trailing _ => .trailingTokens
  | .emptyBlock _ => .emptySequence
  | .badNumber _ => .invalidNumber
  | .tooDeep _ => .nestingTooDeep

def location? : SyntaxError → Option Location
  | .unknownCharacter u => some u.location
  | e => e.token?.map (·.location)

def expected : SyntaxError → String
  | .blankInput => "input"
  | .unknownCharacter _ => "operator, punctuation, number or identifier"
  | .unexpected e _ => e.text
  | .missingElse _ => "'else'"
  | .trailing _ => "end of input"
  | .emptyBlock _ => "statement"
  | .badNumber _ => "numeric literal"
  | .tooDeep _ => "shallower nesting"

def found : SyntaxError → String
  | .blankInput => "empty string"
  | .unknownCharacter u => Text.quoted (String.singleton u.char)
  | .unexpected _ t | .missingElse t | .trailing t | .emptyBlock t | .badNumber t | .tooDeep t =>
    t.describe

/-- The message, where it says more than what was expected and what was found. -/
def message? : SyntaxError → Option String
  | .blankInput => some "Input must not be empty"
  | .unknownCharacter u => some ("Unknown character '" ++ String.singleton u.char ++ "'")
  | .unexpected _ _ => none
  | .missingElse t => some ("Expected 'else' after then-branch, got " ++ t.describe)
  | .trailing t => some ("Unexpected " ++ t.describe ++ " after complete input")
  | .emptyBlock _ => some "A block must contain at least one statement"
  | .badNumber t => some ("Invalid number format: " ++ t.text)
  | .tooDeep t => some ("Input is nested too deeply to parse (at " ++ t.describe ++ ")")

def diagnostic (e : SyntaxError) : Diagnostic :=
  .mismatch e.kind e.expected e.found e.location? e.message?

/-- The diagnostic on one line. -/
def text (e : SyntaxError) : String := Text.nearest e.diagnostic.text

end SyntaxError

end WeakestPre
