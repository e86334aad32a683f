import WeakestPre.Diagnostic
import WeakestPre.Text.Class

/-!
# Tokens

The lexemes of program text with the place of their first character, and one token that marks the
end of the text.
-/

namespace WeakestPre

inductive TokenKind where
  | number
  | identifier
  | operator
  | punctuation
  | endOfInput
  deriving DecidableEq, Repr

def TokenKind.name : TokenKind → String
  | .number => "NUMBER"
  | .identifier => "IDENTIFIER"
  | .operator => "OPERATOR"
  | .punctuation => "PUNCTUATION"
  | .endOfInput => "EOF"

structure Token where
  kind : TokenKind
  text : String
  location : Location
  deriving DecidableEq, Repr

namespace Token

def isPunctuation (t : Token) (s : String) : Bool := t.kind == .punctuation && t.text == s

def isOperator (t : Token) (s : String) : Bool := t.kind == .operator && t.text == s

def isWord (t : Token) (s : String) : Bool := t.kind == .identifier && t.text == s

def isEnd (t : Token) : Bool := t.kind == .endOfInput

/-- How messages name a token. -/
def describe (t : Token) : String := if t.isEnd then "end of input" else "'" ++ t.text ++ "'"

/-- All of a token on one line. -/
def dump (t : Token) : String :=
  "Token(" ++ t.kind.name ++ ", " ++ Text.quoted t.text ++ ", " ++ t.location.text ++ ")"

end Token

/-- Words that name no variable. -/
def reservedWords : List String := ["if", "else", "abs"]

/-- Operators of two characters, which win over those of one. -/
def longOperators : List (List Char) :=
  [[':', '='], ['&', '&'], ['|', '|'], ['=', '='], ['!', '='], ['>', '='], ['<', '=']]

def shortOperators : List Char := ['+', '-', '*', '/', '!', '<', '>']

def punctuationMarks : List Char := ['(', ')', ';', '\x7b', '\x7d']

/-- The kind and the characters of the lexeme at the front, if one starts there. Numerals and words
go on as long as their characters do. -/
def lexeme? : List Char → Option (TokenKind × List Char)
  | [] => none
  | c :: rest =>
    if Text.isNumeralPart c then some (.number, c :: rest.takeWhile Text.isNumeralPart)
    else if Text.isWordStart c then some (.identifier, c :: rest.takeWhile Text.isWordPart)
    else if longOperators.contains ((c :: rest).take 2) then some (.operator, (c :: rest).take 2)
    else if shortOperators.contains c then some (.operator, [c])
    else if punctuationMarks.contains c then some (.punctuation, [c])
    else none

theorem lexeme?_ne_nil {cs : List Char} {kind : TokenKind} {text : List Char}
    (h : lexeme? cs = some (kind, text)) : text ≠ [] := by
  cases cs with
  | nil => simp [lexeme?] at h
  | cons c rest =>
    simp only [lexeme?, List.take_succ_cons] at h
    grind

end WeakestPre
