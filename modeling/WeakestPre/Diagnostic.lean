import WeakestPre.Document.Json

/-!
# Diagnostics

Every refusal of the calculator is a diagnostic: a kind, a message, a place in a text where there
is one, and named details. As a document it lists these fields in this order and leaves out what is
missing.
-/

namespace WeakestPre

inductive ErrorKind where
  | invalidOperator
  | missingOperand
  | missingComponent
  | emptySequence
  | nullElement
  | emptyName
  | unexpectedToken
  | unexpectedEndOfInput
  | unknownCharacter
  | missingElse
  | trailingTokens
  | emptyInput
  | invalidNumber
  | nestingTooDeep
  | emptyDescription
  | configError
  deriving DecidableEq, Repr

namespace ErrorKind

def code : ErrorKind → String
  | .invalidOperator => "invalid_operator"
  | .missingOperand => "missing_operand"
  | .missingComponent => "missing_component"
  | .emptySequence => "empty_sequence"
  | .nullElement => "null_element"
  | .emptyName => "empty_name"
  | .unexpectedToken => "unexpected_token"
  | .unexpectedEndOfInput => "unexpected_end_of_input"
  | .unknownCharacter => "unknown_character"
  | .missingElse => "missing_else"
  | .trailingTokens => "trailing_tokens"
  | .emptyInput => "empty_input"
  | .invalidNumber => "invalid_number"
  | .nestingTooDeep => "nesting_too_deep"
  | .emptyDescription => "empty_description"
  | .configError => "config_error"

def all : List ErrorKind :=
  [.invalidOperator, .missingOperand, .missingComponent, .emptySequence, .nullElement, .emptyName,
    .unexpectedToken, .unexpectedEndOfInput, .unknownCharacter, .missingElse, .trailingTokens,
    .emptyInput, .invalidNumber, .nestingTooDeep, .emptyDescription, .configError]

def ofCode? (s : String) : Option ErrorKind := all.find? (·.code == s)

/-- What is said of a code that names no kind. -/
def unknownCodeMessage (code : Document) : String := code.literal ++ " is not a valid ErrorKind"

end ErrorKind

/-- A place in a named text. Lines and columns of texts count from one, columns in code points; a
diagnostic may tell of any other place. -/
structure Location where
  line : Int
  column : Int
  source : String := "<input>"
  deriving DecidableEq, Repr

namespace Location

def text (l : Location) : String :=
  l.source ++ ":" ++ toString l.line ++ ":" ++ toString l.column

def toDocument (l : Location) : Document :=
  .record [("source", .text l.source), ("line", .int l.line), ("column", .int l.column)]

end Location

structure Diagnostic where
  kind : ErrorKind
  message : Text.Wide
  location : Option Location := none
  details : List (String × Document) := []
  deriving Repr

namespace Diagnostic

/-- A text does not go on as it must. Without a message of its own the diagnostic says what was
expected and what was found. -/
def mismatch (kind : ErrorKind) (expected found : String) (location : Option Location := none)
    (message : Option String := none) : Diagnostic :=
  { kind
    message := Text.wide (message.getD ("Expected " ++ expected ++ ", got " ++ found))
    location
    details := [("expected", .text expected), ("found", .text found)] }

def toDocument (d : Diagnostic) : Document :=
  .record ([("kind", .text d.kind.code), ("message", .ofWide d.message)] ++
    (d.location.map fun l => ("location", l.toDocument)).toList ++
    if d.details.isEmpty then [] else [("details", .record d.details)])

def toJson (d : Diagnostic) (indent : Option Nat := some 2) : String :=
  Json.write indent d.toDocument

/-- What stands in front of the message on one line. -/
def heading (d : Diagnostic) : String :=
  let place := match d.location with
    | some l => " at " ++ l.text
    | none => ""
  "[" ++ d.kind.code ++ "]" ++ place ++ ": "

def text (d : Diagnostic) : Text.Wide := Text.wide d.heading ++ d.message

end Diagnostic

end WeakestPre
