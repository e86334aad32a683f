import WeakestPre.Diagnostic
import WeakestPre.Expr.Basic

/-!
# Why parts make no tree

Most refusals of parts are diagnostics. A value that cannot be turned into a number at all, and an
operator that cannot be looked up because it is a collection, are outside the vocabulary of
diagnostics and only have a message.
-/

namespace WeakestPre

/-- The place of an operand. -/
inductive OperandRole where
  | operand
  | left
  | right
  deriving DecidableEq, Repr

def OperandRole.text : OperandRole → String
  | .operand => "operand"
  | .left => "left"
  | .right => "right"

/-- The place of a part of a statement. -/
inductive ComponentRole where
  | variableName
  | assignedValue
  | condition
  | thenBranch
  | elseBranch
  | element (index : Nat)
  deriving DecidableEq, Repr

def ComponentRole.text : ComponentRole → String
  | .variableName => "variable name"
  | .assignedValue => "assigned value"
  | .condition => "condition"
  | .thenBranch => "then branch"
  | .elseBranch => "else branch"
  | .element index => "sequence element " ++ toString index

/-- What a part of a statement must be. -/
inductive ComponentKind where
  | name
  | expression
  | statement
  deriving DecidableEq, Repr

def ComponentKind.text : ComponentKind → String
  | .name => "str"
  | .expression => "Expression"
  | .statement => "Statement"

def ComponentRole.kind : ComponentRole → ComponentKind
  | .variableName => .name
  | .assignedValue | .condition => .expression
  | .thenBranch | .elseBranch | .element _ => .statement

inductive ConstructionError where
  | missingValue
  | badNumeral (text : String)
  | integerTooLarge
  | notNumeric (kind : String)
  | blankName
  | blankTarget
  | unknownUnary (op : Document)
  | unknownBinary (op : Document)
  | collectionOperator (kind : String)
  | missingOperand (op : String) (role : OperandRole)
  | wrongOperand (op : String) (role : OperandRole) (kind : String)
  | missingComponent (role : ComponentRole)
  | wrongComponent (role : ComponentRole) (kind : String)
  | missingStatements
  | emptySequence
  | missingElement (index : Nat)
  deriving Repr

namespace ConstructionError

def message : ConstructionError → String
  | .missingValue => "Constant requires a value"
  | .badNumeral s => "could not convert string to float: " ++ Text.quoted s
  | .integerTooLarge => "int too large to convert to float"
  | .notNumeric kind => "float() argument must be a string or a real number, not '" ++ kind ++ "'"
  | .blankName => "Variable name must not be empty"
  | .blankTarget => "Assigned variable name must not be empty"
  | .unknownUnary op => "Invalid unary operator: " ++ op.literal
  | .unknownBinary op => "Invalid binary operator: " ++ op.literal
  | .collectionOperator kind => "unhashable type: '" ++ kind ++ "'"
  | .missingOperand op role => "Operator '" ++ op ++ "' is missing its " ++ role.text ++ " operand"
  | .wrongOperand op role kind =>
    "Operator '" ++ op ++ "' expects an expression as " ++ role.text ++ " operand, got " ++ kind
  | .missingComponent role => "Missing " ++ role.text
  | .wrongComponent role kind =>
    "Expected " ++ role.kind.text ++ " as " ++ role.text ++ ", got " ++ kind
  | .missingStatements => "Missing statement list"
  | .emptySequence => "A sequence needs at least one statement"
  | .missingElement index => "Sequence element " ++ toString index ++ " is missing"

/-- The kind of the diagnostic, if there is one. -/
def kind? : ConstructionError → Option ErrorKind
  | .badNumeral _ | .integerTooLarge | .notNumeric _ | .collectionOperator _ => none
  | .missingValue | .missingOperand .. | .wrongOperand .. => some .missingOperand
  | .blankName | .blankTarget => some .emptyName
  | .unknownUnary _ | .unknownBinary _ => some .invalidOperator
  | .missingComponent _ | .wrongComponent .. | .missingStatements => some .missingComponent
  | .emptySequence => some .emptySequence
  | .missingElement _ => some .nullElement

/-- The operator in question and the ones that there are. -/
def operatorDetails (op : Document) (symbols : List String) : List (String × Document) :=
  [("operator", op), ("allowed", .list (symbols.map .text))]

def details : ConstructionError → List (String × Document)
  | .unknownUnary op => operatorDetails op (UnaryOp.all.map (·.symbol))
  | .unknownBinary op => operatorDetails op (BinaryOp.all.map (·.symbol))
  | .missingOperand op role | .wrongOperand op role _ =>
    [("operator", .text op), ("operand", .text role.text)]
  | .missingComponent role | .wrongComponent role _ => [("component", .text role.text)]
  | .missingStatements => [("component", .text "statements")]
  | .missingElement index => [("index", .int index)]
  | _ => []

def diagnostic? (e : ConstructionError) : Option Diagnostic :=
  e.kind?.map fun kind => { kind, message := e.message, details := e.details }

end ConstructionError

end WeakestPre
