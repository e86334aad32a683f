import WeakestPre.Text.Class

/-!
# Reading arguments

An argument that starts with `-` is a flag, unless it is a lone `-`, looks like a negative number,
or holds a space and names no option. Everything behind the separator `--` is an operand.

**Names.** A long option may be shortened as long as one option remains that starts that way. The
value of an option is the next operand or stands behind `=`; a separator behind `=` is no value, and
the option then counts as given without one. Short options without value may be written together; a
`=` behind the first of them is passed over.

**Events.** Reading turns the arguments into a list of events, in the order in which they take
effect. What an option does is up to the command; a misuse ends the list.
-/

namespace WeakestPre.CommandLine

variable {κ : Type}

/-- An option of a command. -/
structure OptionSpec (κ : Type) where
  key : κ
  names : List String
  takesValue : Bool := false

/-- A flag: an option under one of its names, or a name that no option has, and the text attached
to the name. -/
structure Flag (κ : Type) where
  spec? : Option (OptionSpec κ)
  name : String
  attached? : Option String

inductive Argument (κ : Type) where
  | operand (s : String)
  | separator
  | flag (raw : String) (f : Flag κ)

/-- The argument as it was given. -/
def Argument.raw : Argument κ → String
  | .operand s => s
  | .separator => "--"
  | .flag raw _ => raw

/-! ## Telling flags from operands -/

/-- Every option under each of its names. -/
def namedOptions (specs : List (OptionSpec κ)) : List (String × OptionSpec κ) :=
  specs.flatMap fun spec => spec.names.map fun name => (name, spec)

/-- The text before the first `=` and the text behind it, if there is one. -/
def splitEquals (s : String) : String × Option String :=
  match s.toList.dropWhile (· != '=') with
  | [] => (s, none)
  | _ :: rest => (String.ofList (s.toList.takeWhile (· != '=')), some (String.ofList rest))

def startsWith (s start : String) : Bool := start.toList.isPrefixOf s.toList

/-- The options that a flag with two dashes may shorten. -/
def longMatches (specs : List (OptionSpec κ)) (s : String) : List (Flag κ) :=
  let (start, value?) := splitEquals s
  (namedOptions specs).filterMap fun (name, spec) =>
    if startsWith name start then some ⟨some spec, name, value?⟩ else none

/-- The options that a flag with one dash may mean: its first letter with the rest attached, or a
longer name that starts with it. -/
def shortMatches (specs : List (OptionSpec κ)) (s : String) : List (Flag κ) :=
  let letter := String.ofList (s.toList.take 2)
  (namedOptions specs).filterMap fun (name, spec) =>
    if name == letter then
      some ⟨some spec, name, some (String.ofList (s.toList.drop 2))⟩
    else if startsWith name s then some ⟨some spec, name, none⟩
    else none

def isDecimalDigit (c : Char) : Bool := (Text.decimalValue? c).isSome

/-- Digits with at most one point, and digits behind it. -/
def isUnsignedNumber (cs : List Char) : Bool :=
  let rest := cs.dropWhile isDecimalDigit
  match rest with
  | [] => !cs.isEmpty
  | '.' :: fraction => !fraction.isEmpty && fraction.all isDecimalDigit
  | _ => false

/-- A dash and a number, with or without a line break at the end. -/
def isNegativeNumber (cs : List Char) : Bool :=
  match cs with
  | '-' :: rest =>
    isUnsignedNumber rest || (rest.getLast? == some '\n' && isUnsignedNumber rest.dropLast)
  | _ => false

/-- What an argument in front of the separator is; none if it may shorten several options. -/
def classify? (specs : List (OptionSpec κ)) (s : String) : Option (Argument κ) :=
  let named := namedOptions specs
  match s.toList with
  | '-' :: second :: _ =>
    match named.lookup s, splitEquals s with
    | some spec, _ => some (.flag s ⟨some spec, s, none⟩)
    | none, (start, value?) =>
      match named.lookup start, value? with
      | some spec, some value => some (.flag s ⟨some spec, start, some value⟩)
      | _, _ =>
        match if second == '-' then longMatches specs s else shortMatches specs s with
        | [f] => some (.flag s f)
        | _ :: _ :: _ => none
        | [] =>
          if isNegativeNumber s.toList || s.toList.contains ' ' then some (.operand s)
          else some (.flag s ⟨none, s, none⟩)
  | _ => some (.operand s)

/-- All arguments in their roles. -/
def classifyAll? (specs : List (OptionSpec κ)) : List String → Option (List (Argument κ))
  | [] => some []
  | s :: rest =>
    if s = "--" then some (.separator :: rest.map .operand)
    else do
      let a ← classify? specs s
      let more ← classifyAll? specs rest
      return a :: more

/-! ## Events -/

inductive Event (κ : Type) where
  /-- An option, with its value if it takes one and has one. -/
  | option (key : κ) (value? : Option String)
  | operand (s : String)
  /-- The name of a command, with all arguments behind it. -/
  | command (name : String) (rest : List String)
  /-- An argument that has no meaning here. -/
  | unknown
  /-- A flag that is used wrongly. -/
  | misuse

/-- The value that is attached to the name of an option. -/
def attachedValue? (attached : String) : Option String :=
  if attached = "--" then none else some attached

/-- The short options that are written together, from one without value on, with the characters
behind its letter. If one of these names no option, none of the options takes effect. -/
def cluster (specs : List (OptionSpec κ)) (spec : OptionSpec κ) :
    List Char → Option (List (Event κ) × Option (OptionSpec κ))
  | [] => some ([.option spec.key none], none)
  | c :: rest => do
    let spec' ← (namedOptions specs).lookup (String.ofList ['-', c])
    let (events, last?) ←
      if !spec'.takesValue then cluster specs spec' rest
      else if rest.isEmpty then some ([], some spec')
      else some ([.option spec'.key (attachedValue? (String.ofList rest))], none)
    return (.option spec.key none :: events, last?)

/-- What a flag does by itself, and an option at its end that still needs a value. -/
def flagEvents (specs : List (OptionSpec κ)) (f : Flag κ) :
    Option (List (Event κ) × Option (OptionSpec κ)) :=
  match f.spec?, f.attached? with
  | none, _ => some ([.unknown], none)
  | some spec, none =>
    if spec.takesValue then some ([], some spec) else some ([.option spec.key none], none)
  | some spec, some attached =>
    if spec.takesValue then some ([.option spec.key (attachedValue? attached)], none)
    else if startsWith f.name "--" || attached == "" then none
    else cluster specs spec attached.toList

/-- The events of arguments. If `commands`, the first operand is the name of a command, which takes
all that follows; otherwise it is the only operand of its command, and `taken` tells whether it has
come. -/
def events (specs : List (OptionSpec κ)) (commands : Bool) (taken : Bool) :
    List (Argument κ) → List (Event κ)
  | [] => []
  | .flag _ f :: rest =>
    match flagEvents specs f, rest with
    | none, _ => [.misuse]
    | some (es, none), rest => es ++ events specs commands taken rest
    | some (es, some spec), .operand value :: rest =>
      es ++ .option spec.key (some value) :: events specs commands taken rest
    | some (_, some _), _ => [.misuse]
  | .operand s :: rest =>
    if taken then .unknown :: events specs commands taken rest
    else if commands then [.command s (rest.map Argument.raw)]
    else match rest with
      | .separator :: rest => .operand s :: events specs commands true rest
      | rest => .operand s :: events specs commands true rest
  | .separator :: .operand s :: rest =>
    if taken then .unknown :: .unknown :: events specs commands taken rest
    else if commands then [.command "--" (s :: rest.map Argument.raw)]
    else .operand s :: events specs commands true rest
  | .separator :: rest => .unknown :: events specs commands taken rest

/-- The events of a command line. An argument that may shorten several options is a misuse of the
whole line. -/
def readEvents (specs : List (OptionSpec κ)) (commands : Bool) (args : List String) :
    List (Event κ) :=
  match classifyAll? specs args with
  | none => [.misuse]
  | some arguments => events specs commands false arguments

end WeakestPre.CommandLine
