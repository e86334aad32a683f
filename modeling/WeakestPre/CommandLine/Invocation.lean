import WeakestPre.CommandLine.Arguments
import WeakestPre.Settings

/-!
# What a command line asks for

The events of a command line are gone through in order. A request for help or for the version ends
the matter at once; so does a misuse. Of an option given more than once the last value counts, or
that it has none. An output format without value leaves the choice to the settings.
-/

namespace WeakestPre.CommandLine

inductive MainOption where
  | help
  | version

inductive WpOption where
  | help
  | post
  | file
  | format
  | noSteps
  | config
  | verbose

inductive ParseOption where
  | help
  | expression

def mainOptions : List (OptionSpec MainOption) :=
  [{ key := .help, names := ["-h", "--help"] }, { key := .version, names := ["--version"] }]

def wpOptions : List (OptionSpec WpOption) :=
  [{ key := .help, names := ["-h", "--help"] },
    { key := .post, names := ["--post"], takesValue := true },
    { key := .file, names := ["--file"] },
    { key := .format, names := ["--format"], takesValue := true },
    { key := .noSteps, names := ["--no-steps"] },
    { key := .config, names := ["--config"], takesValue := true },
    { key := .verbose, names := ["-v", "--verbose"] }]

def parseOptions : List (OptionSpec ParseOption) :=
  [{ key := .help, names := ["-h", "--help"] }, { key := .expression, names := ["--expression"] }]

/-- Where the settings come from. -/
inductive SettingsSource where
  /-- The nearest settings file. -/
  | nearest
  | file (path : String)
  /-- A file is asked for, but none is named. -/
  | unnamed
  deriving DecidableEq, Repr

/-- A request to derive a precondition. -/
structure WpRequest where
  program : String
  /-- The postcondition, unless its option has no value. -/
  post? : Option String
  /-- The program is the path of a file. -/
  file : Bool := false
  format? : Option OutputFormat := none
  noSteps : Bool := false
  settings : SettingsSource := .nearest
  verbose : Bool := false

/-- A request to read a text and write it again. -/
structure ParseRequest where
  text : String
  expression : Bool := false

inductive Page where
  | main
  | wp
  | parse

inductive Invocation where
  | noCommand
  | help (page : Page)
  | version
  | misuse
  | wp (request : WpRequest)
  | parse (request : ParseRequest)

/-! ## The commands -/

/-- A request under construction. -/
structure WpDraft where
  program? : Option String := none
  /-- Whether the option for the postcondition was given, and its value. -/
  post? : Option (Option String) := none
  file : Bool := false
  format? : Option OutputFormat := none
  noSteps : Bool := false
  settings : SettingsSource := .nearest
  verbose : Bool := false
  /-- Something was given that has no meaning. -/
  unknown : Bool := false

/-- A draft as a request, if all that is needed was given, and nothing else. -/
def WpDraft.finish (d : WpDraft) : Invocation :=
  match d.program?, d.post?, d.unknown with
  | some program, some post?, false =>
    .wp { program, post?, file := d.file, format? := d.format?, noSteps := d.noSteps,
          settings := d.settings, verbose := d.verbose }
  | _, _, _ => .misuse

def readWp (d : WpDraft) : List (Event WpOption) → Invocation
  | [] => d.finish
  | .misuse :: _ => .misuse
  | .command .. :: rest => readWp { d with unknown := true } rest
  | .unknown :: rest => readWp { d with unknown := true } rest
  | .operand s :: rest => readWp { d with program? := some s } rest
  | .option key value? :: rest =>
    match key with
    | .help => .help .wp
    | .post => readWp { d with post? := some value? } rest
    | .file => readWp { d with file := true } rest
    | .format =>
      match value?.map OutputFormat.ofName? with
      | none => readWp { d with format? := none } rest
      | some (some f) => readWp { d with format? := some f } rest
      | some none => .misuse
    | .noSteps => readWp { d with noSteps := true } rest
    | .config => readWp { d with settings := (value?.map .file).getD .unnamed } rest
    | .verbose => readWp { d with verbose := true } rest

structure ParseDraft where
  text? : Option String := none
  expression : Bool := false
  unknown : Bool := false

def readParse (d : ParseDraft) : List (Event ParseOption) → Invocation
  | [] =>
    match d.text?, d.unknown with
    | some text, false => .parse { text, expression := d.expression }
    | _, _ => .misuse
  | .misuse :: _ => .misuse
  | .command .. :: rest => readParse { d with unknown := true } rest
  | .unknown :: rest => readParse { d with unknown := true } rest
  | .operand s :: rest => readParse { d with text? := some s } rest
  | .option .help _ :: _ => .help .parse
  | .option .expression _ :: rest => readParse { d with expression := true } rest

/-- A command with its arguments, where `unknown` tells whether something without meaning was
given before it. -/
def readCommand (unknown : Bool) (name : String) (args : List String) : Invocation :=
  match name with
  | "wp" => readWp { unknown } (readEvents wpOptions false args)
  | "parse" => readParse { unknown } (readEvents parseOptions false args)
  | _ => .misuse

def readMain (unknown : Bool) : List (Event MainOption) → Invocation
  | [] => if unknown then .misuse else .noCommand
  | .misuse :: _ => .misuse
  | .option .help _ :: _ => .help .main
  | .option .version _ :: _ => .version
  | .command name args :: _ => readCommand unknown name args
  | .unknown :: rest => readMain true rest
  | .operand _ :: rest => readMain true rest

/-- What a command line asks for. -/
def readInvocation (args : List String) : Invocation :=
  readMain false (readEvents mainOptions true args)

end WeakestPre.CommandLine
