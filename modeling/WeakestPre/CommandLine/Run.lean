import WeakestPre.CommandLine.Help
import WeakestPre.CommandLine.Invocation
import WeakestPre.Platform
import WeakestPre.Report

/-!
# Running a command line

A run takes the arguments and the files, and comes to an exit code and what is written to the two
output streams. It may also break off: settings errors without a diagnostic, a log level that names
something other than a level, options without the value that they need, and a stack that is used up
are not caught.

**Log.** The lines of the log are of the lowest level, so they show only if the level in force is
no higher.
-/

namespace WeakestPre.CommandLine

/-! ## Faults -/

/-- The line format of the log that is used by default. -/
def lineFormat : String := "%(levelname)s:%(name)s:%(message)s"

/-- The table of line styles, as it is shown. -/
def styleTable : String :=
  let style := fun (mark name format : String) =>
    Text.quoted mark ++ ": (<class 'logging." ++ name ++ "'>, " ++ Text.quoted format ++ ")"
  "\x7b" ++ ", ".intercalate [
    style "%" "PercentStyle" lineFormat,
    style "\x7b" "StrFormatStyle" "\x7blevelname\x7d:\x7bname\x7d:\x7bmessage\x7d",
    style "$" "StringTemplateStyle" "$\x7blevelname\x7d:$\x7bname\x7d:$\x7bmessage\x7d"] ++
  "\x7d"

/-- Why a run breaks off. -/
inductive Fault where
  | settings (f : SettingsFault)
  /-- The name of the level stands for a text. -/
  | textLevel (value : String)
  /-- The name of the level stands for a table of line styles. -/
  | tableLevel
  /-- A settings file is asked for, but none is named. -/
  | noPath
  /-- There is no postcondition to substitute in. -/
  | noPostcondition
  /-- A statement is nested more deeply than the stack has room for. -/
  | exhausted
  deriving DecidableEq, Repr

def Fault.message : Fault → String
  | .settings f => f.message
  | .textLevel value => "Unknown level: " ++ Text.quoted value
  | .tableLevel => "Level not an integer or a valid string: " ++ styleTable
  | .noPath => "expected str, bytes or os.PathLike object, not list"
  | .noPostcondition => "'list' object has no attribute 'substitute'"
  | .exhausted => "maximum recursion depth exceeded while calling a Python object"

/-- What a run comes to. -/
structure Completion where
  exitCode : Nat
  output : String := ""
  log : String := ""
  deriving DecidableEq, Repr

/-! ## Log levels -/

/-- The level of debugging messages. -/
def debugLevel : Nat := 10

/-- The level for a name; a name that is none means the level of warnings. Two names stand for
something else than a level. -/
def levelNamed (name : Text.Wide) : Except Fault Nat :=
  match Text.string? name with
  | some "NOTSET" => .ok 0
  | some "DEBUG" => .ok debugLevel
  | some "INFO" => .ok 20
  | some "WARN" | some "WARNING" => .ok 30
  | some "ERROR" => .ok 40
  | some "CRITICAL" | some "FATAL" => .ok 50
  | some "BASIC_FORMAT" => .error (.textLevel lineFormat)
  | some "_STYLES" => .error .tableLevel
  | _ => .ok 30

/-! ## The log -/

def logLine (origin message : String) : String := "DEBUG wpcalc." ++ origin ++ ": " ++ message

/-- What is logged of reading a text. -/
def readingLog {α : Type} (source : String) (r : Reading α) : List String :=
  match r.tokenCount? with
  | some n => [logLine "parser" ("tokenized " ++ source ++ " into " ++ toString n ++ " tokens")]
  | none => []

def failureLog (e : SyntaxError) : List String :=
  [logLine "cli" ("calculation failed: " ++ e.text)]

/-- What is logged of a calculation, up to the point where it needs a postcondition that it has
not. -/
def calculationLog (limit : Nat) (program : String) (post? : Option String) : List String :=
  let p := Stmt.ofText limit "<program>" program
  readingLog "<program>" p ++
    match p.result with
    | .error e => failureLog e
    | .ok s =>
      match post? with
      | none => []
      | some post =>
        let q := Expr.ofText limit "<postcondition>" post
        readingLog "<postcondition>" q ++
          match q.result with
          | .error e => failureLog e
          | .ok r => (s.derive r).2.map fun step => logLine "statements" step.description

/-! ## Commands -/

/-- An object with a message that is no diagnostic. -/
def complaint (message : String) : String :=
  Json.write none (.record [("error", .text message)]) ++ "\n"

/-- The text of the program, or why it cannot be read. -/
def programText (t : FileTree) (r : WpRequest) : Except String String :=
  if r.file then
    if t.has r.program then
      match t.read r.program with
      | .error e => .error ("Cannot read " ++ r.program ++ ": " ++ e.message r.program)
      | .ok bytes =>
        match Text.readText bytes with
        | .error e => .error ("Cannot read " ++ r.program ++ ": " ++ e.message)
        | .ok text => .ok text
    else .error ("File not found: " ++ r.program)
  else .ok r.program

/-- A report in a format. -/
def present (format : OutputFormat) (showSteps : Bool) (report : Report) : String :=
  match format with
  | .json => Json.write (some 2) (report.toDocument showSteps) ++ "\n"
  | .text => page (report.textLines showSteps)

/-- Why a calculation failed, as it is written. -/
def presentError : CalculationError → String
  | .unreadable e => e.diagnostic.toJson ++ "\n"
  | .log e => complaint e.message

/-- The settings from a source, or why there are none. -/
def SettingsSource.load (readers : DocumentReaders) (t : FileTree) :
    SettingsSource → Except Fault (Except SettingsError Settings)
  | .nearest => .ok (Settings.load readers t none)
  | .file path => .ok (Settings.load readers t (some path))
  | .unnamed => .error .noPath

variable (platform : Platform)

/-- The report on a program. Without a postcondition the program is only read. -/
def reportOn (program : String) (post? : Option String) :
    Except Fault (Except CalculationError Report) :=
  let limit := platform.nestingLimit
  match post?, (Input.text program).program limit with
  | some post, _ =>
    match (calculateWithin limit platform.stack (.text program) (.text post)).1 with
    | some result => .ok result
    | none => .error .exhausted
  | none, .error e => .ok (.error (.unreadable e))
  | none, .ok _ => .error .noPostcondition

/-- The calculation of a request with the given settings. Of the two formats only JSON shows the
program. -/
def runCalculation (settings : Settings) (level : Nat) (r : WpRequest) (program : String) :
    Except Fault Completion := do
  let log :=
    if level ≤ debugLevel then page (calculationLog platform.nestingLimit program r.post?) else ""
  match ← reportOn platform program r.post? with
  | .error e => return { exitCode := 1, output := presentError e, log }
  | .ok report =>
    let format := r.format?.getD settings.format
    if format = .json ∧ !report.statement.isWritable platform.stack then throw .exhausted
    let output := present format (settings.showSteps && !r.noSteps) report
    return { exitCode := 0, output, log }

def runWp (t : FileTree) (r : WpRequest) : Except Fault Completion := do
  match ← r.settings.load platform.readers t with
  | .error (.refused path p) =>
    return { exitCode := 1, output := (p.diagnostic path).toJson ++ "\n" }
  | .error (.fault f) => .error (.settings f)
  | .ok settings =>
    let level ← levelNamed (if r.verbose then "DEBUG" else Text.upper settings.logLevel)
    match programText t r with
    | .error message => return { exitCode := 1, output := complaint message }
    | .ok program => runCalculation platform settings level r program

/-- What is written for a text that has been read. -/
def parsed {α : Type} (isWritable : α → Bool) (write : α → String) :
    Except SyntaxError α → Except Fault Completion
  | .ok a =>
    if isWritable a then .ok { exitCode := 0, output := write a ++ "\n" } else .error .exhausted
  | .error e => .ok { exitCode := 1, output := e.diagnostic.toJson ++ "\n" }

def runParse (r : ParseRequest) : Except Fault Completion :=
  let limit := platform.nestingLimit
  if r.expression then
    parsed (fun _ => true) Expr.text (Expr.ofText limit "<input>" r.text).result
  else
    parsed (Stmt.isWritable platform.stack) Stmt.render (Stmt.ofText limit "<input>" r.text).result

def Page.text : Page → String
  | .main => mainHelp
  | .wp => wpHelp
  | .parse => parseHelp

/-- Runs a command line. -/
def run (t : FileTree) (args : List String) : Except Fault Completion :=
  match readInvocation args with
  | .noCommand => .ok { exitCode := 1, output := mainHelp }
  | .help page => .ok { exitCode := 0, output := page.text }
  | .version => .ok { exitCode := 0, output := versionLine }
  | .misuse => .ok { exitCode := 2, log := usageLine ++ "\n" }
  | .wp request => runWp platform t request
  | .parse request => runParse platform request

/-! ## Files -/

/-- The places that a request may look at, from a working directory. -/
def WpRequest.places (r : WpRequest) (working : Path) : List Path :=
  let given := fun path => (Path.origin working path).stops (Path.split path)
  (match r.settings with
    | .nearest => Settings.candidates working
    | .file path => given path
    | .unnamed => []) ++
  if r.file then given r.program else []

/-- The places that a run may look at, from a working directory. -/
def places (working : Path) (args : List String) : List Path :=
  match readInvocation args with
  | .wp request => request.places working
  | _ => []

end WeakestPre.CommandLine
