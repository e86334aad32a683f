import WeakestPre.Diagnostic
import WeakestPre.FileTree
import WeakestPre.Text.Casing
import WeakestPre.Text.Class
import WeakestPre.Text.Utf8

/-!
# Settings

Settings come from the nearest settings file: the first of three names, in a fixed order, that is
a file in the working directory, else in its parent, and so on up to the root. Without one the
defaults hold.

A settings file is a mapping, written in JSON if its name ends in `.json` and in YAML otherwise. Of
its keys three count, and each is given by any value: the truth of one, the text of the others. How
the two languages are read is left open here (`DocumentReaders`).
-/

namespace WeakestPre

inductive OutputFormat where
  | text
  | json
  deriving DecidableEq, Repr

def OutputFormat.name : OutputFormat → String
  | .text => "text"
  | .json => "json"

def OutputFormat.all : List OutputFormat := [.text, .json]

def OutputFormat.ofName? (s : String) : Option OutputFormat := all.find? (·.name == s)

structure Settings where
  showSteps : Bool := true
  format : OutputFormat := .text
  logLevel : Text.Wide := "WARNING"
  deriving DecidableEq, Repr

/-! ## Errors -/

/-- What is wrong with a settings file. -/
inductive SettingsProblem where
  | unreadable (e : FileError)
  | malformed (detail : Text.Wide)
  | noMapping
  | unknownFormat (format : Text.Wide)
  deriving DecidableEq, Repr

namespace SettingsProblem

def complaint : SettingsProblem → Text.Wide
  | .unreadable e => "cannot read file (" ++ e.reason ++ ")"
  | .malformed detail =>
    Text.wide "malformed configuration (" ++ detail ++ Text.wide ")"
  | .noMapping => "top-level document must be a mapping"
  | .unknownFormat format =>
    let allowed := Document.list (OutputFormat.all.map fun f => .text f.name)
    Text.wide "unknown format '" ++ format ++
      Text.wide ("', expected one of " ++ allowed.literal)

def diagnostic (path : String) (p : SettingsProblem) : Diagnostic :=
  { kind := .configError
    message := Text.wide (path ++ ": ") ++ p.complaint
    details := [("path", .text path)] }

end SettingsProblem

/-- What has no diagnostic: a path that can name no file, bytes that are no text, and values that
cannot be represented. -/
inductive SettingsFault where
  | zeroInPath
  | undecodable (e : Text.Utf8Error)
  | unusable (f : ValueFault)
  | tooDeep (n : Nesting)
  deriving DecidableEq, Repr

def SettingsFault.message : SettingsFault → String
  | .zeroInPath => "embedded null byte"
  | .undecodable e => e.message
  | .unusable f => f.message
  | .tooDeep n => n.message

inductive SettingsError where
  | refused (path : String) (p : SettingsProblem)
  | fault (f : SettingsFault)
  deriving DecidableEq, Repr

/-! ## Readers -/

/-- A reader of documents, with what it says of a text that is malformed. -/
structure DocumentReader where
  read : String → Except ReadFault Document
  complaint : String → Text.Wide

/-- The readers of the languages in which settings are written. -/
structure DocumentReaders where
  json : DocumentReader
  yaml : DocumentReader

namespace Settings

/-- The name says that the file is written in JSON. -/
def isJson (path : String) : Bool := ".json".toList.isSuffixOf path.toList

end Settings

/-- The reader for a file. -/
def DocumentReaders.of (readers : DocumentReaders) (path : String) : DocumentReader :=
  if Settings.isJson path then readers.json else readers.yaml

namespace Settings

/-- The names of settings files, the preferred one first. -/
def fileNames : List String := [".wpcalcrc.yml", ".wpcalcrc.yaml", ".wpcalcrc.json"]

/-! ## Finding -/

/-- Where a settings file may stand for a directory, the preferred place first. -/
def candidates (directory : Path) : List Path :=
  directory.ancestors.flatMap fun above => fileNames.map fun name => above ++ [name]

/-- The nearest settings file from a starting directory. -/
def find? (t : FileTree) (start : String) : Option Path :=
  (candidates (Path.absolute t.working start)).find? t.isFile

/-- The text of its path, behind the root with which the starting directory is written. -/
def found? (t : FileTree) (start : String) : Option String :=
  (find? t start).map (Path.spelled (Path.rootOf start))

/-! ## Reading -/

/-- The text of a value. -/
def textOf (value : Document) : Except SettingsError Text.Wide :=
  value.write.mapError fun f => .fault (.unusable f)

/-- The output format that a value names, whatever its case. -/
def formatOf (path : String) (value : Document) : Except SettingsError OutputFormat := do
  let name := Text.lower (← textOf value)
  match (Text.string? name).bind OutputFormat.ofName? with
  | some f => .ok f
  | none => .error (.refused path (.unknownFormat name))

/-- The settings that a mapping gives. -/
def ofEntries (path : String) (entries : List (Document × Document)) :
    Except SettingsError Settings := do
  let showSteps := ((Document.get? "show_steps" entries).map Document.truth).getD true
  let format ← match Document.get? "format" entries with
    | some value => formatOf path value
    | none => .ok .text
  let logLevel ← match Document.get? "log_level" entries with
    | some value => (textOf value).map Text.upper
    | none => .ok (Text.wide "WARNING")
  return { showSteps, format, logLevel }

variable (readers : DocumentReaders)

/-- The document of a file with a text. Blank JSON text is an empty mapping, and so is every YAML
document that does not count as true. -/
def documentOf (path text : String) : Except ReadFault Document :=
  if isJson path then
    if Text.isBlankText text then .ok (.map []) else readers.json.read text
  else (readers.yaml.read text).map fun d => if d.truth then d else .map []

/-- The settings of a file with a text. -/
def ofText (path text : String) : Except SettingsError Settings :=
  match documentOf readers path text with
  | .error .malformed => .error (.refused path (.malformed ((readers.of path).complaint text)))
  | .error (.unusable f) => .error (.fault (.unusable f))
  | .error (.tooDeep n) => .error (.fault (.tooDeep n))
  | .ok (.map entries) => ofEntries path entries
  | .ok _ => .error (.refused path .noMapping)

/-- The settings of a file. -/
def ofFile (t : FileTree) (path : String) : Except SettingsError Settings := do
  if path.toList.contains (Char.ofNat 0) then throw (.fault .zeroInPath)
  let bytes ← (t.read path).mapError fun e => .refused path (.unreadable e)
  let text ← (Text.readText bytes).mapError fun e => .fault (.undecodable e)
  ofText readers path text

/-- The settings of a given file, else of the nearest one, else the defaults. -/
def load (t : FileTree) (path? : Option String) (start : String := ".") :
    Except SettingsError Settings :=
  match path?.or (found? t start) with
  | some path => ofFile readers t path
  | none => .ok {}

end Settings

end WeakestPre
