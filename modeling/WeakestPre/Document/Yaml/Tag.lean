import WeakestPre.Document.Fault
import WeakestPre.Document.Yaml.Place
import WeakestPre.Text.Hex
import WeakestPre.Text.Utf8

/-!
# Tags and directives

A tag says what a node stands for. It is written out in full between `!<` and `>`, or as a handle
and the rest of it; a directive may tell what a handle stands for, and two handles are known without
one. A lone `!` is no tag, but it makes a quoted scalar stand for what a plain one would.

Directives stand in front of a document. Those that are unknown are passed over.
-/

namespace WeakestPre.Yaml

/-- What a node stands for. -/
inductive Tag where
  | null
  | bool
  | int
  | real
  | moment
  | bytes
  | text
  | list
  | pairs
  | map
  | set
  /-- As a key: the entries of other mappings. -/
  | merge
  /-- As a key: the value of a mapping. -/
  | value
  | unknown
  deriving DecidableEq, Repr

namespace Tag

/-- What the names of the known tags start with. -/
def family : String := "tag:yaml.org,2002:"

/-- The known tags and how their names end. -/
def endings : List (String × Tag) :=
  [("null", .null), ("bool", .bool), ("int", .int), ("float", .real), ("timestamp", .moment),
    ("binary", .bytes), ("str", .text), ("seq", .list), ("omap", .pairs), ("pairs", .pairs),
    ("map", .map), ("set", .set), ("merge", .merge), ("value", .value)]

def ofName (name : String) : Tag :=
  ((endings.find? fun ending => family ++ ending.1 == name).map (·.2)).getD .unknown

end Tag

/-- Handles and what they stand for. -/
abbrev Handles := List (String × String)

/-- The handles that are known without a directive. -/
def knownHandles : Handles := [("!", "!"), ("!!", Tag.family)]

inductive Directive where
  | version (major minor : Nat)
  | handle (name meaning : String)
  | unknown
  deriving DecidableEq, Repr

/-! ## Reading -/

/-- A character of a name. -/
def isNameChar (c : Char) : Bool := c.isAlphanum || c == '-' || c == '_'

def isUriChar (c : Char) : Bool := isNameChar c || ";/?:@&=+$,.!~*'()[]".toList.contains c

/-- A space, a line break or the end of the text comes next. -/
def endAhead : List Char → Bool
  | [] => true
  | c :: _ => c == ' ' || isBreak c

/-- The bytes of the escapes that come next. -/
def uriBytes : List Char → Except ReadFault (List UInt8)
  | '%' :: a :: b :: rest =>
    match Text.readHex? [a, b] with
    | some n => do return UInt8.ofNat n :: (← uriBytes rest)
    | none => .error .malformed
  | '%' :: _ => .error .malformed
  | _ => .ok []

/-- The characters of an address that come next, its escapes decoded. -/
def uriChars : Nat → Place → Except ReadFault (List Char × Place)
  | 0, p => .ok ([], p)
  | fuel + 1, p =>
    match p.rest with
    | [] => .ok ([], p)
    | c :: _ =>
      if c == '%' then do
        let bytes ← uriBytes p.rest
        let cs ← (Text.decodeUtf8 bytes).mapError fun _ => ReadFault.malformed
        let (more, q) ← uriChars fuel (p.forward (3 * bytes.length))
        return (cs ++ more, q)
      else if isUriChar c then do
        let (more, q) ← uriChars fuel p.step
        return (c :: more, q)
      else .ok ([], p)

/-- An address, which is not empty. -/
def uri (p : Place) : Except ReadFault (String × Place) := do
  let (cs, q) ← uriChars p.rest.length p
  if q.offset = p.offset then .error .malformed else return (.ofList cs, q)

/-- A handle: `!`, or a name between two of them. -/
def handle (p : Place) : Except ReadFault (String × Place) :=
  match p.rest with
  | '!' :: ' ' :: _ => .ok ("!", p.step)
  | '!' :: _ =>
    let (name, q) := p.step.pass isNameChar
    match q.rest with
    | '!' :: _ => .ok ("!" ++ String.ofList name ++ "!", q.step)
    | _ => .error .malformed
  | _ => .error .malformed

/-- A tag that is written out in full, from its mark on. -/
def fullTag (p : Place) : Except ReadFault (String × Place) := do
  let (name, q) ← uri (p.forward 2)
  match q.rest with
  | '>' :: _ => .ok (name, q.step)
  | _ => .error .malformed

/-- A tag as a handle, if it has one, and the rest of its name. -/
def tagParts (p : Place) : Except ReadFault ((Option String × String) × Place) :=
  match p.rest.tail with
  | '<' :: _ => (fullTag p).map fun (name, q) => ((none, name), q)
  | rest =>
    if gapAhead rest then .ok ((none, "!"), p.step)
    else do
      let word := rest.takeWhile fun c => !(c == ' ' || isBreak c)
      let (start, q) ← if word.contains '!' then handle p else .ok ("!", p.step)
      let (name, q) ← uri q
      return ((some start, name), q)

/-- A tag with a space or the end of the line behind it. -/
def writtenTag (p : Place) : Except ReadFault ((Option String × String) × Place) := do
  let (parts, q) ← tagParts p
  if endAhead q.rest then return (parts, q) else .error .malformed

/-- Over the spaces ahead. -/
def Place.spaces (p : Place) : Place := (p.pass (· == ' ')).2

/-- A number of a version. -/
def versionNumber (p : Place) : Except ReadFault (Nat × Place) :=
  let (ds, q) := p.pass Char.isDigit
  if ds.isEmpty then .error .malformed
  else if longestInteger < ds.length then .error (.unusable (.longNumeral ds.length))
  else .ok (ds.foldl (fun n d => 10 * n + (d.toNat - '0'.toNat)) 0, q)

def versionDirective (p : Place) : Except ReadFault (Directive × Place) := do
  let (major, q) ← versionNumber p.spaces
  match q.rest with
  | '.' :: _ =>
    let (minor, r) ← versionNumber q.step
    if endAhead r.rest then return (.version major minor, r) else .error .malformed
  | _ => .error .malformed

def handleDirective (p : Place) : Except ReadFault (Directive × Place) := do
  let (name, q) ← handle p.spaces
  match q.rest with
  | ' ' :: _ =>
    let (meaning, r) ← uri q.spaces
    if endAhead r.rest then return (.handle name meaning, r) else .error .malformed
  | _ => .error .malformed

/-- Over the rest of a line that holds no more than a comment. -/
def lineEnd (p : Place) : Except ReadFault Place :=
  let q := p.spaces
  let r := if q.rest.head? == some '#' then (q.pass fun c => !isBreak c).2 else q
  match r.rest with
  | [] => .ok r
  | c :: _ => if isBreak c then .ok r.step else .error .malformed

/-- A directive from its mark on, and the place behind its line. -/
def directive (p : Place) : Except ReadFault (Directive × Place) := do
  let (name, q) := p.step.pass isNameChar
  if name.isEmpty || !endAhead q.rest then .error .malformed
  else
    let (d, r) ← match String.ofList name with
      | "YAML" => versionDirective q
      | "TAG" => handleDirective q
      | _ => .ok (.unknown, (q.pass fun c => !isBreak c).2)
    return (d, ← lineEnd r)

end WeakestPre.Yaml
