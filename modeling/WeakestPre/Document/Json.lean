import WeakestPre.Binary64.Numeral
import WeakestPre.Document.Basic

/-!
# JSON text

**Writing.** Only printable ASCII is written as it is: all other characters are escaped, the
code points above `FFFF` as a pair of surrogates. With an indentation, every item stands on a line
of its own and empty collections stay on one; without, the text is one line.

**Reading.** One document with blanks around it. Numbers with a fraction or an exponent are reals,
all others integers. A string holds no control characters. Of several members with one name the
last one counts. What is wrong first is what is reported, be it the form, an integer that is too
long, or collections that are nested too deeply.
-/

namespace WeakestPre.Json

/-! ## Writing -/

def unicodeEscape (n : Nat) : List Char := '\\' :: 'u' :: Text.hexDigits 4 n

def escapeChar (c : Char) : List Char :=
  if c = '"' then ['\\', '"']
  else if c = '\\' then ['\\', '\\']
  else if c = '\n' then ['\\', 'n']
  else if c = '\r' then ['\\', 'r']
  else if c = '\t' then ['\\', 't']
  else
    let n := c.toNat
    if n = 0x0c then ['\\', 'f']
    else if n = 0x08 then ['\\', 'b']
    else if 0x20 ≤ n ∧ n < 0x7f then [c]
    else if n < 0x10000 then unicodeEscape n
    else
      let k := n - 0x10000
      unicodeEscape (0xd800 + k / 0x400) ++ unicodeEscape (0xdc00 + k % 0x400)

def writeText (s : String) : String :=
  String.ofList ('"' :: s.toList.flatMap escapeChar ++ ['"'])

/-- The escape of a surrogate is the one that it has in a pair. -/
def escapePoint : Text.CodePoint → List Char
  | .char c => escapeChar c
  | p => unicodeEscape p.toNat

def writeWide (w : Text.Wide) : String := String.ofList ('"' :: w.flatMap escapePoint ++ ['"'])

def writeReal (x : Binary64) : String :=
  if x.isNaN then "NaN" else if x.isInfinite then x.signed "Infinity" else x.plain

/-- The line break and indentation before an item at a depth, if items have their own lines. -/
def lineStart (indent : Option Nat) (depth : Nat) : String :=
  match indent with
  | none => ""
  | some width => "\n" ++ String.ofList (List.replicate (width * depth) ' ')

/-- Items between brackets, at `depth` within the document. -/
def bracket (indent : Option Nat) (depth : Nat) (opening closing : String) (items : List String) :
    String :=
  if items.isEmpty then opening ++ closing
  else
    let separator := (if indent.isSome then "," else ", ") ++ lineStart indent (depth + 1)
    opening ++ lineStart indent (depth + 1) ++ separator.intercalate items ++
      lineStart indent depth ++ closing

mutual

def writeAt (indent : Option Nat) (depth : Nat) : Document → String
  | .null => "null"
  | .bool b => if b then "true" else "false"
  | .int n => toString n
  | .real x => writeReal x
  | .text s => writeText s
  | .wide w => writeWide w
  | .moment m => writeText m.text
  | .bytes bs => writeText (Text.quotedBytes bs)
  | .set members => bracket indent depth "[" "]" (writeItems indent (depth + 1) members)
  | .pair a b =>
    bracket indent depth "[" "]" [writeAt indent (depth + 1) a, writeAt indent (depth + 1) b]
  | .loop _ => "null"
  | .list items => bracket indent depth "[" "]" (writeItems indent (depth + 1) items)
  | .map entries => bracket indent depth "\x7b" "\x7d" (writeMembers indent (depth + 1) entries)

def writeItems (indent : Option Nat) (depth : Nat) : List Document → List String
  | [] => []
  | d :: rest => writeAt indent depth d :: writeItems indent depth rest

def writeMembers (indent : Option Nat) (depth : Nat) : List (Document × Document) → List String
  | [] => []
  | (key, value) :: rest =>
    (writeWide key.display ++ ": " ++ writeAt indent depth value) :: writeMembers indent depth rest

end

def write (indent : Option Nat) (d : Document) : String := writeAt indent 0 d

/-! ## Reading -/

def isSpace (c : Char) : Bool := c == ' ' || c == '\t' || c == '\n' || c == '\r'

def skipSpace (cs : List Char) : List Char := cs.dropWhile isSpace

/-- The character that an escape of one letter stands for. -/
def escape? : Char → Option Char
  | '"' => some '"'
  | '\\' => some '\\'
  | '/' => some '/'
  | 'b' => some (Char.ofNat 0x08)
  | 'f' => some (Char.ofNat 0x0c)
  | 'n' => some '\n'
  | 'r' => some '\r'
  | 't' => some '\t'
  | _ => none

/-- The code points of a string up to its closing quote, in reverse, and the rest. The escapes of a
pair of surrogates stand for one character; other surrogates stand for themselves. -/
def readPoints (acc : Text.Wide) : List Char → Option (Text.Wide × List Char)
  | [] => none
  | '"' :: rest => some (acc, rest)
  | '\\' :: 'u' :: a :: b :: c :: d :: '\\' :: 'u' :: e :: f :: g :: h :: rest =>
    match Text.readHex? [a, b, c, d], Text.readHex? [e, f, g, h] with
    | some m, some n =>
      match Text.CodePoint.ofPair? m n with
      | some p => readPoints (p :: acc) rest
      | none => readPoints (.ofNat m :: acc) ('\\' :: 'u' :: e :: f :: g :: h :: rest)
    | some m, none => readPoints (.ofNat m :: acc) ('\\' :: 'u' :: e :: f :: g :: h :: rest)
    | none, _ => none
  | '\\' :: 'u' :: a :: b :: c :: d :: rest =>
    match Text.readHex? [a, b, c, d] with
    | some n => readPoints (.ofNat n :: acc) rest
    | none => none
  | '\\' :: c :: rest =>
    match escape? c with
    | some c => readPoints (.char c :: acc) rest
    | none => none
  | c :: rest => if c.toNat < 0x20 then none else readPoints (.char c :: acc) rest

/-- A string whose opening quote has been read. -/
def readString (cs : List Char) : Option (Text.Wide × List Char) :=
  (readPoints [] cs).map fun (acc, rest) => (acc.reverse, rest)

/-- The digits of the whole part: a zero, or a run that starts with another digit. -/
def wholePart : List Char → List Char × List Char
  | '0' :: rest => (['0'], rest)
  | cs => (cs.takeWhile Char.isDigit, cs.dropWhile Char.isDigit)

/-- A point and the digits after it, if there are any. -/
def fractionPart : List Char → List Char × List Char
  | '.' :: rest =>
    let ds := rest.takeWhile Char.isDigit
    if ds = [] then ([], '.' :: rest) else (ds, rest.dropWhile Char.isDigit)
  | cs => ([], cs)

/-- The exponent, if one follows. -/
def exponentPart (cs : List Char) : Option Int × List Char :=
  match cs with
  | [] => (none, [])
  | e :: rest =>
    if e = 'e' ∨ e = 'E' then
      let (negative, after) := Binary64.takeSign rest
      let ds := after.takeWhile Char.isDigit
      if ds = [] then (none, cs)
      else
        let n : Int := Binary64.readDigits ds
        (some (if negative then -n else n), after.dropWhile Char.isDigit)
    else (none, cs)

/-- What a text starts with, and the rest of it. -/
abbrev Reader (α : Type) := List Char → Except ReadFault (α × List Char)

/-- A number, after its sign. -/
def readNumber (negative : Bool) : Reader Document := fun cs =>
  let (whole, rest) := wholePart cs
  if whole = [] then .error .malformed
  else
    let (fraction, rest) := fractionPart rest
    let (exponent, rest) := exponentPart rest
    if fraction = [] ∧ exponent = none then
      if longestInteger < whole.length then .error (.unusable (.longNumeral whole.length))
      else
        let n : Int := Binary64.readDigits whole
        .ok (.int (if negative then -n else n), rest)
    else
      let digits := Binary64.readDigits (whole ++ fraction)
      .ok (.real (Binary64.ofDecimal negative digits (exponent.getD 0 - fraction.length)), rest)

/-- The rest after a word that must stand here. -/
def word (w : String) (d : Document) : Reader Document := fun cs =>
  if w.toList.isPrefixOf cs then .ok (d, cs.drop w.length) else .error .malformed

/-- A value that is no collection. -/
def readScalar : Reader Document := fun cs =>
  match cs with
  | '"' :: rest =>
    match readString rest with
    | some (w, rest) => .ok (.ofWide w, rest)
    | none => .error .malformed
  | 'n' :: _ => word "null" .null cs
  | 't' :: _ => word "true" (.bool true) cs
  | 'f' :: _ => word "false" (.bool false) cs
  | 'N' :: _ => word "NaN" (.real Binary64.nan) cs
  | 'I' :: _ => word "Infinity" (.real (Binary64.infinity false)) cs
  | '-' :: 'I' :: _ => word "-Infinity" (.real (Binary64.infinity true)) cs
  | '-' :: rest => readNumber true rest
  | cs => readNumber false cs

/-- The items of a list from the next one on, after the items in `acc`, last first. The fuel bounds
their number. -/
def readItems (value : Reader Document) : Nat → List Document → Reader Document
  | 0, _, _ => .error .malformed
  | fuel + 1, acc, cs => do
    let (d, rest) ← value cs
    match skipSpace rest with
    | ',' :: rest => readItems value fuel (d :: acc) (skipSpace rest)
    | ']' :: rest => .ok (.list (d :: acc).reverse, rest)
    | _ => .error .malformed

/-- The name of a member and the colon behind it. -/
def readName : Reader Document
  | '"' :: rest =>
    match readString rest with
    | none => .error .malformed
    | some (name, rest) =>
      match skipSpace rest with
      | ':' :: rest => .ok (.ofWide name, skipSpace rest)
      | _ => .error .malformed
  | _ => .error .malformed

/-- The members of a mapping from the next one on, after the entries in `acc`. The fuel bounds their
number. -/
def readMembers (value : Reader Document) :
    Nat → List (Document × Document) → Reader Document
  | 0, _, _ => .error .malformed
  | fuel + 1, acc, cs => do
    let (name, rest) ← readName cs
    let (d, rest) ← value rest
    let entries := Document.setEntry name d acc
    match skipSpace rest with
    | ',' :: rest => readMembers value fuel entries (skipSpace rest)
    | '\x7d' :: rest => .ok (.map entries, rest)
    | _ => .error .malformed

/-- A value with collections nested at most `depth` deep. -/
def readValue : Nat → Reader Document
  | 0, '[' :: _ => .error (.tooDeep .jsonList)
  | 0, '\x7b' :: _ => .error (.tooDeep .jsonMap)
  | depth + 1, '[' :: rest =>
    match skipSpace rest with
    | ']' :: rest => .ok (.list [], rest)
    | rest => readItems (readValue depth) rest.length [] rest
  | depth + 1, '\x7b' :: rest =>
    match skipSpace rest with
    | '\x7d' :: rest => .ok (.map [], rest)
    | rest => readMembers (readValue depth) rest.length [] rest
  | _, cs => readScalar cs

/-- The document that a text holds; it must hold one and nothing else. -/
def read (s : String) (depth : Nat := 2 * deepestNesting) : Except ReadFault Document := do
  let (d, rest) ← readValue depth (skipSpace s.toList)
  if skipSpace rest = [] then return d else .error .malformed

end WeakestPre.Json
