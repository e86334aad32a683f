import WeakestPre.Binary64.Notation
import WeakestPre.Document.Fault
import WeakestPre.Text.Quoted

/-!
# Documents

The values that settings files, step descriptions and loose parts of trees are given as. A mapping
keeps its entries in the order in which their keys first came, and its keys may be any document.

**Literal text** (`literal`) shows a document as it would be written in a program: text is quoted.
**Display text** (`display`) is the same except that a document that is itself text or a moment
stands bare. Integers that are too long are not written, nor are values that are nested too deeply
(`write`).

Text is a string, or else holds surrogates (`wide`); `ofWide` tells them apart.

A list or a mapping that is part of itself is shown again only by a mark (`loop`).
-/

namespace WeakestPre

inductive Document where
  | null
  | bool (value : Bool)
  | int (value : Int)
  | real (value : Binary64)
  | text (value : String)
  /-- Text that is no string. -/
  | wide (value : Text.Wide)
  | moment (value : Moment)
  | bytes (value : List UInt8)
  | set (members : List Document)
  | pair (first second : Document)
  | loop (ofMap : Bool)
  | list (items : List Document)
  | map (entries : List (Document × Document))
  deriving Inhabited, Repr

namespace Document

/-- The document of a text. -/
def ofWide (w : Text.Wide) : Document :=
  match Text.string? w with
  | some s => .text s
  | none => .wide w

/-- The name of the kind of value. -/
def kind : Document → String
  | .null => "NoneType"
  | .bool _ => "bool"
  | .int _ => "int"
  | .real _ => "float"
  | .text _ | .wide _ => "str"
  | .moment m => m.kind
  | .bytes _ => "bytes"
  | .set _ => "set"
  | .pair _ _ => "tuple"
  | .loop ofMap => if ofMap then "dict" else "list"
  | .list _ => "list"
  | .map _ => "dict"

/-- Whether a document counts as true: it is neither empty nor zero nor null nor false. -/
def truth : Document → Bool
  | .null => false
  | .bool b => b
  | .int n => n != 0
  | .real x => x.magnitude != 0
  | .text s => s != ""
  | .wide w => !w.isEmpty
  | .moment _ | .pair _ _ | .loop _ => true
  | .bytes bs => !bs.isEmpty
  | .set members => !members.isEmpty
  | .list items => !items.isEmpty
  | .map entries => !entries.isEmpty

/-! ## Text -/

mutual

def literal : Document → String
  | .null => "None"
  | .bool b => if b then "True" else "False"
  | .int n => toString n
  | .real x => x.plain
  | .text s => Text.quoted s
  | .wide w => Text.quotedWide w
  | .moment m => m.literal
  | .bytes bs => "b" ++ Text.quotedBytes bs
  | .set [] => "set()"
  | .set (d :: rest) => "\x7b" ++ ", ".intercalate (literal d :: literals rest) ++ "\x7d"
  | .pair a b => "(" ++ literal a ++ ", " ++ literal b ++ ")"
  | .loop ofMap => if ofMap then "\x7b...\x7d" else "[...]"
  | .list items => "[" ++ ", ".intercalate (literals items) ++ "]"
  | .map entries => "\x7b" ++ ", ".intercalate (entryLiterals entries) ++ "\x7d"

def literals : List Document → List String
  | [] => []
  | d :: rest => literal d :: literals rest

def entryLiterals : List (Document × Document) → List String
  | [] => []
  | (key, value) :: rest => (literal key ++ ": " ++ literal value) :: entryLiterals rest

end

def display : Document → Text.Wide
  | .text s => s
  | .wide w => w
  | .moment m => m.text
  | d => d.literal

mutual

/-- Whether all integers are short enough to be written. -/
def isWritable : Document → Bool
  | .int n => n.natAbs < Nat.pow 10 longestInteger
  | .set members => allWritable members
  | .pair a b => isWritable a && isWritable b
  | .list items => allWritable items
  | .map entries => entriesWritable entries
  | _ => true

def allWritable : List Document → Bool
  | [] => true
  | d :: rest => isWritable d && allWritable rest

def entriesWritable : List (Document × Document) → Bool
  | [] => true
  | (key, value) :: rest => isWritable key && isWritable value && entriesWritable rest

end

mutual

/-- How deeply collections are nested. -/
def depth : Document → Nat
  | .set members => depths members + 1
  | .pair a b => max (depth a) (depth b) + 1
  | .list items => depths items + 1
  | .map entries => entryDepths entries + 1
  | _ => 0

def depths : List Document → Nat
  | [] => 0
  | d :: rest => max (depth d) (depths rest)

def entryDepths : List (Document × Document) → Nat
  | [] => 0
  | (key, value) :: rest => max (max (depth key) (depth value)) (entryDepths rest)

end

/-- The display text, if it can be written. -/
def write (d : Document) : Except ValueFault Text.Wide :=
  if deepestValue < d.depth then .error .deepValue
  else if d.isWritable then .ok d.display
  else .error .longInteger

/-! ## Equality

Booleans count as the integers 0 and 1, and a real equals the integer of the same value. Mappings
are equal when they have the same keys with equal values, in any order. -/

/-- The value of a document as an integer, if it is one. -/
def whole? : Document → Option Int
  | .bool b => some (if b then 1 else 0)
  | .int n => some n
  | .real x => x.whole?
  | _ => none

/-- Equality of documents that are no collections. -/
def sameScalar (a b : Document) : Bool :=
  match a.whole?, b.whole? with
  | some m, some n => m == n
  | none, none =>
    match a, b with
    | .null, .null => true
    | .real x, .real y => x.bits == y.bits && !x.isNaN
    | .text s, .text t => s == t
    | .wide v, .wide w => v == w
    | .moment m, .moment n => m.same n
    | .bytes b, .bytes c => b == c
    | _, _ => false
  | _, _ => false

mutual

def same : Document → Document → Bool
  | .list xs, .list ys => sameItems xs ys
  | .map xs, .map ys => xs.length == ys.length && sameEntries xs ys
  | a, b => sameScalar a b

def sameItems : List Document → List Document → Bool
  | [], [] => true
  | x :: xs, y :: ys => same x y && sameItems xs ys
  | _, _ => false

/-- Every entry of the first mapping has its key and an equal value in the second. -/
def sameEntries : List (Document × Document) → List (Document × Document) → Bool
  | [], _ => true
  | (key, value) :: rest, ys =>
    (match ys.find? fun entry => sameScalar key entry.1 with
      | some entry => same value entry.2
      | none => false) && sameEntries rest ys

end

/-! ## Mappings -/

/-- Sets the value of a key. A key that is there keeps its place, a new one goes to the end. -/
def setEntry (key value : Document) : List (Document × Document) → List (Document × Document)
  | [] => [(key, value)]
  | entry :: rest =>
    if sameScalar entry.1 key then (entry.1, value) :: rest
    else entry :: setEntry key value rest

/-- The value of a text key. -/
def get? (name : String) (entries : List (Document × Document)) : Option Document :=
  (entries.find? fun entry => sameScalar entry.1 (.text name)).map (·.2)

/-- A mapping with text keys. -/
def record (fields : List (String × Document)) : Document :=
  .map (fields.map fun field => (.text field.1, field.2))

end Document

end WeakestPre
