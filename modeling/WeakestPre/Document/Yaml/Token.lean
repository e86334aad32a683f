import WeakestPre.Document.Yaml.Lexeme
import WeakestPre.Document.Yaml.Tag

/-!
# Tokens

A text is a sequence of tokens. Besides what stands in the text there are tokens for what its
indentation means: where a block collection starts and ends, and where a key starts.

**Keys.** What is a key is known only at the colon behind it. So every token that may start a key is
held pending, one for each level of brackets, and at a colon the key token is put in front of it. A
pending key lapses at the end of its line, and after 1024 characters. A key may start at the start
of a line, behind a dash, and within brackets; it may not follow another key on its line, so
`a: b: c` is malformed. In a block mapping, a token in the column of the keys must be one.

**Indentation.** The entries of a block collection share one column. A token in a column before that
ends the collection.
-/

namespace WeakestPre.Yaml

inductive Token where
  | documentStart
  | documentEnd
  | textEnd
  | listStart
  | mapStart
  | blockEnd
  | dash
  | key
  | colon
  | flowListStart
  | flowListEnd
  | flowMapStart
  | flowMapEnd
  | comma
  | anchor (name : String)
  | reference (name : String)
  | tag (handle? : Option String) (name : String)
  | directive (d : Directive)
  | scalar (plain : Bool) (text : Text.Wide)
  deriving DecidableEq, Repr

/-- A token that may start a key. -/
structure PendingKey where
  /-- How many tokens stand in front of it. -/
  index : Nat
  place : Place
  required : Bool

/-- The most characters from the start of a key to the colon behind it. -/
def longestKey : Nat := 1024

/-- The key may still get its colon at a place. -/
def PendingKey.reaches (k : PendingKey) (p : Place) : Bool :=
  k.place.line == p.line && p.offset - k.place.offset ≤ longestKey

/-- A text that is read up to a place. -/
structure Scan where
  /-- The length of the text. -/
  size : Nat
  place : Place
  /-- The tokens so far, the last one first. -/
  tokens : List Token := []
  /-- How many tokens there are. -/
  count : Nat := 0
  /-- The columns of the open block collections, the innermost first. -/
  columns : List Nat := []
  /-- The key that is pending on the current level of brackets. -/
  key? : Option PendingKey := none
  /-- The keys that are pending on the levels around it, the innermost first. -/
  outer : List (Option PendingKey) := []
  /-- Whether a key may start at the place. -/
  keyAllowed : Bool := true

namespace Scan

def inFlow (s : Scan) : Bool := !s.outer.isEmpty

def column (s : Scan) : Nat := s.place.column

/-- The column from which on the parts of the innermost block collection stand. -/
def indent (s : Scan) : Nat := (s.columns.head?.map (· + 1)).getD 0

/-- How many characters lie ahead. -/
def remaining (s : Scan) : Nat := s.size - s.place.offset

/-! ## Steps -/

def emit (t : Token) (s : Scan) : Scan :=
  { s with tokens := t :: s.tokens, count := s.count + 1 }

/-- A token in front of the one with an index. -/
def insert (index : Nat) (t : Token) (s : Scan) : Scan :=
  let later := s.count - index
  { s with tokens := s.tokens.take later ++ t :: s.tokens.drop later, count := s.count + 1 }

/-- A token of `width` characters. -/
def emitOver (t : Token) (width : Nat) (s : Scan) : Scan :=
  { s.emit t with place := s.place.forward width }

def allowKey (allowed : Bool) (s : Scan) : Scan := { s with keyAllowed := allowed }

/-- Over blanks and comments. In block context a key may start on a new line. -/
def skipBlanks (s : Scan) : Scan :=
  let place := s.place.skip
  { s with place, keyAllowed := s.keyAllowed || (!s.inFlow && place.line != s.place.line) }

/-- Without the pending keys that have lapsed; a required one must not. -/
def dropLapsed (s : Scan) : Except ReadFault Scan :=
  let lapsed := fun (k : PendingKey) => !k.reaches s.place
  if (s.key? :: s.outer).any fun k? => k?.any fun k => k.required && lapsed k then
    .error .malformed
  else
    let keep := fun (k? : Option PendingKey) => k?.filter fun k => k.reaches s.place
    .ok { s with key? := keep s.key?, outer := s.outer.map keep }

/-- Without the pending key of this level; a required one must stay. -/
def dropKey (s : Scan) : Except ReadFault Scan :=
  if s.key?.any PendingKey.required then .error .malformed else .ok { s with key? := none }

/-- The next token may start a key, if keys are allowed here. -/
def holdKey (s : Scan) : Except ReadFault Scan :=
  if s.keyAllowed then do
    let s ← s.dropKey
    let required := !s.inFlow && s.columns.head? == some s.column
    return { s with key? := some ⟨s.count, s.place, required⟩ }
  else .ok s

/-- Ends the block collections whose column passes a test, from the innermost on. -/
def closeBlocks (test : Nat → Bool) (s : Scan) : Scan :=
  if s.inFlow then s
  else
    let ends := (s.columns.takeWhile test).foldl (fun s _ => s.emit .blockEnd) s
    { ends with columns := s.columns.dropWhile test }

/-- A block collection with its entries in a column starts in front of the token with an index,
unless one is open in that column. -/
def openBlock (start : Token) (index column : Nat) (s : Scan) : Scan :=
  if s.indent ≤ column then { s.insert index start with columns := column :: s.columns } else s

/-! ## Tokens -/

def documentMark (t : Token) (s : Scan) : Except ReadFault Scan := do
  let s ← (s.closeBlocks fun _ => true).dropKey
  return (s.allowKey false).emitOver t 3

def finish (s : Scan) : Except ReadFault Scan := do
  let s ← (s.closeBlocks fun _ => true).dropKey
  return (s.allowKey false).emit .textEnd

def openFlow (t : Token) (s : Scan) : Except ReadFault Scan := do
  let s ← s.holdKey
  return ({ s with key? := none, outer := s.key? :: s.outer }.allowKey true).emitOver t 1

def closeFlow (t : Token) (s : Scan) : Except ReadFault Scan := do
  let s ← s.dropKey
  match s.outer with
  | [] => .error .malformed
  | key? :: outer => return ({ s with key?, outer }.allowKey false).emitOver t 1

def comma (s : Scan) : Except ReadFault Scan := do
  return ((← s.dropKey).allowKey true).emitOver .comma 1

/-- An entry of a block collection may start here; if it is the first one, so does the
collection. -/
def startEntry (start : Token) (s : Scan) : Except ReadFault Scan :=
  if s.inFlow then .ok s
  else if s.keyAllowed then .ok (s.openBlock start s.count s.column)
  else .error .malformed

def dash (s : Scan) : Except ReadFault Scan := do
  let s ← (← s.startEntry .listStart).dropKey
  return (s.allowKey true).emitOver .dash 1

/-- The mark in front of a key. -/
def question (s : Scan) : Except ReadFault Scan := do
  let s ← (← s.startEntry .mapStart).dropKey
  return (s.allowKey !s.inFlow).emitOver .key 1

/-- A colon behind the pending key, if there is one. -/
def colon (s : Scan) : Except ReadFault Scan := do
  match s.key? with
  | some k =>
    let s := { s.insert k.index .key with key? := none }
    let s := if s.inFlow then s else s.openBlock .mapStart k.index k.place.column
    return (s.allowKey false).emitOver .colon 1
  | none =>
    let s ← s.startEntry .mapStart
    return (s.allowKey !s.inFlow).emitOver .colon 1

/-- The name of a node behind its mark. -/
def name (token : String → Token) (s : Scan) : Except ReadFault Scan := do
  let s ← s.holdKey
  let (name, place) := s.place.step.pass isNameChar
  if name.isEmpty || !(gapAhead place.rest ||
      place.rest.head?.any fun c => "?:,]\x7d%@\x60".toList.contains c) then .error .malformed
  else return { (s.emit (token (.ofList name))).allowKey false with place }

def nodeTag (s : Scan) : Except ReadFault Scan := do
  let s ← s.holdKey
  let ((handle?, name), place) ← writtenTag s.place
  return { (s.emit (.tag handle? name)).allowKey false with place }

def directiveLine (s : Scan) : Except ReadFault Scan := do
  let s ← (s.closeBlocks fun _ => true).dropKey
  let (d, place) ← directive s.place
  return { (s.emit (.directive d)).allowKey false with place }

def plainScalar (s : Scan) : Except ReadFault Scan := do
  let s ← s.holdKey
  let (text, place, broken) := plain s.inFlow s.indent s.remaining s.place
  return { (s.emit (.scalar true (text.map .char))).allowKey broken with place }

def quotedScalar (quote : Char) (s : Scan) : Except ReadFault Scan := do
  let s ← s.holdKey
  let (text, place) ← quoted quote s.remaining s.place.step
  return { (s.emit (.scalar false text)).allowKey false with place }

def blockScalar (folds : Bool) (s : Scan) : Except ReadFault Scan := do
  let s ← s.dropKey
  let (text, place) ← block folds s.indent s.remaining s.place.step
  return { (s.emit (.scalar false (text.map .char))).allowKey true with place }

/-- The token that starts with `c`. -/
def token (c : Char) (rest : List Char) (s : Scan) : Except ReadFault Scan :=
  if c == '%' && s.column == 0 then s.directiveLine
  else if s.place.atMark then s.documentMark (if c == '-' then .documentStart else .documentEnd)
  else if c == '[' then s.openFlow .flowListStart
  else if c == '\x7b' then s.openFlow .flowMapStart
  else if c == ']' then s.closeFlow .flowListEnd
  else if c == '\x7d' then s.closeFlow .flowMapEnd
  else if c == ',' then s.comma
  else if c == '-' && gapAhead rest then s.dash
  else if c == '?' && (s.inFlow || gapAhead rest) then s.question
  else if c == ':' && (s.inFlow || gapAhead rest) then s.colon
  else if c == '&' then s.name .anchor
  else if c == '*' then s.name .reference
  else if c == '!' then s.nodeTag
  else if c == '|' && !s.inFlow then s.blockScalar false
  else if c == '>' && !s.inFlow then s.blockScalar true
  else if c == '\'' || c == '"' then s.quotedScalar c
  else if startsPlain s.inFlow c rest then s.plainScalar
  else .error .malformed

/-- The tokens up to the next one in the text. -/
def next (s : Scan) : Except ReadFault Scan := do
  let s ← s.skipBlanks.dropLapsed
  let s := s.closeBlocks (s.column < ·)
  match s.place.rest with
  | [] => s.finish
  | c :: rest => s.token c rest

/-- The tokens that are settled: those before the first pending key. -/
def settled (s : Scan) : List Token :=
  let pending := (s.key? :: s.outer).filterMap fun k? => k?.filter fun k => k.reaches s.place
  s.tokens.reverse.take (pending.foldl (fun n k => min n k.index) s.count)

/-- All tokens from here on, and why there are no more if the text does not go well to its end. -/
def all : Nat → Scan → List Token × Option ReadFault
  | 0, s => (s.settled, some .malformed)
  | fuel + 1, s =>
    match s.next with
    | .error f => (s.settled, some f)
    | .ok s' => if s'.tokens.head? == some .textEnd then (s'.tokens.reverse, none) else all fuel s'

end Scan

/-- The tokens of a text; also why it goes no further, if it does not go to its end. -/
def tokens (text : List Char) : List Token × Option ReadFault :=
  Scan.all (text.length + 1) { size := text.length, place := ⟨text, 0, 0, 0⟩ }

end WeakestPre.Yaml
