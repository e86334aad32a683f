import WeakestPre.Document.Yaml.Graph

/-!
# Values of nodes

Every node of a graph has one value, however often it is referred to. Scalars get theirs at once.
Lists and mappings are made level by level, from the outermost node on; so what is wrong on an outer
level is found first, and on one level what comes first.

**Merging.** When a mapping is made, the entries of the mappings under its keys `<<` go in front of
its other entries, so that these win. Of the mappings in a list the first one wins. An entry that is
merged is gone from the graph.

**Value keys.** When a mapping is made, its keys `=` become text, wherever else they are referred
to. Where a scalar is asked for, a mapping with such a key stands for the scalar under it.

**Keys.** A collection is no key. Two keys that are not numbers are the same if they come from one
node, or are both written by the usual word.
-/

namespace WeakestPre.Yaml

/-- A value that is no collection. If it is its own value only, `maker?` is the node that it comes
from. -/
structure Simple where
  document : Document
  maker? : Option Nat

/-- Whether two values are the same as keys. -/
def Simple.same (a b : Simple) : Bool :=
  Document.sameScalar a.document b.document ||
    match a.document, b.document with
    | .real x, .real y => x.isNaN && y.isNaN && a.maker? == b.maker?
    | _, _ => false

/-- The value of a node; the parts of a collection are values of other nodes. -/
inductive Value where
  | simple (s : Simple)
  | list (items : List Nat)
  | pairs (items : List (Nat × Nat))
  | map (entries : List (Simple × Nat))
  | set (members : List Simple)

/-- Values so far, and the collections that are to be filled, the last one first. -/
structure Making where
  graph : Graph
  /-- More than there are entries to be merged. -/
  bound : Nat
  values : Array (Option Value)
  pending : List Nat := []

abbrev Maker := StateT Making (Except ReadFault)

namespace Maker

def malformed {α : Type} : Maker α := throw .malformed

def nodeAt (i : Nat) : Maker Node := do return (← get).graph.node i

def modifyNode (i : Nat) (f : Node → Node) : Maker Unit :=
  modify fun s => { s with graph := s.graph.modify i f }

def setValue (i : Nat) (v : Value) : Maker Unit :=
  modify fun s => { s with values := s.values.setIfInBounds i (some v) }

/-! ## Merging -/

/-- The entries of a node that is a mapping. -/
def entriesOf (i : Nat) : Maker (List (Nat × Nat)) := do
  match (← nodeAt i).content with
  | .map entries => return entries
  | _ => malformed

def setEntries (i : Nat) (entries : List (Nat × Nat)) : Maker Unit :=
  modifyNode i fun n => { n with content := .map entries }

def hasTag (tag : Tag) (i : Nat) : Maker Bool := do return (← nodeAt i).tag = tag

/-- The first entry whose key has a tag, and the other entries. -/
def takeEntry (tag : Tag) : List (Nat × Nat) → Maker (Option (Nat × List (Nat × Nat)))
  | [] => return none
  | (key, value) :: rest => do
    if ← hasTag tag key then return some (value, rest)
    else return (← takeEntry tag rest).map fun (v, others) => (v, (key, value) :: others)

/-- Turns the value keys among entries into text. -/
def settleKeys (entries : List (Nat × Nat)) : Maker Unit :=
  entries.forM fun (key, _) =>
    modifyNode key fun n => if n.tag = .value then { n with tag := .text } else n

/-- Merges what is to be merged into a mapping, behind the entries in `merged`. The fuel bounds the
number of merges that are left in the graph. -/
def mergeInto : Nat → Nat → List (Nat × Nat) → Maker Unit
  | 0, _, _ => malformed
  | fuel + 1, i, merged => do
    match ← takeEntry .merge (← entriesOf i) with
    | none =>
      let entries ← entriesOf i
      settleKeys entries
      setEntries i (merged ++ entries)
    | some (source, others) =>
      setEntries i others
      let sources ← match (← nodeAt source).content with
        | .map _ => pure [source]
        | .list items => pure items
        | .scalar _ => malformed
      let found ← sources.mapM fun j => do
        let _ ← entriesOf j
        mergeInto fuel j []
        entriesOf j
      mergeInto fuel i (merged ++ found.reverse.flatten)

/-- The entries of a mapping after merging. -/
def mergedEntries (i : Nat) : Maker (List (Nat × Nat)) := do
  mergeInto (← get).bound i []
  entriesOf i

/-! ## Scalars -/

/-- The text of a node where a scalar is asked for. -/
def textOf : Nat → Nat → Maker Text.Wide
  | 0, _ => throw (.tooDeep .node)
  | fuel + 1, i => do
    match (← nodeAt i).content with
    | .scalar text => return text
    | .list _ => malformed
    | .map entries =>
      match ← takeEntry .value entries with
      | some (value, _) => textOf fuel value
      | none => malformed

/-- Whether a text under a tag stands for a value that all texts like it share. -/
def isShared (tag : Tag) (text : Text.Wide) : Bool :=
  tag = .real && (realBody text).2 == Text.wide nanText

/-- The value of a node with a tag for scalars. -/
def simpleValue (i : Nat) : Maker Simple := do
  let n ← nodeAt i
  let text ← textOf ((← get).graph.size + 1) i
  match n.tag, n.content with
  | .moment, .map _ => throw (.unusable .wrongMoment)
  | tag, _ =>
    let document ← scalarValue tag text
    return { document, maker? := if isShared tag text then none else some i }

/-! ## Collections -/

/-- The value of a node. A collection is empty at first, and filled later. -/
def make (i : Nat) : Maker Value := do
  match ((← get).values.getD i none) with
  | some v => return v
  | none =>
    let v ← match (← nodeAt i).tag with
      | .list => pure (.list [])
      | .pairs => pure (.pairs [])
      | .map => pure (.map [])
      | .set => pure (.set [])
      | .merge | .value | .unknown => malformed
      | _ => return .simple (← keep i (← simpleValue i))
    setValue i v
    modify fun s => { s with pending := i :: s.pending }
    return v
where
  /-- Keeps the value of a scalar. -/
  keep (i : Nat) (s : Simple) : Maker Simple := do
    setValue i (.simple s)
    return s

/-- The value of a key. -/
def makeKey (i : Nat) : Maker Simple := do
  match ← make i with
  | .simple s => return s
  | _ => malformed

/-- Sets the value of a key. A key that is there keeps its place, a new one goes to the end. -/
def setKey (key : Simple) (value : Nat) : List (Simple × Nat) → List (Simple × Nat)
  | [] => [(key, value)]
  | e :: rest => if e.1.same key then (e.1, value) :: rest else e :: setKey key value rest

def itemsOf (i : Nat) : Maker (List Nat) := do
  match (← nodeAt i).content with
  | .list items => return items
  | _ => malformed

/-- The keys of a mapping with the nodes of their values. -/
def makeEntries (i : Nat) : Maker (List (Simple × Nat)) := do
  (← mergedEntries i).foldlM (fun acc (key, value) => do
    let k ← makeKey key
    let _ ← make value
    return setKey k value acc) []

/-- The only entry of each mapping in a list. -/
def makePair (i : Nat) : Maker (Nat × Nat) := do
  match ← entriesOf i with
  | [(key, value)] =>
    let _ ← make key
    let _ ← make value
    return (key, value)
  | _ => malformed

/-- Fills a collection. -/
def fill (i : Nat) : Maker Unit := do
  match (← nodeAt i).tag with
  | .list =>
    let items ← itemsOf i
    items.forM fun j => do let _ ← make j
    setValue i (.list items)
  | .pairs => setValue i (.pairs (← (← itemsOf i).mapM makePair))
  | .set => setValue i (.set ((← makeEntries i).map (·.1)))
  | _ => setValue i (.map (← makeEntries i))

/-- Fills the collections of a level, then those of the next one. The fuel bounds the levels. -/
def fillLevels : Nat → Maker Unit
  | 0 => malformed
  | fuel + 1 => do
    match (← get).pending.reverse with
    | [] => return
    | level =>
      modify fun s => { s with pending := [] }
      level.forM fill
      fillLevels fuel

/-- Makes the values of all nodes that a node leads to. -/
def makeAll (i : Nat) : Maker Unit := do
  let _ ← make i
  fillLevels ((← get).graph.size + 2)

end Maker

/-- How many entries the mappings of a graph have. -/
def Graph.entryCount (g : Graph) : Nat :=
  g.foldl (fun n node => match node.content with
    | .map entries => n + entries.length
    | _ => n) 0

/-- The values of the nodes of a graph that a node leads to. -/
def Graph.values (g : Graph) (i : Nat) : Except ReadFault (Array (Option Value)) :=
  let start : Making :=
    { graph := g, bound := g.entryCount + 1, values := Array.replicate g.size none }
  ((Maker.makeAll i).run start).map fun (_, s) => s.values

end WeakestPre.Yaml
