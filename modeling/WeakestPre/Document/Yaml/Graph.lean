import WeakestPre.Document.Yaml.Scalar
import WeakestPre.Document.Yaml.Token

/-!
# The graph of a text

A text is read as a graph. Its nodes are scalars, lists and mappings, each with a tag, and are known
by their index; a list or a mapping holds the indices of its parts.

**Names.** A node may be given a name, once, and be referred to by it from then on, also from within
itself. So a node may be part of several others, and of itself.

**Faults.** Tokens may stop short of the end of a text. What is wrong with the tokens before that
counts first.
-/

namespace WeakestPre.Yaml

inductive Content where
  | scalar (text : Text.Wide)
  | list (items : List Nat)
  | map (entries : List (Nat × Nat))
  deriving DecidableEq, Repr

structure Node where
  tag : Tag
  content : Content
  deriving DecidableEq, Repr

/-- What stands where a node is missing. -/
def Node.empty : Node := ⟨.null, .scalar []⟩

/-- The nodes of a text by their index. -/
abbrev Graph := Array Node

def Graph.node (g : Graph) (i : Nat) : Node := g.getD i Node.empty

/-- The tokens to be read, and what is known from those before. -/
structure Progress where
  tokens : List Token
  /-- Why there are no more tokens. -/
  stop : ReadFault
  graph : Graph := #[]
  named : List (String × Nat) := []
  handles : Handles := knownHandles

abbrev GraphReader := StateT Progress (Except ReadFault)

namespace GraphReader

variable {α : Type}

def malformed : GraphReader α := throw .malformed

/-! ## Tokens -/

/-- The token ahead. -/
def ahead : GraphReader Token := do
  let s ← get
  match s.tokens with
  | [] => throw s.stop
  | t :: _ => return t

def advance : GraphReader Unit := modify fun s => { s with tokens := s.tokens.tail }

def expect (t : Token) : GraphReader Unit := do
  if (← ahead) = t then advance else malformed

/-- What `item` reads, as long as it is announced by a token. -/
def many (announced : Token) (item : GraphReader α) : Nat → List α → GraphReader (List α)
  | 0, _ => malformed
  | fuel + 1, acc => do
    if (← ahead) = announced then
      let a ← item
      many announced item fuel (a :: acc)
    else return acc.reverse

/-- What `item` reads, with commas between, up to a closing token. A comma may stand at the end. -/
def separated (closing : Token) (item : GraphReader α) : Nat → List α → GraphReader (List α)
  | 0, _ => malformed
  | fuel + 1, acc => do
    if (← ahead) = closing then
      advance
      return acc.reverse
    else
      let a ← item
      match ← ahead with
      | .comma =>
        advance
        separated closing item fuel (a :: acc)
      | t =>
        if t = closing then
          advance
          return (a :: acc).reverse
        else malformed

/-- As many steps as there are tokens. -/
def bound : GraphReader Nat := do return (← get).tokens.length

/-! ## Nodes -/

/-- A new node. -/
def add (n : Node) : GraphReader Nat :=
  modifyGet fun s => (s.graph.size, { s with graph := s.graph.push n })

/-- Tells what a node holds. -/
def fill (i : Nat) (content : Content) : GraphReader Unit :=
  modify fun s => { s with graph := s.graph.modify i fun n => { n with content } }

/-- A node, which is empty if one of the tokens `ends` comes next. -/
def part (ends : List Token) (inner : GraphReader Nat) : GraphReader Nat := do
  if ends.contains (← ahead) then add .empty else inner

/-- The entry of a mapping, from its key token on. -/
def entry (ends : List Token) (inner : GraphReader Nat) : GraphReader (Nat × Nat) := do
  advance
  let key ← part (.colon :: ends) inner
  if (← ahead) = .colon then
    advance
    return (key, ← part ends inner)
  else return (key, ← add .empty)

/-- The item of a list in brackets; an entry is a mapping of its own. -/
def flowItem (inner : GraphReader Nat) : GraphReader Nat := do
  if (← ahead) = .key then
    let e ← entry [.comma, .flowListEnd] inner
    add ⟨.map, .map [e]⟩
  else inner

/-- The entry of a mapping in braces; a node alone is a key. -/
def flowEntry (inner : GraphReader Nat) : GraphReader (Nat × Nat) := do
  if (← ahead) = .key then entry [.comma, .flowMapEnd] inner
  else
    let key ← inner
    return (key, ← add .empty)

/-- The item of a block list, from its dash on. -/
def blockItem (ends : List Token) (inner : GraphReader Nat) : GraphReader Nat := do
  advance
  part (.dash :: ends) inner

/-- What starts with a token. -/
inductive Kind where
  | scalar (plain : Bool) (text : Text.Wide)
  | flowList
  | flowMap
  | flushList
  | blockList
  | blockMap

/-- The kind of node that starts with a token. A block collection may stand here only if `inBlock`,
and a list whose dashes are not indented only if `flush`. -/
def kind? (inBlock flush : Bool) : Token → Option Kind
  | .scalar plain text => some (.scalar plain text)
  | .flowListStart => some .flowList
  | .flowMapStart => some .flowMap
  | .dash => if flush then some .flushList else none
  | .listStart => if inBlock then some .blockList else none
  | .mapStart => if inBlock then some .blockMap else none
  | _ => none

/-- The tag of a node: the one that is given, or the one that goes by its kind. A plain scalar
without a tag goes by its form, and so does any scalar with a lone `!`. -/
def tagOf (tag? : Option String) (kind : Kind) : Tag :=
  match tag?.filter (· != "!"), kind with
  | some name, _ => .ofName name
  | none, .scalar plain text => if plain || tag?.isSome then .ofForm (Text.nearest text) else .text
  | none, .flowList | none, .flushList | none, .blockList => .list
  | none, .flowMap | none, .blockMap => .map

/-- What a node holds, from the token ahead on; `inner` reads the nodes within. -/
def content (inner : Bool → Bool → GraphReader Nat) : Kind → GraphReader Content
  | .scalar _ text => do
    advance
    return .scalar text
  | .flowList => do
    advance
    return .list (← separated .flowListEnd (flowItem (inner false false)) (← bound) [])
  | .flowMap => do
    advance
    return .map (← separated .flowMapEnd (flowEntry (inner false false)) (← bound) [])
  | .flushList => do
    let item := blockItem [.key, .colon, .blockEnd] (inner true false)
    return .list (← many .dash item (← bound) [])
  | .blockList => do
    advance
    let items ← many .dash (blockItem [.blockEnd] (inner true false)) (← bound) []
    expect .blockEnd
    return .list items
  | .blockMap => do
    advance
    let entries ← many .key (entry [.key, .blockEnd] (inner true true)) (← bound) []
    expect .blockEnd
    return .map entries

/-! ## Names and tags -/

/-- The node with a name. -/
def called (name : String) : GraphReader Nat := do
  match (← get).named.lookup name with
  | some i => return i
  | none => malformed

/-- Gives a node a name, which must be new. -/
def setName (name? : Option String) (i : Nat) : GraphReader Unit := do
  match name? with
  | none => return
  | some name =>
    if ((← get).named.lookup name).isSome then malformed
    else modify fun s => { s with named := (name, i) :: s.named }

/-- The name of a tag in full. -/
def fullTag (handle? : Option String) (name : String) : GraphReader String := do
  match handle? with
  | none => return name
  | some handle =>
    match (← get).handles.lookup handle with
    | some meaning => return meaning ++ name
    | none => malformed

/-- The name of the node ahead, if one is given. -/
def nameAhead : GraphReader (Option String) := do
  match ← ahead with
  | .anchor name =>
    advance
    return some name
  | _ => return none

/-- The tag of the node ahead, if one is given. -/
def tagAhead : GraphReader (Option (Option String × String)) := do
  match ← ahead with
  | .tag handle? name =>
    advance
    return some (handle?, name)
  | _ => return none

/-- The name and the tag of the node ahead, in either order. -/
def properties : GraphReader (Option String × Option String) := do
  let first? ← nameAhead
  let tag? ← tagAhead
  let name? ← if first?.isNone && tag?.isSome then nameAhead else pure first?
  match tag? with
  | some (handle?, name) => return (name?, some (← fullTag handle? name))
  | none => return (name?, none)

/-- A node with its name and its tag. Only a node with one of these may hold nothing. -/
def node : Nat → Bool → Bool → GraphReader Nat
  | 0, _, _ => throw (.tooDeep .node)
  | depth + 1, inBlock, flush => do
    match ← ahead with
    | .reference name =>
      advance
      called name
    | _ =>
      let (name?, tag?) ← properties
      match kind? inBlock flush (← ahead) with
      | some kind =>
        let i ← add ⟨tagOf tag? kind, .scalar []⟩
        setName name? i
        fill i (← content (node depth) kind)
        return i
      | none =>
        if name?.isSome || tag?.isSome then
          let i ← add ⟨tagOf tag? (.scalar true []), .scalar []⟩
          setName name? i
          return i
        else malformed

/-! ## Documents -/

/-- The directives in front of a document, after those that tell of a version and of handles. -/
def directives : Nat → Bool → Handles → GraphReader Unit
  | 0, _, _ => malformed
  | fuel + 1, versioned, handles => do
    match ← ahead with
    | .directive (.version major _) =>
      if versioned || major ≠ 1 then malformed
      else
        advance
        directives fuel true handles
    | .directive (.handle name meaning) =>
      if (handles.lookup name).isSome then malformed
      else
        advance
        directives fuel versioned ((name, meaning) :: handles)
    | .directive .unknown =>
      advance
      directives fuel versioned handles
    | _ => modify fun s => { s with handles := handles ++ knownHandles }

/-- The end of a document, which is the end of the text. -/
def finish (root : Nat) : GraphReader Nat := do
  let _ ← many .documentEnd advance (← bound) []
  expect .textEnd
  return root

def root : GraphReader Nat := node deepestNesting true false

/-- Whether a document starts with a mark, which directives may stand in front of. -/
def startsMarked : Token → Bool
  | .documentStart | .directive _ => true
  | _ => false

/-- A document behind its mark may hold nothing. -/
def markedRoot : GraphReader Nat := do
  match ← ahead with
  | .directive _ => add .empty
  | _ => part [.documentStart, .documentEnd, .textEnd] root

/-- The only document, up to the end of the text; a text without one holds an empty node. -/
def document : GraphReader Nat := do
  let t ← ahead
  if startsMarked t then
    directives (← bound) false []
    expect .documentStart
    finish (← markedRoot)
  else if t = .textEnd then add .empty
  else finish (← root)

end GraphReader

/-- The graph of a text and the index of its outermost node. -/
def Graph.ofText (cs : List Char) : Except ReadFault (Graph × Nat) :=
  let (tokens, stop?) := tokens cs
  (GraphReader.document.run { tokens, stop := stop?.getD .malformed }).map fun (i, s) =>
    (s.graph, i)

end WeakestPre.Yaml
