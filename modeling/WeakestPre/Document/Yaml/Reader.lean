import WeakestPre.Document.SetOrder
import WeakestPre.Document.Yaml.Value

/-!
# YAML text

A text holds one document, or none, which counts as null. It is read as a graph, whose nodes get
their values; then the values are unfolded.

**Unfolding.** A collection that is part of itself is unfolded once, and stands as a mark within
itself. The values of the outermost mapping are unfolded each by itself, so that the mapping may
stand in full in one of them.
-/

namespace WeakestPre.Yaml

/-- The documents that were unfolded without a mark in them, by the index of their nodes. -/
abbrev Unfolded := Array (Option Document)

/-- The documents of several nodes, and whether none of them holds a mark. -/
def unfoldAll (unfold : Nat → StateM Unfolded (Document × Bool)) (items : List Nat) :
    StateM Unfolded (List Document × Bool) := do
  let ds ← items.mapM unfold
  return (ds.map (·.1), ds.all (·.2))

/-- The document of a value, and whether it holds no mark. Its parts are unfolded by `unfold`. -/
def unfoldValue (unfold : Nat → StateM Unfolded (Document × Bool)) :
    Value → StateM Unfolded (Document × Bool)
  | .simple s => return (s.document, true)
  | .set members => return (.set (Document.setOrder (members.map (·.document))), true)
  | .list items => do
    let (ds, whole) ← unfoldAll unfold items
    return (.list ds, whole)
  | .pairs items => do
    let (firsts, whole) ← unfoldAll unfold (items.map (·.1))
    let (seconds, whole') ← unfoldAll unfold (items.map (·.2))
    return (.list (List.zipWith .pair firsts seconds), whole && whole')
  | .map entries => do
    let (ds, whole) ← unfoldAll unfold (entries.map (·.2))
    return (.map (List.zipWith (fun e d => (e.1.document, d)) entries ds), whole)

/-- The mark of a collection within itself. -/
def Value.mark : Value → Document
  | .map _ => .loop true
  | _ => .loop false

/-- The document of a node within the nodes in `outer`, and whether it holds no mark. The fuel
bounds the depth. -/
def unfold (values : Array (Option Value)) : Nat → List Nat → Nat →
    StateM Unfolded (Document × Bool)
  | 0, _, _ => return (.null, true)
  | fuel + 1, outer, i => do
    match (← get).getD i none, values.getD i none with
    | some d, _ => return (d, true)
    | none, none => return (.null, true)
    | none, some v =>
      if outer.contains i then return (v.mark, false)
      else
        let (d, whole) ← unfoldValue (unfold values fuel (i :: outer)) v
        if whole then modify fun s => s.setIfInBounds i (some d)
        return (d, whole)

/-- The document of the outermost node. -/
def unfoldRoot (values : Array (Option Value)) (root : Nat) : StateM Unfolded Document := do
  let fuel := values.size + 1
  match values.getD root none with
  | some (.map entries) =>
    let (ds, _) ← unfoldAll (unfold values fuel []) (entries.map (·.2))
    return .map (List.zipWith (fun e d => (e.1.document, d)) entries ds)
  | _ => return (← unfold values fuel [] root).1

/-- The document of a text. -/
def read (s : String) : Except ReadFault Document := do
  let cs := s.toList
  if cs.any isForbidden then .error .malformed
  else
    let (g, root) ← Graph.ofText (if cs.head?.any isOrderMark then cs.tail else cs)
    let values ← g.values root
    let (d, _) := (unfoldRoot values root).run (Array.replicate values.size none)
    return d

end WeakestPre.Yaml
