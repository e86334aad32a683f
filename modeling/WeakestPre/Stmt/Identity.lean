import WeakestPre.Stack
import WeakestPre.Stmt.Similar

/-!
# Equality of statements with common parts

Statements are compared part by part, and a part that is one object in both of them is not looked
at: it passes for equal. So it matters which parts two statements have in common (`Sharing`), and a
statement may be equal to itself where it is not similar to itself.

**On a stack** (`equalsWithin`). A comparison calls itself for the statements within a statement. It
gives no answer where the stack has no room for that.
-/

namespace WeakestPre

/-- Which parts are one object in two statements. A part is given by its address: the indices of the
parts to go into. The value of an assignment and the list of a sequence have the index 0, and the
parts of a conditional the indices 0, 1 and 2. -/
abbrev Sharing := List Nat → Bool

namespace Sharing

/-- Nothing is shared. -/
def nothing : Sharing := fun _ => false

/-- What is shared within the part with an index. -/
def within (one : Sharing) (i : Nat) : Sharing := fun address => one (i :: address)

end Sharing

namespace Stmt

mutual

def equals (one : Sharing) : Stmt → Stmt → Bool
  | .assign x e, .assign y e' => x == y && (one [0] || e.similar e')
  | .seq body, .seq body' => one [0] || equalsAll (one.within 0) 0 body body'
  | .cond b s t, .cond b' s' t' =>
    (one [0] || b.similar b') && (one [1] || equals (one.within 1) s s') &&
      (one [2] || equals (one.within 2) t t')
  | _, _ => false

/-- Equality of lists whose first elements have the index `i`. -/
def equalsAll (one : Sharing) (i : Nat) : List Stmt → List Stmt → Bool
  | [], [] => true
  | s :: rest, s' :: rest' =>
    (one [i] || equals (one.within i) s s') && equalsAll one (i + 1) rest rest'
  | _, _ => false

end

/-- Two comparisons, where the second is made only if the first finds no difference. -/
def both (first second : Option Bool) : Option Bool :=
  first.bind fun equal => if equal then second else some false

/-- The comparison of a part, which is not made if the part is one object. -/
def unlessOne (isOne : Bool) (comparison : Option Bool) : Option Bool :=
  if isOne then some true else comparison

mutual

/-- Equality with `used` levels of the stack taken. -/
def equalsWithin (k : Stack) (used : Nat) (one : Sharing) : Stmt → Stmt → Option Bool
  | .assign x e, .assign y e' =>
    k.within (used + k.comparison.node) (some (x == y && (one [0] || e.similar e')))
  | .seq body, .seq body' =>
    let inner := used + k.comparison.element
    k.within (used + k.comparison.node)
      (unlessOne (one [0]) (equalsAllWithin k inner (one.within 0) 0 body body'))
  | .cond b s t, .cond b' s' t' =>
    let inner := used + k.comparison.branch
    k.within (used + k.comparison.node) (both (some (one [0] || b.similar b'))
      (both (unlessOne (one [1]) (equalsWithin k inner (one.within 1) s s'))
        (unlessOne (one [2]) (equalsWithin k inner (one.within 2) t t'))))
  | _, _ => some false

def equalsAllWithin (k : Stack) (used : Nat) (one : Sharing) (i : Nat) :
    List Stmt → List Stmt → Option Bool
  | [], [] => some true
  | s :: rest, s' :: rest' =>
    both (unlessOne (one [i]) (equalsWithin k used (one.within i) s s'))
      (equalsAllWithin k used one (i + 1) rest rest')
  | _, _ => some false

end

end Stmt

end WeakestPre
