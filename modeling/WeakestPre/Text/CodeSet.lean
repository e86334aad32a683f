/-!
# Sets of code points

A Unicode property is stored as the increasing list of the code points at which membership
changes: everything below the first is outside, everything from the first up to the second is
inside, and so on in turn.
-/

namespace WeakestPre.Text

/-- A set of code points, by the points at which membership changes. -/
structure CodeSet where
  switches : List Nat

namespace CodeSet

/-- Whether `n` lies inside, when membership is `inside` up to the next switch. -/
def insideAt (n : Nat) : Bool → List Nat → Bool
  | inside, [] => inside
  | inside, s :: rest => if n < s then inside else insideAt n (!inside) rest

def contains (set : CodeSet) (c : Char) : Bool := insideAt c.toNat false set.switches

/-- The start of the run that holds `n`, where a run starts at every second switch. -/
def runStart? (n : Nat) : List Nat → Option Nat
  | first :: stop :: rest =>
    if n < first then none else if n < stop then some first else runStart? n rest
  | _ => none

end CodeSet

end WeakestPre.Text
