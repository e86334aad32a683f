import WeakestPre.Document.Basic

/-!
# The order of a set

A set of numbers is shown in the order of the cells that hold them.

**Cells.** There are eight cells for up to four members. For more there are as many as the least
power of two beyond twice their number.

**Places.** The members are put into cells in the order in which they are given. The residue of a
number tells the cell where it belongs. If that cell is taken, it goes to one of the next cells; and
if these are taken, the search goes on elsewhere, led by the higher digits of the residue.

Only numbers have a residue that is the same in every run. A set with any other member is shown in
the order in which its members are given.
-/

namespace WeakestPre.Document

/-- The prime by which numbers are divided for their residues. -/
def residuePrime : Nat := 0x1fffffffffffffff

/-- How many residues there are, the negative ones among them. -/
def residueCount : Nat := 0x10000000000000000

/-- The residue of a number from the one of its magnitude. Minus one is not used. -/
def signedResidue (negative : Bool) (r : Nat) : Nat :=
  if negative then (residueCount - if r = 1 then 2 else r) % residueCount else r

/-- The residue of an infinite number. -/
def infiniteResidue : Nat := 314159

/-- The residue of a number. A real counts in units of which `2 ^ 1074` are one, and dividing by
that is multiplying by `2 ^ 24` modulo the prime. -/
def residue? : Document → Option Nat
  | .bool b => some (if b then 1 else 0)
  | .int n => some (signedResidue (n < 0) (n.natAbs % residuePrime))
  | .real x =>
    if x.isFinite then some (signedResidue x.isNegative ((x.absUnits <<< 24) % residuePrime))
    else if x.isInfinite then some (signedResidue x.isNegative infiniteResidue)
    else none
  | _ => none

/-- How many cells there are for so many members. -/
def cellCount (members : Nat) : Nat :=
  if members ≤ 4 then 8 else 1 <<< (Nat.log2 (2 * members) + 1)

/-- The cells of a set. -/
abbrev Cells := Array (Option Document)

/-- A free cell, from cell `i` on. Nine more cells are tried if there are as many, before the search
goes on elsewhere. The fuel bounds how often it does. -/
def freeCell? (cells : Cells) : Nat → Nat → Nat → Option Nat
  | 0, _, _ => none
  | fuel + 1, i, lead =>
    let near := List.range' i (if i + 9 < cells.size then 10 else 1)
    match near.find? fun j => (cells.getD j none).isNone with
    | some j => some j
    | none => freeCell? cells fuel ((5 * i + 1 + lead >>> 5) % cells.size) (lead >>> 5)

/-- The cells with one more member, which has the residue `r`. -/
def putMember (cells : Cells) (d : Document) (r : Nat) : Cells :=
  match freeCell? cells (cells.size + 64) (r % cells.size) r with
  | some j => cells.setIfInBounds j (some d)
  | none => cells

/-- The members of a set in the order in which they are shown. -/
def setOrder (members : List Document) : List Document :=
  match members.mapM residue? with
  | none => members
  | some residues =>
    let cells : Cells := Array.replicate (cellCount members.length) none
    let full := (members.zip residues).foldl (fun cells (d, r) => putMember cells d r) cells
    full.toList.filterMap id

end WeakestPre.Document
