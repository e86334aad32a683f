/-!
# Text with surrogates

A surrogate is a code point that is no character; a pair of them serves to write one that has a
large code. Escapes may name surrogates one by one. So text that comes from escapes is a list of
code points (`Wide`), which is a string only if there is no surrogate in it. Two surrogates that
stand side by side are still two code points.
-/

namespace WeakestPre.Text

inductive CodePoint where
  | char (c : Char)
  /-- The surrogate so far behind the first one. -/
  | surrogate (offset : Fin 0x800)
  deriving DecidableEq, Repr

/-- The code of the first surrogate. -/
def firstSurrogate : Nat := 0xd800

namespace CodePoint

/-- The code point with a code below `110000`. -/
def ofNat (n : Nat) : CodePoint :=
  if n.isValidChar then .char (Char.ofNat n) else .surrogate (Fin.ofNat 0x800 (n - firstSurrogate))

def toNat : CodePoint → Nat
  | .char c => c.toNat
  | .surrogate offset => firstSurrogate + offset

def char? : CodePoint → Option Char
  | .char c => some c
  | .surrogate _ => none

/-- The character itself, or the one that stands for what is no character. -/
def nearest : CodePoint → Char
  | .char c => c
  | .surrogate _ => Char.ofNat 0xfffd

/-- The character that a high and a low surrogate write as a pair, by their codes. -/
def ofPair? (high low : Nat) : Option CodePoint :=
  if 0xd800 ≤ high ∧ high < 0xdc00 ∧ 0xdc00 ≤ low ∧ low < 0xe000 then
    some (.char (Char.ofNat (0x10000 + 0x400 * (high - 0xd800) + (low - 0xdc00))))
  else none

end CodePoint

/-- Text that may hold surrogates. -/
abbrev Wide := List CodePoint

/-- The code points of a string. -/
def wide (s : String) : Wide := s.toList.map .char

instance : Coe String Wide := ⟨wide⟩

/-- The string of a text without surrogates. -/
def string? (w : Wide) : Option String := (w.mapM CodePoint.char?).map String.ofList

/-- The string of a text, with replacement characters for the surrogates. -/
def nearest (w : Wide) : String := String.ofList (w.map CodePoint.nearest)

end WeakestPre.Text
