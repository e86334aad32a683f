import WeakestPre.Text.CodePoint
import WeakestPre.Text.Hex
import WeakestPre.Text.Printable

/-!
# Quoted text

Text between quotes on one line, every character visible. The quote is `'`, or `"` where the text
holds a `'` and no `"`. The quote and the backslash are escaped, line feed, return and tab have
short escapes, and every other character that does not print is written by its code point.
-/

namespace WeakestPre.Text

/-- The escape of a character by its code point. -/
def escapeCode (n : Nat) : List Char :=
  if n < 0x100 then '\\' :: 'x' :: hexDigits 2 n
  else if n < 0x10000 then '\\' :: 'u' :: hexDigits 4 n
  else '\\' :: 'U' :: hexDigits 8 n

def quotedChar (quote c : Char) : List Char :=
  if c = quote ∨ c = '\\' then ['\\', c]
  else if c = '\n' then ['\\', 'n']
  else if c = '\r' then ['\\', 'r']
  else if c = '\t' then ['\\', 't']
  else if printables.contains c then [c]
  else escapeCode c.toNat

/-- The quote that needs the fewest escapes, `'` if it makes no difference. -/
def quoteFor (cs : List Char) : Char :=
  if cs.contains '\'' && !cs.contains '"' then '"' else '\''

def quoted (s : String) : String :=
  let cs := s.toList
  let q := quoteFor cs
  String.ofList (q :: cs.flatMap (quotedChar q) ++ [q])

/-- Text between quotes; surrogates are escaped. -/
def quotedWide (w : Wide) : String :=
  let q := quoteFor (w.map CodePoint.nearest)
  let piece := fun
    | .char c => quotedChar q c
    | p => escapeCode (CodePoint.toNat p)
  String.ofList (q :: w.flatMap piece ++ [q])

/-- Bytes between quotes; those that are no printing ASCII characters are escaped. -/
def quotedBytes (bytes : List UInt8) : String :=
  let cs := bytes.map fun b => Char.ofNat b.toNat
  let q := quoteFor cs
  let piece := fun (c : Char) => if c.toNat < 0x80 then quotedChar q c else escapeCode c.toNat
  String.ofList (q :: cs.flatMap piece ++ [q])

end WeakestPre.Text
