import WeakestPre.Text.Letter
import WeakestPre.Text.Numeric

/-!
# Character classes of the language

What a character may be in program text: blank between lexemes, part of a numeral, or the start
or a part of a word. Blanks also delimit names and step descriptions, so `strip` and `isBlankText`
stand here as well.
-/

namespace WeakestPre.Text

/-- White space, the separators of the ASCII control block included. -/
def isBlank (c : Char) : Bool :=
  let n := c.toNat
  (0x09 ≤ n && n ≤ 0x0d) || (0x1c ≤ n && n ≤ 0x20) || n == 0x85 || n == 0xa0 || n == 0x1680 ||
    (0x2000 ≤ n && n ≤ 0x200a) || n == 0x2028 || n == 0x2029 || n == 0x202f || n == 0x205f ||
    n == 0x3000

def isLetter (c : Char) : Bool := letters.contains c

def isDigit (c : Char) : Bool := digits.contains c

def isNumeric (c : Char) : Bool := numerics.contains c

/-- The value of a digit of some positional system. -/
def decimalValue? (c : Char) : Option Nat :=
  (CodeSet.runStart? c.toNat decimals.switches).map fun first => (c.toNat - first) % 10

/-- A numeral is a run of digits and points. -/
def isNumeralPart (c : Char) : Bool := isDigit c || c == '.'

def isWordStart (c : Char) : Bool := isLetter c || c == '_'

def isWordPart (c : Char) : Bool := isLetter c || isNumeric c || c == '_'

/-- The text without the blanks at its two ends. -/
def strip (s : String) : String :=
  String.ofList (((s.toList.dropWhile isBlank).reverse.dropWhile isBlank).reverse)

def isBlankText (s : String) : Bool := s.toList.all isBlank

end WeakestPre.Text
