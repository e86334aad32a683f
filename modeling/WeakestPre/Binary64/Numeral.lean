import WeakestPre.Binary64.Basic
import WeakestPre.Text.Class

/-!
# Reading numerals

A numeral is a sign, then `inf`, `infinity` or `nan` in any case, or a decimal with an optional
fraction and exponent. Blanks may stand around it. The digits may come from any positional system,
and a single underscore may stand between two digits.
-/

namespace WeakestPre.Binary64

/-- Blanks that may stand around a numeral, once other scripts are mapped away. -/
def isPadding (c : Char) : Bool := c == ' ' || ('\t' ≤ c && c ≤ '\r')

/-- Digits and blanks beyond ASCII by their ASCII form; all else beyond ASCII fits no numeral. -/
def asciiForm (c : Char) : Char :=
  if c.toNat < 127 then c
  else if Text.isBlank c then ' '
  else match Text.decimalValue? c with
    | some d => Char.ofNat ('0'.toNat + d)
    | none => '?'

/-- The characters without underscores, each of which must stand between two digits. -/
def joinDigits? (before : Char) : List Char → Option (List Char)
  | [] => if before = '_' then none else some []
  | c :: rest =>
    if c = '_' then if before.isDigit then joinDigits? c rest else none
    else if before = '_' ∧ !c.isDigit then none
    else (joinDigits? c rest).map (c :: ·)

/-- The number that a run of ASCII digits writes. -/
def readDigits (ds : List Char) : Nat :=
  ds.foldl (fun n d => 10 * n + (d.toNat - '0'.toNat)) 0

/-- The sign in front, and the rest. -/
def takeSign : List Char → Bool × List Char
  | '-' :: rest => (true, rest)
  | '+' :: rest => (false, rest)
  | cs => (false, cs)

/-- The exponent of a decimal: nothing, or `e` and a signed run of digits. -/
def readExponent? : List Char → Option Int
  | [] => some 0
  | e :: rest =>
    if e = 'e' ∨ e = 'E' then
      let (negative, ds) := takeSign rest
      if ds ≠ [] ∧ ds.all Char.isDigit then
        some (if negative then -(readDigits ds : Int) else readDigits ds)
      else none
    else none

/-- A decimal without sign. -/
def readDecimal? (negative : Bool) (cs : List Char) : Option Binary64 :=
  let whole := cs.takeWhile Char.isDigit
  let rest := cs.dropWhile Char.isDigit
  let (fraction, rest) := match rest with
    | '.' :: rest => (rest.takeWhile Char.isDigit, rest.dropWhile Char.isDigit)
    | rest => ([], rest)
  if whole = [] ∧ fraction = [] then none
  else (readExponent? rest).map fun e =>
    ofDecimal negative (readDigits (whole ++ fraction)) (e - fraction.length)

/-- A numeral in ASCII, without padding and underscores. -/
def readAscii? (cs : List Char) : Option Binary64 :=
  let (negative, body) := takeSign cs
  match String.ofList (body.map Char.toLower) with
  | "inf" | "infinity" => some (infinity negative)
  | "nan" => some nan
  | _ => readDecimal? negative body

/-- The number that a text writes. -/
def ofNumeral? (s : String) : Option Binary64 :=
  let cs := (s.toList.map asciiForm).dropWhile isPadding
  (joinDigits? ' ' (cs.reverse.dropWhile isPadding).reverse).bind readAscii?

end WeakestPre.Binary64
