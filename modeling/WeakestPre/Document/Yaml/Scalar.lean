import WeakestPre.Binary64.Numeral
import WeakestPre.Document.Basic
import WeakestPre.Document.Yaml.Tag
import WeakestPre.Text.Base64
import WeakestPre.Text.Casing

/-!
# Scalars

**Form.** A scalar without a tag stands for null, a boolean, an integer, a real or a moment if it is
written like one, and for its own text otherwise (`Tag.ofForm`). Integers may be binary, octal,
hexadecimal or given in base sixty; a real needs a point, and its exponent a sign. Underscores are
ignored. A line break at the end does not count.

**Value.** What a scalar with a tag stands for is read off more freely (`scalarValue`): numbers may
have blanks around them and the digits of any script, and an integer may have a second sign. What
has the form of a number or a moment may still stand for none.
-/

namespace WeakestPre.Yaml

/-! ## The form of integers -/

def isBinary (c : Char) : Bool := c == '0' || c == '1' || c == '_'

def isOctal (c : Char) : Bool := ('0' ≤ c && c ≤ '7') || c == '_'

def isDecimal (c : Char) : Bool := c.isDigit || c == '_'

def isHexadecimal (c : Char) : Bool := (Text.hexValue? c).isSome || c == '_'

/-- A digit of base sixty: one or two decimal digits, below sixty. -/
def isSixtieth : List Char → Bool
  | [d] => d.isDigit
  | [t, d] => '0' ≤ t && t ≤ '5' && d.isDigit
  | _ => false

/-- The parts of a list between the places of `mark`. -/
def partsBetween {α : Type} [DecidableEq α] (mark : α) : List α → List (List α)
  | [] => [[]]
  | a :: rest =>
    if a = mark then [] :: partsBetween mark rest
    else match partsBetween mark rest with
      | [] => [[a]]
      | part :: parts => (a :: part) :: parts

/-- An integer without sign. -/
def isNatural : List Char → Bool
  | ['0'] => true
  | '0' :: 'b' :: ds => !ds.isEmpty && ds.all isBinary
  | '0' :: 'x' :: ds => !ds.isEmpty && ds.all isHexadecimal
  | '0' :: ds => ds.all isOctal
  | d :: rest =>
    d.isDigit && match partsBetween ':' (d :: rest) with
      | ds :: parts => ds.all isDecimal && parts.all isSixtieth
      | [] => false
  | [] => false

def isInteger (cs : List Char) : Bool := isNatural (Binary64.takeSign cs).2

/-! ## The form of reals -/

/-- Nothing, or an exponent with its sign. -/
def isExponent : List Char → Bool
  | [] => true
  | e :: sign :: ds =>
    (e == 'e' || e == 'E') && (sign == '+' || sign == '-') && ds != [] && ds.all Char.isDigit
  | _ => false

/-- The two sides of the first point. -/
def splitPoint (cs : List Char) : Option (List Char × List Char) :=
  match cs.dropWhile (· != '.') with
  | '.' :: rest => some (cs.takeWhile (· != '.'), rest)
  | _ => none

/-- A decimal with digits on at least one side of its point. Without digits before the point there
is no sign. -/
def isPointed (signed : Bool) (body : List Char) : Bool :=
  match splitPoint body with
  | none => false
  | some (whole, rest) =>
    let fraction := rest.takeWhile isDecimal
    isExponent (rest.dropWhile isDecimal) &&
      match whole, fraction with
      | [], d :: _ => !signed && d.isDigit
      | [], [] => false
      | d :: _, _ => d.isDigit && whole.all isDecimal

/-- A real in base sixty, with a point in its last digit. -/
def isSixtyReal (body : List Char) : Bool :=
  match splitPoint body with
  | none => false
  | some (whole, fraction) =>
    match partsBetween ':' whole with
    | ds :: part :: parts =>
      ds.head?.any Char.isDigit && ds.all isDecimal && (part :: parts).all isSixtieth &&
        fraction.all isDecimal
    | _ => false

def isReal (cs : List Char) : Bool :=
  let body := (Binary64.takeSign cs).2
  let signed := body.length != cs.length
  match String.ofList body with
  | ".inf" | ".Inf" | ".INF" => true
  | ".nan" | ".NaN" | ".NAN" => !signed
  | _ => isPointed signed body || isSixtyReal body

/-! ## Moments -/

/-- The number that between `least` and `most` digits write, as many as there are, and the rest. -/
def someDigits? (least most : Nat) (cs : List Char) : Option (Nat × List Char) :=
  let ds := (cs.take most).takeWhile Char.isDigit
  if ds.length < least then none else some (Binary64.readDigits ds, cs.drop ds.length)

/-- The rest behind a character. -/
def behind? (c : Char) : List Char → Option (List Char)
  | d :: rest => if d = c then some rest else none
  | [] => none

/-- A date, with at least so many digits for month and day, and the rest. -/
def date? (least : Nat) (cs : List Char) : Option (Moment × List Char) := do
  let (year, cs) ← someDigits? 4 4 cs
  let (month, cs) ← someDigits? least 2 (← behind? '-' cs)
  let (day, cs) ← someDigits? least 2 (← behind? '-' cs)
  return ({ year, month, day }, cs)

/-- The offset of a time in minutes, if it has one. Nothing may follow. -/
def offset? (cs : List Char) : Option (Option Int) :=
  match cs, cs.dropWhile isSpacing with
  | [], _ => some none
  | _, ['Z'] => some (some 0)
  | _, sign :: rest => do
    if sign ≠ '+' ∧ sign ≠ '-' then none
    else
      let (hours, rest) ← someDigits? 1 2 rest
      let (minutes, rest) ← match rest with
        | ':' :: rest => someDigits? 2 2 rest
        | rest => some (0, rest)
      let total : Int := 60 * hours + minutes
      if rest.isEmpty then return some (if sign = '-' then -total else total) else none
  | _, [] => none

/-- The millionths of a second that the digits of a fraction give; further digits are cut off. -/
def microseconds (ds : List Char) : Nat :=
  Binary64.readDigits (ds.take 6) * Nat.pow 10 (6 - ds.length)

def clock? (cs : List Char) : Option Clock := do
  let (hour, cs) ← someDigits? 1 2 cs
  let (minute, cs) ← someDigits? 2 2 (← behind? ':' cs)
  let (second, cs) ← someDigits? 2 2 (← behind? ':' cs)
  let (fraction, cs) := match cs with
    | '.' :: rest => (rest.takeWhile Char.isDigit, rest.dropWhile Char.isDigit)
    | cs => ([], cs)
  return { hour, minute, second, microsecond := microseconds fraction, offset? := ← offset? cs }

/-- The rest behind what stands between a date and a time: a letter or blanks. -/
def behindDate? : List Char → Option (List Char)
  | 'T' :: rest | 't' :: rest => some rest
  | c :: rest => if isSpacing c then some (rest.dropWhile isSpacing) else none
  | [] => none

def dateTime? (cs : List Char) : Option Moment := do
  let (date, rest) ← date? 1 cs
  return { date with clock? := some (← clock? (← behindDate? rest)) }

/-- A moment; a date alone has at least so many digits for month and day. -/
def moment? (least : Nat) (cs : List Char) : Option Moment :=
  match date? least cs with
  | some (m, []) => some m
  | _ => dateTime? cs

/-! ## The tag of a form -/

def isBoolean (s : String) : Bool :=
  ["yes", "Yes", "YES", "no", "No", "NO", "true", "True", "TRUE", "false", "False", "FALSE", "on",
    "On", "ON", "off", "Off", "OFF"].contains s

def isNull (s : String) : Bool := ["~", "null", "Null", "NULL"].contains s

/-- Marks that stand for no value. -/
def isReserved (s : String) : Bool := ["!", "&", "*"].contains s

/-- Without a line break at the end. -/
def dropBreak (cs : List Char) : List Char :=
  if cs.getLast? == some '\n' then cs.dropLast else cs

/-- What a scalar without a tag stands for. -/
def Tag.ofForm (s : String) : Tag :=
  let cs := dropBreak s.toList
  let line := String.ofList cs
  if s == "" then .null
  else if isBoolean line then .bool
  else if isReal cs then .real
  else if isInteger cs then .int
  else if line == "<<" then .merge
  else if isNull line then .null
  else if (moment? 2 cs).isSome then .moment
  else if line == "=" then .value
  else if isReserved line then .unknown
  else .text

/-! ## Values of integers -/

/-- The digits of a base that come first, and the rest. -/
def digitRun (base : Nat) (cs : List Char) : List Char × List Char :=
  let isDigit := fun c => (Text.hexValue? c).any (· < base)
  (cs.takeWhile isDigit, cs.dropWhile isDigit)

/-- The letter that may stand behind a zero in front of the digits of a base. -/
def baseLetter : Nat → Char
  | 2 => 'b'
  | 8 => 'o'
  | _ => 'x'

/-- Without the mark of a base. -/
def dropBaseMark (base : Nat) (cs : List Char) : List Char :=
  match cs with
  | '0' :: c :: rest => if base ≠ 10 ∧ c.toLower = baseLetter base then rest else cs
  | _ => cs

/-- The integer that a text writes in a base, with blanks around it and a sign. -/
def wholeNumber (base : Nat) (w : Text.Wide) : Except ValueFault Int :=
  let body := (w.map fun p => Binary64.asciiForm p.nearest).dropWhile Binary64.isPadding
  let (negative, body) := Binary64.takeSign body
  let (ds, rest) := digitRun base (dropBaseMark base body)
  if base = 10 ∧ longestInteger < ds.length then .error (.longNumeral ds.length)
  else if ds.isEmpty || !rest.all Binary64.isPadding then .error (.noInteger base w)
  else
    let n := (ds.filterMap Text.hexValue?).foldl (fun n d => base * n + d) 0
    .ok (if negative then -(n : Int) else n)

/-- The number of an integer in base sixty, the highest digit first. -/
def sixtyNumber (digits : List Int) : Int := digits.foldl (fun n d => 60 * n + d) 0

/-- An integer behind its sign. A zero in front marks base eight. -/
def magnitudeOf : Text.Wide → Except ValueFault Int
  | [] => .error .noCharacter
  | [.char '0'] => .ok 0
  | .char '0' :: .char 'b' :: ds => wholeNumber 2 ds
  | .char '0' :: .char 'x' :: ds => wholeNumber 16 ds
  | .char '0' :: ds => wholeNumber 8 (.char '0' :: ds)
  | w =>
    if w.contains (.char ':') then
      ((partsBetween (.char ':') w).mapM (wholeNumber 10)).map sixtyNumber
    else wholeNumber 10 w

/-- Without underscores. -/
def dropUnderscores (w : Text.Wide) : Text.Wide := w.filter (· != .char '_')

def integerValue (w : Text.Wide) : Except ValueFault Int :=
  match dropUnderscores w with
  | [] => .error .noCharacter
  | .char '-' :: rest => (magnitudeOf rest).map fun n => -n
  | .char '+' :: rest => magnitudeOf rest
  | w => magnitudeOf w

/-! ## Values of reals -/

def realNumber (w : Text.Wide) : Except ValueFault Binary64 :=
  match Binary64.ofNumeral? (Text.nearest w) with
  | some x => .ok x
  | none => .error (.noReal w)

/-- What the digits of base sixty add to `acc`, the lowest first, from the one that counts `power`
times on. Every step is rounded. -/
def sixtySum (power : Nat) (acc : Binary64) : List Binary64 → Except ValueFault Binary64
  | [] => .ok acc
  | digit :: rest =>
    match Binary64.ofInt? power with
    | none => .error .largePower
    | some weight => sixtySum (60 * power) (acc.add (digit.mul weight)) rest

/-- The text of the real that is not a number. -/
def nanText : String := ".nan"

/-- The text of a real behind its sign, and whether the sign is negative. -/
def realBody (w : Text.Wide) : Bool × Text.Wide :=
  match Text.lower (dropUnderscores w) with
  | .char '-' :: rest => (true, rest)
  | .char '+' :: rest => (false, rest)
  | w => (false, w)

def realValue (w : Text.Wide) : Except ValueFault Binary64 :=
  if (dropUnderscores w).isEmpty then .error .noCharacter
  else
    let (negative, body) := realBody w
    if body = Text.wide ".inf" then .ok (Binary64.infinity negative)
    else if body = Text.wide nanText then .ok Binary64.nan
    else do
      let x ←
        if body.contains (.char ':') then
          (partsBetween (.char ':') body).mapM realNumber >>= fun ds =>
            sixtySum 1 Binary64.zero ds.reverse
        else realNumber body
      return if negative then x.neg else x

/-! ## Other values -/

def booleanValue (w : Text.Wide) : Except ValueFault Bool :=
  let word := Text.lower w
  if ["yes", "true", "on"].any fun s => word == Text.wide s then .ok true
  else if ["no", "false", "off"].any fun s => word == Text.wide s then .ok false
  else .error (.noBoolean word)

def momentValue (cs : List Char) : Except ValueFault Moment :=
  match moment? 1 (dropBreak cs) with
  | none => .error .noMoment
  | some m => match m.fault? with
    | some f => .error (.moment f)
    | none => .ok m

/-- What a text stands for under a tag; none if the tag is not for scalars. Where characters are
asked for, a surrogate fits no better than any other character that stands for nothing. -/
def scalarValue (tag : Tag) (w : Text.Wide) : Except ReadFault Document :=
  let cs := w.map Text.CodePoint.nearest
  match tag with
  | .null => .ok .null
  | .bool => ((booleanValue w).map .bool).mapError .unusable
  | .int => ((integerValue w).map .int).mapError .unusable
  | .real => ((realValue w).map .real).mapError .unusable
  | .moment => ((momentValue cs).map .moment).mapError .unusable
  | .bytes => match Text.decodeBase64? cs with
    | some bytes => .ok (.bytes bytes)
    | none => .error .malformed
  | .text => .ok (.ofWide w)
  | _ => .error .malformed

end WeakestPre.Yaml
