/-!
# Dates and times of day

A moment is a date of the proleptic Gregorian calendar, with or without a time of day. The time may
have an offset from universal time, in minutes to the east.

**Display text** (`text`) is `2001-12-14 21:59:43.100000+05:00`, without the parts that are missing;
a fraction of a second that is zero is missing. **Literal text** (`literal`) is a call with the
fields as arguments.

Two moments with an offset are the same if they are the same instant (`same`); a moment without
offset equals none with one.
-/

namespace WeakestPre

/-- A time of day. -/
structure Clock where
  hour : Nat
  minute : Nat
  second : Nat
  microsecond : Nat := 0
  offset? : Option Int := none
  deriving DecidableEq, Repr

structure Moment where
  year : Nat
  month : Nat
  day : Nat
  clock? : Option Clock := none
  deriving DecidableEq, Repr

/-- `n` with zeros in front up to a width. -/
def padded (width n : Nat) : String :=
  let ds := Nat.toDigits 10 n
  String.ofList (List.replicate (width - ds.length) '0' ++ ds)

/-! ## Spans of minutes -/

/-- A span as a call, in days and in the seconds of a day. -/
def spanLiteral (minutes : Int) : String :=
  let days := minutes.fdiv 1440
  let seconds := 60 * minutes.fmod 1440
  let parts := (if days = 0 then [] else ["days=" ++ toString days]) ++
    (if seconds = 0 then [] else ["seconds=" ++ toString seconds])
  "datetime.timedelta(" ++ (if parts.isEmpty then "0" else ", ".intercalate parts) ++ ")"

/-! ## Validity -/

/-- What is wrong with a moment. -/
inductive MomentFault where
  | year (n : Nat)
  | month
  | day
  | hour
  | minute
  | second
  | offset (minutes : Int)
  deriving DecidableEq, Repr

def MomentFault.message : MomentFault → String
  | .year n => "year " ++ toString n ++ " is out of range"
  | .month => "month must be in 1..12"
  | .day => "day is out of range for month"
  | .hour => "hour must be in 0..23"
  | .minute => "minute must be in 0..59"
  | .second => "second must be in 0..59"
  | .offset minutes =>
    "offset must be a timedelta strictly between -timedelta(hours=24) and timedelta(hours=24), " ++
      "not " ++ spanLiteral minutes ++ "."

def isLeapYear (year : Nat) : Bool := year % 4 == 0 && (year % 100 != 0 || year % 400 == 0)

def daysInMonth (year month : Nat) : Nat :=
  if month = 2 then if isLeapYear year then 29 else 28
  else if month ∈ [4, 6, 9, 11] then 30
  else 31

namespace Clock

/-- An offset is less than a day. -/
def offsetFault? (c : Clock) : Option MomentFault :=
  match c.offset? with
  | some m => if m.natAbs < 1440 then none else some (.offset m)
  | none => none

def timeFault? (c : Clock) : Option MomentFault :=
  if 24 ≤ c.hour then some .hour
  else if 60 ≤ c.minute then some .minute
  else if 60 ≤ c.second then some .second
  else none

def offsetText (minutes : Int) : String :=
  (if minutes < 0 then "-" else "+") ++ padded 2 (minutes.natAbs / 60) ++ ":" ++
    padded 2 (minutes.natAbs % 60)

def text (c : Clock) : String :=
  padded 2 c.hour ++ ":" ++ padded 2 c.minute ++ ":" ++ padded 2 c.second ++
    (if c.microsecond = 0 then "" else "." ++ padded 6 c.microsecond) ++
    match c.offset? with
    | some m => offsetText m
    | none => ""

def offsetLiteral (minutes : Int) : String :=
  if minutes = 0 then "datetime.timezone.utc"
  else "datetime.timezone(" ++ spanLiteral minutes ++ ")"

/-- The time as arguments of a call. Seconds and their fraction are left out at the end if they are
zero. -/
def arguments (c : Clock) : List String :=
  [toString c.hour, toString c.minute] ++
    (if c.second = 0 ∧ c.microsecond = 0 then [] else [toString c.second]) ++
    (if c.microsecond = 0 then [] else [toString c.microsecond]) ++
    match c.offset? with
    | some m => ["tzinfo=" ++ offsetLiteral m]
    | none => []

/-- The microseconds since midnight of universal time on the same date, if that is known. -/
def instant? (c : Clock) : Option Int :=
  c.offset?.map fun m =>
    ((3600 * c.hour + 60 * c.minute + c.second : Int) - 60 * m) * 1000000 + c.microsecond

end Clock

namespace Moment

def dateFault? (m : Moment) : Option MomentFault :=
  if m.year = 0 ∨ 9999 < m.year then some (.year m.year)
  else if m.month = 0 ∨ 12 < m.month then some .month
  else if m.day = 0 ∨ daysInMonth m.year m.month < m.day then some .day
  else none

/-- The first thing that is wrong: the offset, then the date, then the time. -/
def fault? (m : Moment) : Option MomentFault :=
  (m.clock?.bind Clock.offsetFault?).or (m.dateFault?.or (m.clock?.bind Clock.timeFault?))

/-! ## Text -/

def kind (m : Moment) : String := if m.clock?.isSome then "datetime" else "date"

def text (m : Moment) : String :=
  padded 4 m.year ++ "-" ++ padded 2 m.month ++ "-" ++ padded 2 m.day ++
    match m.clock? with
    | some c => " " ++ c.text
    | none => ""

def literal (m : Moment) : String :=
  let arguments := [toString m.year, toString m.month, toString m.day] ++
    (m.clock?.map Clock.arguments).getD []
  "datetime." ++ m.kind ++ "(" ++ ", ".intercalate arguments ++ ")"

/-! ## Equality -/

/-- The number of a date, counted in days. -/
def dayNumber (m : Moment) : Nat :=
  let before := m.year - 1
  365 * before + before / 4 - before / 100 + before / 400 + m.day +
    (List.range (m.month - 1)).foldl (fun n k => n + daysInMonth m.year (k + 1)) 0

/-- The instant, in microseconds from a fixed one, if an offset is known. -/
def instant? (m : Moment) : Option Int :=
  (m.clock?.bind Clock.instant?).map fun n => 86400000000 * (m.dayNumber : Int) + n

def same (a b : Moment) : Bool :=
  match a.instant?, b.instant? with
  | some m, some n => m == n
  | none, none => a == b
  | _, _ => false

end Moment

end WeakestPre
