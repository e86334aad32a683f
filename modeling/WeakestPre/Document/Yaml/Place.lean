/-!
# Places in a text

A place knows the characters ahead of it, and its offset, line and column, all counted from zero. A
byte order mark takes no column.
-/

namespace WeakestPre.Yaml

/-! ## Characters -/

def isBreak (c : Char) : Bool :=
  c == '\n' || c.toNat == 0x85 || c.toNat == 0x2028 || c.toNat == 0x2029

def isSpacing (c : Char) : Bool := c == ' ' || c == '\t'

def isOrderMark (c : Char) : Bool := c.toNat == 0xfeff

/-- Characters that may not occur in a text at all. -/
def isForbidden (c : Char) : Bool :=
  let n := c.toNat
  !(n == 0x09 || n == 0x0a || n == 0x0d || (0x20 ≤ n && n ≤ 0x7e) || n == 0x85 ||
    (0xa0 ≤ n && n ≤ 0xd7ff) || (0xe000 ≤ n && n ≤ 0xfffd) || 0x10000 ≤ n)

/-- A blank or the end of the text comes next. -/
def gapAhead : List Char → Bool
  | [] => true
  | c :: _ => isSpacing c || isBreak c

/-! ## Places -/

structure Place where
  rest : List Char
  offset : Nat := 0
  line : Nat := 0
  column : Nat := 0

namespace Place

/-- Over one character. -/
def step (p : Place) : Place :=
  match p.rest with
  | [] => p
  | c :: rest =>
    if isBreak c then ⟨rest, p.offset + 1, p.line + 1, 0⟩
    else ⟨rest, p.offset + 1, p.line, if isOrderMark c then p.column else p.column + 1⟩

/-- Over `n` characters. -/
def forward (p : Place) : Nat → Place
  | 0 => p
  | n + 1 => p.step.forward n

/-- The characters ahead that pass a test, and the place behind them. -/
def pass (p : Place) (test : Char → Bool) : List Char × Place :=
  let run := p.rest.takeWhile test
  (run, p.forward run.length)

/-- A mark at the start of a line that begins or ends a document. -/
def atMark (p : Place) : Bool :=
  p.column == 0 && match p.rest with
    | '-' :: '-' :: '-' :: rest => gapAhead rest
    | '.' :: '.' :: '.' :: rest => gapAhead rest
    | _ => false

end Place

/-- Over spaces, line breaks and comments, where `rest` is what lies ahead. -/
def skipFrom (comment : Bool) (p : Place) (rest : List Char) : Place :=
  match rest with
  | [] => p
  | c :: rest =>
    if isBreak c then skipFrom false p.step rest
    else if comment || c == ' ' then skipFrom comment p.step rest
    else if c == '#' then skipFrom true p.step rest
    else p

def Place.skip (p : Place) : Place := skipFrom false p p.rest

end WeakestPre.Yaml
