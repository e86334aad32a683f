import WeakestPre.Document.Fault
import WeakestPre.Document.Yaml.Place
import WeakestPre.Text.Hex

/-!
# The text of scalars

A scalar is plain, quoted, or a block of indented lines.

**Folding.** A line break within a plain or quoted scalar is a space, and blank lines after it are
one line break each. In a folded block this holds between two lines that do not start with a blank.

**Blocks.** The header of a block may tell how far its lines are indented, and what becomes of the
line breaks at its end: one is kept, or none, or all of them.
-/

namespace WeakestPre.Yaml

/-- A line break as it is kept in a scalar. -/
def keptBreak (c : Char) : Char := if c.toNat == 0x85 then '\n' else c

/-- What a line break and the blank lines after it become: a single one a space. -/
def folded (first : Char) (blank : List Char) : List Char :=
  if keptBreak first ≠ '\n' then keptBreak first :: blank
  else if blank.isEmpty then [' '] else blank

/-- The breaks of the blank lines at a line start, up to the next text; none if a document mark
stands at the start of a line. A line of characters in `spacing` counts as blank. -/
def blankLines (spacing : Char → Bool) : Nat → Place → Option (List Char × Place)
  | 0, p => some ([], p)
  | fuel + 1, p =>
    if p.atMark then none
    else
      let (_, q) := p.pass spacing
      match q.rest with
      | c :: _ =>
        if isBreak c then
          (blankLines spacing fuel q.step).map fun (breaks, r) => (keptBreak c :: breaks, r)
        else some ([], q)
      | [] => some ([], q)

/-! ## Plain scalars -/

/-- Characters that end a plain scalar in a flow collection. -/
def isFlowMark (c : Char) : Bool := ",[]\x7b\x7d".toList.contains c

/-- A plain scalar may start with the character in front of `rest`. -/
def startsPlain (flow : Bool) (c : Char) (rest : List Char) : Bool :=
  !(isSpacing c || isBreak c || "-?:,[]\x7b\x7d#&*!|>'\"%@\x60".toList.contains c) ||
    (!gapAhead rest && (c == '-' || (!flow && (c == '?' || c == ':'))))

/-- The run of characters that belongs to a plain scalar. -/
def plainRun (flow : Bool) : List Char → List Char
  | [] => []
  | c :: rest =>
    if isSpacing c || isBreak c then []
    else if c == ':' && (gapAhead rest || (flow && rest.head?.any isFlowMark)) then []
    else if flow && (isFlowMark c || c == '?') then []
    else c :: plainRun flow rest

/-- A plain scalar whose further lines are indented by at least `indent`, and where it ends; the
blanks behind it are passed. Also whether these hold a line break. -/
def plain (flow : Bool) (indent : Nat) : Nat → Place → List Char × Place × Bool
  | 0, p => ([], p, false)
  | fuel + 1, p =>
    let run := plainRun flow p.rest
    let (spaces, q) := (p.forward run.length).pass (· == ' ')
    let gap : Option (List Char × Place) :=
      match q.rest with
      | c :: _ =>
        if isBreak c then
          (blankLines (· == ' ') fuel q.step).map fun (breaks, r) => (folded c breaks, r)
        else if spaces.isEmpty then none else some (spaces, q)
      | [] => none
    match gap with
    | none => (run, q, false)
    | some (gap, r) =>
      if r.rest.head? == some '#' || (!flow && r.column < indent) || (plainRun flow r.rest).isEmpty
      then (run, r, r.line != q.line)
      else
        let (more, last) := plain flow indent fuel r
        (run ++ gap ++ more, last)

/-! ## Quoted scalars -/

/-- The characters that an escape of one letter stands for. -/
def escape? : Char → Option Char
  | '0' => some (Char.ofNat 0)
  | 'a' => some (Char.ofNat 0x07)
  | 'b' => some (Char.ofNat 0x08)
  | 't' | '\t' => some '\t'
  | 'n' => some '\n'
  | 'v' => some (Char.ofNat 0x0b)
  | 'f' => some (Char.ofNat 0x0c)
  | 'r' => some '\r'
  | 'e' => some (Char.ofNat 0x1b)
  | ' ' => some ' '
  | '"' => some '"'
  | '\\' => some '\\'
  | '/' => some '/'
  | 'N' => some (Char.ofNat 0x85)
  | '_' => some (Char.ofNat 0xa0)
  | 'L' => some (Char.ofNat 0x2028)
  | 'P' => some (Char.ofNat 0x2029)
  | _ => none

/-- How many hexadecimal digits follow an escape. -/
def escapeWidth? : Char → Option Nat
  | 'x' => some 2
  | 'u' => some 4
  | 'U' => some 8
  | _ => none

/-- The code that an escape by number gives, and the length of the escape. -/
def escapedCode? : List Char → Option (Nat × Nat)
  | '\\' :: e :: digits => do
    let width ← escapeWidth? e
    let code ← Text.readHex? (digits.take width)
    if digits.length < width then none else return (code, 2 + width)
  | _ => none

/-- The code point with a code, which may be a surrogate. -/
def codePoint (code : Nat) : Except ReadFault Text.CodePoint :=
  if 0x7fffffff < code then .error (.unusable .largeCodePoint)
  else if 0x10ffff < code then .error (.unusable .noCodePoint)
  else .ok (.ofNat code)

/-- What an escape at a place stands for, and the place behind it. The fuel bounds the number of
lines. -/
def escaped (fuel : Nat) (p : Place) : Except ReadFault (Text.Wide × Place) :=
  match p.rest with
  | '\\' :: e :: _ =>
    if isBreak e then
      match blankLines isSpacing fuel (p.forward 2) with
      | some (breaks, q) => .ok (breaks.map .char, q)
      | none => .error .malformed
    else
      match escape? e, escapedCode? p.rest with
      | some c, _ => .ok ([.char c], p.forward 2)
      | none, some (code, width) => (codePoint code).map fun c => ([c], p.forward width)
      | none, none => .error .malformed
  | _ => .error .malformed

/-- What blanks in a quoted scalar stand for, and the place behind them. The fuel bounds the number
of lines. -/
def quotedGap (fuel : Nat) (p : Place) : Except ReadFault (Text.Wide × Place) :=
  let (spaces, q) := p.pass isSpacing
  match q.rest with
  | c :: _ =>
    if isBreak c then
      match blankLines isSpacing fuel q.step with
      | some (breaks, r) => .ok ((folded c breaks).map .char, r)
      | none => .error .malformed
    else .ok (spaces.map .char, q)
  | [] => .error .malformed

/-- The rest of a quoted scalar, behind its opening quote. -/
def quoted (quote : Char) : Nat → Place → Except ReadFault (Text.Wide × Place)
  | 0, _ => .error .malformed
  | fuel + 1, p =>
    match p.rest with
    | [] => .error .malformed
    | c :: rest =>
      if c == quote && !(quote == '\'' && rest.head? == some quote) then .ok ([], p.step)
      else do
        let (piece, q) ←
          if c == quote then .ok ([.char c], p.forward 2)
          else if isSpacing c || isBreak c then quotedGap fuel p
          else if quote == '"' && c == '\\' then escaped fuel p
          else .ok ([.char c], p.step)
        let (more, r) ← quoted quote fuel q
        return (piece ++ more, r)

/-! ## Blocks -/

/-- What becomes of the line breaks at the end of a block. -/
inductive Ending where
  | one
  | none
  | all
  deriving DecidableEq, Repr

def ending? : Char → Option Ending
  | '+' => some .all
  | '-' => some .none
  | _ => none

/-- An indentation, which is not zero. -/
def indentation? (c : Char) : Option Nat :=
  if '1' ≤ c && c ≤ '9' then some (c.toNat - '0'.toNat) else none

/-- The header of a block: the ending and the indentation that it gives, and the place behind. -/
def blockHeader (p : Place) : Ending × Option Nat × Place :=
  match p.rest with
  | a :: rest =>
    match ending? a, indentation? a with
    | some e, _ =>
      match rest.head?.bind indentation? with
      | some n => (e, some n, p.forward 2)
      | none => (e, none, p.step)
    | none, some n =>
      match rest.head?.bind ending? with
      | some e => (e, some n, p.forward 2)
      | none => (.one, some n, p.step)
    | none, none => (.one, none, p)
  | [] => (.one, none, p)

/-- Over the rest of the line of a header, which holds no more than a comment. -/
def headerEnd (p : Place) : Option Place :=
  let (_, q) := p.pass (· == ' ')
  match q.rest with
  | [] => some q
  | c :: _ =>
    if isBreak c then some q.step
    else if c == '#' && p.rest.head? == some ' ' then some (q.pass fun d => !isBreak d).2.step
    else none

/-- The breaks of the blank lines in front of a block without a given indentation, the deepest
column that is reached on the way, and the place of the first text. -/
def leadingBreaks (deepest : Nat) (p : Place) (rest : List Char) : List Char × Nat × Place :=
  match rest with
  | [] => ([], deepest, p)
  | c :: rest =>
    if c == ' ' then leadingBreaks (max deepest p.step.column) p.step rest
    else if isBreak c then
      let (breaks, last) := leadingBreaks deepest p.step rest
      (keptBreak c :: breaks, last)
    else ([], deepest, p)

/-- The breaks of the lines that are blank up to a column, and where the next text stands. -/
def breaksBelow (column : Nat) : Nat → Place → List Char × Place
  | 0, p => ([], p)
  | fuel + 1, p =>
    let spaces := (p.rest.takeWhile (· == ' ')).length
    let q := p.forward (min (column - p.column) spaces)
    match q.rest with
    | c :: _ =>
      if isBreak c then
        let (breaks, r) := breaksBelow column fuel q.step
        (keptBreak c :: breaks, r)
      else ([], q)
    | [] => ([], q)

/-- The lines of a block from one that starts in its column, then the break of the last line, the
breaks of the blank lines behind it, and the place where the block ends. -/
def blockLines (folds : Bool) (column : Nat) :
    Nat → Place → List Char × List Char × List Char × Place
  | 0, p => ([], [], [], p)
  | fuel + 1, p =>
    let (line, q) := p.pass fun c => !isBreak c
    let last := (q.rest.take 1).map keptBreak
    let (blank, r) := breaksBelow column fuel q.step
    if r.column == column && !r.rest.isEmpty then
      let joined := folds && last == ['\n'] && !line.head?.any isSpacing &&
        !r.rest.head?.any isSpacing
      let gap := if !joined then last ++ blank else if blank.isEmpty then [' '] else blank
      let (more, tail) := blockLines folds column fuel r
      (line ++ gap ++ more, tail)
    else (line, last, blank, r)

/-- A block scalar behind its mark, in a collection whose entries stand in the column before
`indent`. The fuel bounds the number of lines. -/
def block (folds : Bool) (indent fuel : Nat) (p : Place) : Except ReadFault (List Char × Place) :=
  let (ending, width?, p) := blockHeader p
  match headerEnd p with
  | none => .error .malformed
  | some p =>
    let least := max indent 1
    let (leading, column, q) := match width? with
      | some n =>
        let column := least + n - 1
        let (leading, q) := breaksBelow column fuel p
        (leading, column, q)
      | none =>
        let (leading, deepest, q) := leadingBreaks 0 p p.rest
        (leading, max least deepest, q)
    let (text, last, blank, r) :=
      if q.column == column && !q.rest.isEmpty then
        let (lines, last, blank, r) := blockLines folds column fuel q
        (leading ++ lines, last, blank, r)
      else ([], [], leading, q)
    .ok (text ++ match ending with
      | .one => last
      | .none => []
      | .all => last ++ blank, r)

end WeakestPre.Yaml
