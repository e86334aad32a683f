import WeakestPre.Token.Basic

/-!
# Reading tokens off a text

A cursor stands between two characters of a text and knows the line and column of the next one.
`scan` collects lexemes, with blanks between them, as long as one starts at the cursor. It stops at
the end of the text or in front of a character that starts no lexeme, and `tokenize` says which.
-/

namespace WeakestPre

/-- The line and column of a character, counted from one. -/
structure Position where
  line : Nat
  column : Nat
  deriving DecidableEq, Repr

namespace Position

def start : Position := ⟨1, 1⟩

/-- The position after a character at `p`. -/
def step (p : Position) (c : Char) : Position :=
  if c = '\n' then ⟨p.line + 1, 1⟩ else ⟨p.line, p.column + 1⟩

/-- The position after some characters from `p` on. -/
def after (p : Position) (cs : List Char) : Position := cs.foldl step p

end Position

/-- A character at which no lexeme starts. -/
structure UnknownCharacter where
  char : Char
  location : Location
  deriving DecidableEq, Repr

structure Cursor where
  source : String
  /-- How many characters lie behind. -/
  offset : Nat
  position : Position
  /-- The characters ahead. -/
  rest : List Char
  deriving Repr

namespace Cursor

def ofText (source text : String) : Cursor := ⟨source, 0, .start, text.toList⟩

def location (c : Cursor) : Location := ⟨c.position.line, c.position.column, c.source⟩

def peek? (c : Cursor) : Option Char := c.rest.head?

/-- The cursor behind characters that stand at its front. -/
def moveOver (c : Cursor) (taken : List Char) : Cursor :=
  { c with
    offset := c.offset + taken.length
    position := c.position.after taken
    rest := c.rest.drop taken.length }

/-- The next character and the cursor behind it. -/
def advance? (c : Cursor) : Option (Char × Cursor) :=
  c.rest.head?.map fun ch => (ch, c.moveOver [ch])

def skipBlanks (c : Cursor) : Cursor := c.moveOver (c.rest.takeWhile Text.isBlank)

/-- A token with the given characters at the cursor. -/
def tokenHere (c : Cursor) (kind : TokenKind) (text : List Char) : Token :=
  ⟨kind, String.ofList text, c.location⟩

/-- The token of all characters at the front that satisfy `p`, possibly none. -/
def readWhile (kind : TokenKind) (p : Char → Bool) (c : Cursor) : Token × Cursor :=
  let taken := c.rest.takeWhile p
  (c.tokenHere kind taken, c.moveOver taken)

def readNumber : Cursor → Token × Cursor := readWhile .number Text.isNumeralPart

def readIdentifier : Cursor → Token × Cursor := readWhile .identifier Text.isWordPart

theorem length_rest_skipBlanks_le (c : Cursor) : c.skipBlanks.rest.length ≤ c.rest.length := by
  simp [skipBlanks, moveOver]

/-- The lexemes from the cursor on, and the cursor where the next one fails to start. -/
def scan (c : Cursor) : List Token × Cursor :=
  match _h : lexeme? c.skipBlanks.rest with
  | none => ([], c.skipBlanks)
  | some (kind, text) =>
    let (tokens, stop) := scan (c.skipBlanks.moveOver text)
    (c.skipBlanks.tokenHere kind text :: tokens, stop)
termination_by c.rest.length
decreasing_by
  have ht := List.length_pos_iff.2 (lexeme?_ne_nil _h)
  have hc : c.skipBlanks.rest ≠ [] := by
    intro hnil
    simp [hnil, lexeme?] at _h
  have hr := List.length_pos_iff.2 hc
  have := length_rest_skipBlanks_le c
  simp only [moveOver, List.length_drop]
  omega

/-- All tokens from the cursor on, the end of the text last. -/
def tokenize (c : Cursor) : Except UnknownCharacter (List Token) × Cursor :=
  let (tokens, stop) := c.scan
  match stop.rest with
  | [] => (.ok (tokens ++ [stop.tokenHere .endOfInput []]), stop)
  | ch :: _ => (.error ⟨ch, stop.location⟩, stop)

end Cursor

/-- The tokens of a text. -/
def tokenize (source text : String) : Except UnknownCharacter (List Token) :=
  (Cursor.ofText source text).tokenize.1

end WeakestPre
