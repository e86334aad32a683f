import WeakestPre.Text.Hex

/-!
# Reading UTF-8

A leading byte fixes how many bytes follow and which values the second may take; the later ones
are between `80` and `BF`. Reading stops at the first byte that cannot go on, and the error names
the bytes from the start of the broken character up to it.
-/

namespace WeakestPre.Text

/-- Why bytes do not decode. -/
inductive Utf8Reason where
  | invalidStart
  | invalidContinuation
  | unexpectedEnd
  deriving DecidableEq, Repr

def Utf8Reason.text : Utf8Reason → String
  | .invalidStart => "invalid start byte"
  | .invalidContinuation => "invalid continuation byte"
  | .unexpectedEnd => "unexpected end of data"

/-- The broken character: its first byte, where it starts, and how many bytes belong to it. -/
structure Utf8Error where
  lead : UInt8
  start : Nat
  length : Nat
  reason : Utf8Reason
  deriving DecidableEq, Repr

def Utf8Error.message (e : Utf8Error) : String :=
  let place :=
    if e.length = 1 then
      "byte 0x" ++ String.ofList (hexDigits 2 e.lead.toNat) ++ " in position " ++ toString e.start
    else
      "bytes in position " ++ toString e.start ++ "-" ++ toString (e.start + e.length - 1)
  "'utf-8' codec can't decode " ++ place ++ ": " ++ e.reason.text

/-- What a leading byte announces. -/
structure Utf8Lead where
  /-- How many bytes follow. -/
  count : Nat
  /-- The bits that the leading byte gives to the code point. -/
  bits : Nat
  /-- The least second byte. -/
  low : Nat
  /-- The greatest second byte. -/
  high : Nat

def Utf8Lead.ofByte? (b : Nat) : Option Utf8Lead :=
  if b < 0x80 then some ⟨0, b, 0x80, 0xbf⟩
  else if b < 0xc2 then none
  else if b < 0xe0 then some ⟨1, b - 0xc0, 0x80, 0xbf⟩
  else if b < 0xf0 then
    some ⟨2, b - 0xe0, if b = 0xe0 then 0xa0 else 0x80, if b = 0xed then 0x9f else 0xbf⟩
  else if b < 0xf5 then
    some ⟨3, b - 0xf0, if b = 0xf0 then 0x90 else 0x80, if b = 0xf4 then 0x8f else 0xbf⟩
  else none

/-- Reads `count` more bytes of a character whose first `seen` bytes gave `acc`; the next byte
must lie between `low` and `high`. The failure is the reason and the bytes that belong to it. -/
def continuation (count acc low high seen : Nat) (bytes : List UInt8) :
    Except (Utf8Reason × Nat) (Char × List UInt8) :=
  match count, bytes with
  | 0, bytes => .ok (Char.ofNat acc, bytes)
  | _ + 1, [] => .error (.unexpectedEnd, seen)
  | count + 1, b :: rest =>
    if low ≤ b.toNat ∧ b.toNat ≤ high then
      continuation count (64 * acc + (b.toNat - 0x80)) 0x80 0xbf (seen + 1) rest
    else .error (.invalidContinuation, seen)

/-- Decodes with `fuel` for at least as many characters as there are bytes. -/
def decodeFrom (fuel start : Nat) (bytes : List UInt8) : Except Utf8Error (List Char) :=
  match fuel, bytes with
  | _, [] => .ok []
  | 0, _ => .ok []
  | fuel + 1, b :: rest =>
    match Utf8Lead.ofByte? b.toNat with
    | none => .error ⟨b, start, 1, .invalidStart⟩
    | some lead =>
      match continuation lead.count lead.bits lead.low lead.high 1 rest with
      | .error (reason, seen) => .error ⟨b, start, seen, reason⟩
      | .ok (c, rest') =>
        match decodeFrom fuel (start + lead.count + 1) rest' with
        | .error e => .error e
        | .ok cs => .ok (c :: cs)

def decodeUtf8 (bytes : List UInt8) : Except Utf8Error (List Char) :=
  decodeFrom bytes.length 0 bytes

/-- Text files may end lines with `\r\n` or `\r`; reading turns both into `\n`. -/
def unifyBreaks : List Char → List Char
  | [] => []
  | '\r' :: '\n' :: rest => '\n' :: unifyBreaks rest
  | '\r' :: rest => '\n' :: unifyBreaks rest
  | c :: rest => c :: unifyBreaks rest

/-- The text of a file with these bytes. -/
def readText (bytes : List UInt8) : Except Utf8Error String :=
  (decodeUtf8 bytes).map fun cs => String.ofList (unifyBreaks cs)

end WeakestPre.Text
