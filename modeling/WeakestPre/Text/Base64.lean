/-!
# Base64

Every character of the alphabet stands for six bits, and four of them for three bytes. Characters
outside the alphabet are passed over. A group of four may end in padding, and nothing behind a
padded group counts; the text must not end within a group.
-/

namespace WeakestPre.Text

/-- The six bits that a character stands for. -/
def sextet? (c : Char) : Option Nat :=
  if 'A' ≤ c ∧ c ≤ 'Z' then some (c.toNat - 'A'.toNat)
  else if 'a' ≤ c ∧ c ≤ 'z' then some (c.toNat - 'a'.toNat + 26)
  else if c.isDigit then some (c.toNat - '0'.toNat + 52)
  else if c = '+' then some 62
  else if c = '/' then some 63
  else none

/-- Decodes from within a group: `seen` of its characters have come, `bits` is what they leave for
the next byte, and `padding` is the padding since the last of them. -/
def base64From (seen bits padding : Nat) : List Char → Option (List UInt8)
  | [] => if seen = 0 then some [] else none
  | c :: rest =>
    if c = '=' then
      if seen < 2 then base64From seen bits padding rest
      else if 4 ≤ seen + padding + 1 then some []
      else base64From seen bits (padding + 1) rest
    else match sextet? c with
      | none => base64From seen bits padding rest
      | some v =>
        let byte := fun (shift : Nat) => UInt8.ofNat (bits <<< (6 - shift) ||| v >>> shift)
        match seen with
        | 0 => base64From 1 v 0 rest
        | 1 => (base64From 2 (v % 16) 0 rest).map (byte 4 :: ·)
        | 2 => (base64From 3 (v % 4) 0 rest).map (byte 2 :: ·)
        | _ => (base64From 0 0 0 rest).map (byte 0 :: ·)

/-- The bytes that a text in ASCII stands for. -/
def decodeBase64? (cs : List Char) : Option (List UInt8) :=
  if cs.all (·.toNat < 0x80) then base64From 0 0 0 cs else none

end WeakestPre.Text
