import WeakestPre.Text.Utf8

/-!
# Files that hold a text

The bytes of a text in UTF-8 are read as that text, but for its line breaks (`readText_toUTF8`).

**Characters** (`spells_utf8EncodeChar`). The leading byte announces how many bytes follow, and
these bring six bits of the code each (`continuation_ofNat`). The bounds of the second byte keep out
longer spellings of small codes, surrogates and codes beyond the last one, and a character has no
such code.
-/

namespace WeakestPre.Text

variable {acc count low high seen m : Nat} {rest : List UInt8}

/-- A later byte brings six bits. -/
theorem continuation_ofNat (hm : m < 64) (hlow : low ≤ m + 128) (hhigh : m + 128 ≤ high) :
    continuation (count + 1) acc low high seen (UInt8.ofNat (m + 128) :: rest) =
      continuation count (64 * acc + m) 0x80 0xbf (seen + 1) rest := by
  have hbyte : (UInt8.ofNat (m + 128)).toNat = m + 128 :=
    UInt8.toNat_ofNat_of_lt' (show _ < 256 by omega)
  rw [continuation, hbyte, if_pos ⟨hlow, hhigh⟩, Nat.add_sub_cancel]

theorem continuation_zero : continuation 0 acc low high seen rest = .ok (Char.ofNat acc, rest) := by
  rw [continuation]

namespace Utf8Lead

theorem ofByte?_one {b : Nat} (h : b < 0x80) : ofByte? b = some ⟨0, b, 0x80, 0xbf⟩ := if_pos h

theorem ofByte?_two {b : Nat} (h : 0xc2 ≤ b) (h' : b < 0xe0) :
    ofByte? b = some ⟨1, b - 0xc0, 0x80, 0xbf⟩ := by
  rw [ofByte?, if_neg (by omega), if_neg (by omega), if_pos h']

theorem ofByte?_three {b : Nat} (h : 0xe0 ≤ b) (h' : b < 0xf0) : ofByte? b =
    some ⟨2, b - 0xe0, if b = 0xe0 then 0xa0 else 0x80, if b = 0xed then 0x9f else 0xbf⟩ := by
  rw [ofByte?, if_neg (by omega), if_neg (by omega), if_neg (by omega), if_pos h']

theorem ofByte?_four {b : Nat} (h : 0xf0 ≤ b) (h' : b < 0xf5) : ofByte? b =
    some ⟨3, b - 0xf0, if b = 0xf0 then 0x90 else 0x80, if b = 0xf4 then 0x8f else 0xbf⟩ := by
  rw [ofByte?, if_neg (by omega), if_neg (by omega), if_neg (by omega), if_neg (by omega),
    if_pos h']

end Utf8Lead

/-- The bytes are read as the character with the code: the first one announces the later ones. -/
def Spells (bytes : List UInt8) (v : Nat) : Prop :=
  ∃ b later lead, bytes = b :: later ∧ Utf8Lead.ofByte? b.toNat = some lead ∧
    ∀ rest, continuation lead.count lead.bits lead.low lead.high 1 (later ++ rest) =
      .ok (Char.ofNat v, rest)

variable {v : Nat}

theorem spells_one (h : v < 0x80) : Spells [UInt8.ofNat v] v := by
  have hbyte : (UInt8.ofNat v).toNat = v := UInt8.toNat_ofNat_of_lt' (show _ < 256 by omega)
  refine ⟨_, _, _, rfl, Utf8Lead.ofByte?_one (by omega), fun rest => ?_⟩
  rw [hbyte]
  exact continuation_zero

theorem spells_two (h : 0x80 ≤ v) (h' : v < 0x800) :
    Spells [UInt8.ofNat (v / 64 % 32 + 192), UInt8.ofNat (v % 64 + 128)] v := by
  have hbyte : (UInt8.ofNat (v / 64 % 32 + 192)).toNat = v / 64 + 192 := by
    rw [UInt8.toNat_ofNat_of_lt' (show _ < 256 by omega)]
    omega
  have hcode : 64 * (v / 64 + 192 - 0xc0) + v % 64 = v := by omega
  refine ⟨_, _, _, rfl, Utf8Lead.ofByte?_two (by omega) (by omega), fun rest => ?_⟩
  simp only [hbyte]
  rw [List.cons_append, continuation_ofNat (by omega) (by omega) (by omega), hcode]
  exact continuation_zero

/-- A code below `800` has a shorter spelling, and surrogates have none. -/
theorem spells_three (h : 0x800 ≤ v) (h' : v < 0x10000) (hv : v < 0xd800 ∨ 0xdfff < v) :
    Spells [UInt8.ofNat (v / 4096 % 16 + 224), UInt8.ofNat (v / 64 % 64 + 128),
      UInt8.ofNat (v % 64 + 128)] v := by
  have hbyte : (UInt8.ofNat (v / 4096 % 16 + 224)).toNat = v / 4096 + 224 := by
    rw [UInt8.toNat_ofNat_of_lt' (show _ < 256 by omega)]
    omega
  have hcode : 64 * (64 * (v / 4096 + 224 - 0xe0) + v / 64 % 64) + v % 64 = v := by omega
  refine ⟨_, _, _, rfl, Utf8Lead.ofByte?_three (by omega) (by omega), fun rest => ?_⟩
  simp only [hbyte]
  rw [List.cons_append, continuation_ofNat (by omega) (by split <;> omega) (by split <;> omega),
    List.cons_append, continuation_ofNat (by omega) (by omega) (by omega), hcode]
  exact continuation_zero

/-- A code below `10000` has a shorter spelling, and there are none from `110000` on. -/
theorem spells_four (h : 0x10000 ≤ v) (h' : v < 0x110000) :
    Spells [UInt8.ofNat (v / 262144 % 8 + 240), UInt8.ofNat (v / 4096 % 64 + 128),
      UInt8.ofNat (v / 64 % 64 + 128), UInt8.ofNat (v % 64 + 128)] v := by
  have hbyte : (UInt8.ofNat (v / 262144 % 8 + 240)).toNat = v / 262144 + 240 := by
    rw [UInt8.toNat_ofNat_of_lt' (show _ < 256 by omega)]
    omega
  have hcode : 64 * (64 * (64 * (v / 262144 + 240 - 0xf0) + v / 4096 % 64) + v / 64 % 64) +
      v % 64 = v := by omega
  refine ⟨_, _, _, rfl, Utf8Lead.ofByte?_four (by omega) (by omega), fun rest => ?_⟩
  simp only [hbyte]
  rw [List.cons_append, continuation_ofNat (by omega) (by split <;> omega) (by split <;> omega),
    List.cons_append, continuation_ofNat (by omega) (by omega) (by omega), List.cons_append,
    continuation_ofNat (by omega) (by omega) (by omega), hcode]
  exact continuation_zero

/-- **The bytes of a character are read as the character.** -/
theorem spells_utf8EncodeChar (c : Char) : Spells (String.utf8EncodeChar c) c.toNat := by
  have hvalid : c.toNat < 0xd800 ∨ 0xdfff < c.toNat ∧ c.toNat < 0x110000 := c.valid
  have hcode : c.val.toNat = c.toNat := rfl
  simp only [String.utf8EncodeChar, hcode]
  split
  · exact spells_one (by omega)
  split
  · exact spells_two (by omega) (by omega)
  split
  · exact spells_three (by omega) (by omega) (by omega)
  · exact spells_four (by omega) (by omega)

theorem decodeFrom_encode (cs : List Char) (fuel start : Nat) (h : cs.length ≤ fuel) :
    decodeFrom fuel start (cs.flatMap String.utf8EncodeChar) = .ok cs := by
  induction cs generalizing fuel start with
  | nil => simp [decodeFrom]
  | cons c cs ih =>
    obtain ⟨b, later, lead, hencode, hlead, hread⟩ := spells_utf8EncodeChar c
    obtain _ | fuel := fuel
    · simp at h
    · have hrest := ih fuel (start + lead.count + 1) (by simpa using h)
      rw [List.flatMap_cons, hencode, List.cons_append, decodeFrom]
      simp only [hlead, hread, hrest, Char.ofNat_toNat]

theorem length_le_encode (cs : List Char) :
    cs.length ≤ (cs.flatMap String.utf8EncodeChar).length := by
  induction cs with
  | nil => simp
  | cons c cs ih =>
    have hpos := c.utf8Size_pos
    rw [List.flatMap_cons, List.length_append, String.length_utf8EncodeChar, List.length_cons]
    omega

theorem toList_toUTF8 (s : String) :
    s.toUTF8.data.toList = s.toList.flatMap String.utf8EncodeChar := by
  rw [String.toUTF8, ← String.utf8Encode_toList, List.utf8Encode, List.data_toByteArray]

/-- **A file that holds a text is read as the text with one kind of line breaks.** -/
theorem readText_toUTF8 (s : String) :
    readText s.toUTF8.data.toList = .ok (String.ofList (unifyBreaks s.toList)) := by
  rw [readText, decodeUtf8, toList_toUTF8, decodeFrom_encode _ _ _ (length_le_encode _)]
  rfl

end WeakestPre.Text
