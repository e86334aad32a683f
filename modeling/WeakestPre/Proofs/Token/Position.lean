import WeakestPre.Proofs.Token.Lexeme
import WeakestPre.Token.Cursor

/-!
# Cursors know where they stand

**Positions** (`Position.behind`). The position behind some characters of a text: the line counts
the line breaks among them, and the column counts the characters behind the last line break.

**Invariant** (`Cursor.StandsIn`). A cursor in a text has the rest of the text ahead of it, and its
position is the one behind the characters that it has passed. A cursor only ever moves over
characters that stand at its front (`Cursor.moveOver`), and that keeps the invariant, so every call
keeps it and so does every sequence of calls.

**Tokens in their places** (`Token.StandsAt`, `Row`). The characters of a token are those of the
text at some offset, and its location is the place there. The tokens of a text stand in a row, with
nothing but blanks between them.

**Calls** (`Call.Sound`, `sound_runAll`). Whatever a cursor has been asked to do, each further call
leaves it standing in the text and no further back, answers what is so in the text, and fails again
if it has failed.
-/

namespace WeakestPre

/-! ## Positions -/

namespace Position

/-- The position behind some characters. -/
def behind (before : List Char) : Position where
  line := 1 + before.count '\n'
  column := 1 + (before.reverse.takeWhile (· != '\n')).length

theorem behind_concat (before : List Char) (c : Char) :
    behind (before ++ [c]) = (behind before).step c := by
  by_cases hc : c = '\n'
  · subst hc
    simp [behind, step, Nat.add_assoc]
  · have hcount : [c].count '\n' = 0 := by
      rw [List.count_eq_zero]
      simpa using Ne.symm hc
    simp [behind, step, hc, hcount, Nat.add_assoc]

theorem after_append (p : Position) (cs ds : List Char) :
    p.after (cs ++ ds) = (p.after cs).after ds :=
  List.foldl_append

theorem start_after (cs : List Char) : start.after cs = behind cs := by
  rw [← List.reverse_reverse cs]
  induction cs.reverse with
  | nil => rfl
  | cons c rest ih =>
    rw [List.reverse_cons, after_append, ih, behind_concat]
    rfl

theorem behind_append (cs ds : List Char) : behind (cs ++ ds) = (behind cs).after ds := by
  rw [← start_after, ← start_after, after_append]

end Position

/-- The place behind the first characters of a text. -/
def Location.inText (source text : String) (offset : Nat) : Location :=
  let p := Position.behind (text.toList.take offset)
  ⟨p.line, p.column, source⟩

/-! ## Cursors -/

namespace Cursor

/-- The cursor stands behind as many characters of the text as its offset says, at the position
there, with the rest of the text ahead. -/
structure StandsIn (source text : String) (c : Cursor) : Prop where
  source_eq : c.source = source
  offset_le : c.offset ≤ text.toList.length
  position_eq : c.position = .behind (text.toList.take c.offset)
  rest_eq : c.rest = text.toList.drop c.offset

variable {source text : String} {c : Cursor}

theorem standsIn_ofText (source text : String) : (ofText source text).StandsIn source text where
  source_eq := rfl
  offset_le := Nat.zero_le _
  position_eq := rfl
  rest_eq := rfl

theorem offset_le_moveOver (taken : List Char) : c.offset ≤ (c.moveOver taken).offset :=
  Nat.le_add_right _ _

namespace StandsIn

theorem location_eq (h : c.StandsIn source text) :
    c.location = Location.inText source text c.offset := by
  rw [location, Location.inText, h.position_eq, h.source_eq]

theorem take_drop_eq (h : c.StandsIn source text) {taken : List Char} (htaken : taken <+: c.rest) :
    (text.toList.drop c.offset).take taken.length = taken := by
  rw [← h.rest_eq]
  exact (List.prefix_iff_eq_take.1 htaken).symm

/-- What stands at the front is the part of the text between the offsets before and behind it. -/
theorem extract_eq (h : c.StandsIn source text) {taken : List Char} (htaken : taken <+: c.rest) :
    text.toList.extract c.offset (c.moveOver taken).offset = taken := by
  have hoffset : (c.moveOver taken).offset - c.offset = taken.length := by
    simp [Cursor.moveOver]
  rw [List.extract_eq_take_drop, hoffset, h.take_drop_eq htaken]

/-- **A cursor that moves over what stands at its front stands in the text.** -/
theorem moveOver (h : c.StandsIn source text) {taken : List Char} (htaken : taken <+: c.rest) :
    (c.moveOver taken).StandsIn source text := by
  have hlength := htaken.length_le
  rw [h.rest_eq, List.length_drop] at hlength
  have hle := h.offset_le
  refine ⟨h.source_eq, ?_, ?_, ?_⟩
  · simp only [Cursor.moveOver]
    omega
  · simp only [Cursor.moveOver]
    rw [List.take_add, h.take_drop_eq htaken, Position.behind_append, h.position_eq]
  · simp only [Cursor.moveOver]
    rw [h.rest_eq, List.drop_drop]

theorem skipBlanks (h : c.StandsIn source text) : c.skipBlanks.StandsIn source text :=
  h.moveOver (List.takeWhile_prefix _)

/-- The cursor stands behind what the rest of the text leaves. -/
theorem offset_eq_length (h : c.StandsIn source text) {passed : List Char}
    (hpassed : text.toList = passed ++ c.rest) : c.offset = passed.length := by
  have hlength := congrArg List.length hpassed
  rw [List.length_append, h.rest_eq, List.length_drop] at hlength
  have hle := h.offset_le
  omega

end StandsIn

end Cursor

/-! ## Tokens -/

/-- The characters of the token stand in the text at the offset, and its location is the place
there. -/
structure Token.StandsAt (source text : String) (offset : Nat) (t : Token) : Prop where
  characters : t.text.toList <+: text.toList.drop offset
  location_eq : t.location = Location.inText source text offset

/-- Lexemes that stand in a row between two offsets, with nothing but blanks between them. -/
inductive Row (source text : String) : Nat → List Token → Nat → Prop
  | blanks {o o' : Nat} (hle : o ≤ o')
      (hblank : ∀ ch ∈ text.toList.extract o o', Text.isBlank ch = true) : Row source text o [] o'
  | token {o o' o'' : Nat} {t : Token} {ts : List Token} (hle : o ≤ o')
      (hblank : ∀ ch ∈ text.toList.extract o o', Text.isBlank ch = true)
      (hkind : t.kind ≠ .endOfInput) (ht : t.StandsAt source text o')
      (hts : Row source text (o' + t.text.toList.length) ts o'') : Row source text o (t :: ts) o''

namespace Cursor

variable {source text : String} {c : Cursor}

/-- A token made of what stands at the front stands where the cursor does. -/
theorem StandsIn.tokenHere (h : c.StandsIn source text) {v : List Char} (hv : v <+: c.rest)
    (kind : TokenKind) : (c.tokenHere kind v).StandsAt source text c.offset where
  characters := by
    rw [← h.rest_eq]
    simpa [Cursor.tokenHere] using hv
  location_eq := h.location_eq

theorem StandsIn.isBlank_of_skipBlanks (h : c.StandsIn source text) :
    ∀ ch ∈ text.toList.extract c.offset c.skipBlanks.offset, Text.isBlank ch = true := by
  rw [Cursor.skipBlanks, h.extract_eq (List.takeWhile_prefix _)]
  exact of_mem_takeWhile

/-- **Scanning keeps the invariant and leaves a row of lexemes behind.** -/
theorem StandsIn.scan (h : c.StandsIn source text) :
    c.scan.2.StandsIn source text ∧ c.offset ≤ c.scan.2.offset ∧
      Row source text c.offset c.scan.1 c.scan.2.offset := by
  fun_induction Cursor.scan c with
  | case1 c hnone =>
    have hle : c.offset ≤ c.skipBlanks.offset := offset_le_moveOver _
    exact ⟨h.skipBlanks, hle, .blanks hle h.isBlank_of_skipBlanks⟩
  | case2 c kind v hsome tokens stop hscan ih =>
    obtain ⟨r, hrest, hv, -⟩ := exists_of_lexeme? hsome
    have hpre : v <+: c.skipBlanks.rest := ⟨r, hrest.symm⟩
    obtain ⟨hstop, hle', hrow⟩ := ih (h.skipBlanks.moveOver hpre)
    rw [hscan] at hstop hle' hrow
    have hle : c.offset ≤ c.skipBlanks.offset := offset_le_moveOver _
    have hle₁ : c.skipBlanks.offset ≤ (c.skipBlanks.moveOver v).offset := offset_le_moveOver _
    refine ⟨hstop, Nat.le_trans hle (Nat.le_trans hle₁ hle'), ?_⟩
    refine .token hle h.isBlank_of_skipBlanks hv.kind_ne (h.skipBlanks.tokenHere hpre kind) ?_
    have hlength : (c.skipBlanks.tokenHere kind v).text.toList.length = v.length := by
      simp [Cursor.tokenHere]
    rw [hlength]
    exact hrow

theorem rest_skipBlanks (c : Cursor) : c.skipBlanks.rest = c.rest.dropWhile Text.isBlank := by
  have happend := @List.takeWhile_append_dropWhile _ Text.isBlank c.rest
  have hdrop := @List.drop_left _ (c.rest.takeWhile Text.isBlank) (c.rest.dropWhile Text.isBlank)
  rwa [happend] at hdrop

theorem moveOver_nil (c : Cursor) : c.moveOver [] = c := rfl

theorem moveOver_moveOver (c : Cursor) (cs ds : List Char) :
    (c.moveOver cs).moveOver ds = c.moveOver (cs ++ ds) := by
  simp [moveOver, Position.after_append, Nat.add_assoc]

theorem skipBlanks_skipBlanks (c : Cursor) : c.skipBlanks.skipBlanks = c.skipBlanks := by
  have hnone : c.skipBlanks.rest.takeWhile Text.isBlank = [] := by
    rw [rest_skipBlanks]
    exact List.takeWhile_eq_nil_iff.2 (not_get_zero of_mem_head?_dropWhile)
  rw [skipBlanks, hnone, moveOver_nil]

/-- Nothing more is scanned where a scan has stopped. -/
theorem scan_scan (c : Cursor) : c.scan.2.scan = ([], c.scan.2) := by
  fun_induction Cursor.scan c with
  | case1 c hnone =>
    rw [Cursor.scan, skipBlanks_skipBlanks]
    split
    · rfl
    · simp_all
  | case2 c kind v hsome tokens stop hscan ih => rwa [hscan] at ih

theorem tokenize_of_nil (h : c.scan.2.rest = []) :
    c.tokenize = (.ok (c.scan.1 ++ [c.scan.2.tokenHere .endOfInput []]), c.scan.2) := by
  simp only [tokenize, h]

theorem tokenize_of_cons {ch : Char} {rest : List Char} (h : c.scan.2.rest = ch :: rest) :
    c.tokenize = (.error ⟨ch, c.scan.2.location⟩, c.scan.2) := by
  simp only [tokenize, h]

/-! ## Calls -/

/-- What a cursor can be asked to do. -/
inductive Call where
  | peek
  | advance
  | skipBlanks
  | readNumber
  | readIdentifier
  | tokenize

/-- What a call answers. A call that advances fails where no character is left. -/
inductive Reply where
  | nothing
  | next (char : Option Char)
  | passed (char : Option Char)
  | token (t : Token)
  | tokens (result : Except UnknownCharacter (List Token))

namespace Call

def run (c : Cursor) : Call → Reply × Cursor
  | peek => (.next c.peek?, c)
  | advance => (.passed (c.advance?.map (·.1)), (c.advance?.map (·.2)).getD c)
  | skipBlanks => (.nothing, c.skipBlanks)
  | readNumber => (.token c.readNumber.1, c.readNumber.2)
  | readIdentifier => (.token c.readIdentifier.1, c.readIdentifier.2)
  | tokenize => (.tokens c.tokenize.1, c.tokenize.2)

/-- The cursor after some calls, whether they fail or not. -/
def runAll (c : Cursor) (calls : List Call) : Cursor := calls.foldl (fun c call => (call.run c).2) c

end Call

namespace Reply

def isFailure : Reply → Bool
  | passed none | tokens (.error _) => true
  | _ => false

/-- What an answer says is so in the text: characters and tokens are those at the offset of the
call, several tokens stand in a row up to the end of the text, where the last one marks it, and an
unknown character is the one at the offset behind the call. -/
def Holds (source text : String) (before behind : Nat) : Reply → Prop
  | nothing => True
  | next char | passed char => char = text.toList[before]?
  | token t => t.StandsAt source text before
  | tokens (.ok ts) => ∃ lexemes mark, ts = lexemes ++ [mark] ∧
      Row source text before lexemes text.toList.length ∧ mark.kind = .endOfInput ∧
      mark.StandsAt source text text.toList.length
  | tokens (.error u) =>
    text.toList[behind]? = some u.char ∧ u.location = Location.inText source text behind

end Reply

/-- What a call does to a cursor that stands in a text. -/
structure Call.Sound (source text : String) (c : Cursor) (call : Call) : Prop where
  standsIn : (call.run c).2.StandsIn source text
  offset_le : c.offset ≤ (call.run c).2.offset
  holds : (call.run c).1.Holds source text c.offset (call.run c).2.offset
  fails_again : (call.run c).1.isFailure = true → call.run (call.run c).2 = call.run c

theorem Call.Sound.of_run {call : Call} {reply : Reply} {c' : Cursor}
    (hrun : call.run c = (reply, c')) (hstands : c'.StandsIn source text)
    (hle : c.offset ≤ c'.offset) (hholds : reply.Holds source text c.offset c'.offset)
    (hfails : reply.isFailure = true → call.run c' = (reply, c')) :
    call.Sound source text c where
  standsIn := by rwa [hrun]
  offset_le := by rwa [hrun]
  holds := by rwa [hrun]
  fails_again := by rwa [hrun]

theorem StandsIn.head?_rest (h : c.StandsIn source text) :
    c.rest.head? = text.toList[c.offset]? := by
  rw [h.rest_eq, List.head?_drop]

theorem StandsIn.advance (h : c.StandsIn source text) : Call.advance.Sound source text c := by
  have hhead := h.head?_rest
  cases hrest : c.rest with
  | nil =>
    have hrun : Call.advance.run c = (.passed none, c) := by simp [Call.run, advance?, hrest]
    rw [hrest] at hhead
    exact .of_run hrun h (Nat.le_refl _) hhead fun _ => hrun
  | cons ch rest =>
    have hrun : Call.advance.run c = (.passed (some ch), c.moveOver [ch]) := by
      simp [Call.run, advance?, hrest]
    rw [hrest] at hhead
    exact .of_run hrun (h.moveOver (by simp [hrest])) (offset_le_moveOver _) hhead nofun

theorem StandsIn.readWhile (h : c.StandsIn source text) (kind : TokenKind) (p : Char → Bool) :
    (c.readWhile kind p).2.StandsIn source text ∧ c.offset ≤ (c.readWhile kind p).2.offset ∧
      (c.readWhile kind p).1.StandsAt source text c.offset :=
  ⟨h.moveOver (List.takeWhile_prefix _), offset_le_moveOver _,
    h.tokenHere (List.takeWhile_prefix _) kind⟩

theorem StandsIn.tokenize (h : c.StandsIn source text) : Call.tokenize.Sound source text c := by
  obtain ⟨hstop, hle, hrow⟩ := h.scan
  cases hrest : c.scan.2.rest with
  | nil =>
    have hrun : Call.tokenize.run c =
        (.tokens (.ok (c.scan.1 ++ [c.scan.2.tokenHere .endOfInput []])), c.scan.2) := by
      rw [Call.run, tokenize_of_nil hrest]
    have hmark := hstop.tokenHere List.nil_prefix .endOfInput
    rw [hstop.offset_eq_length (by rw [hrest, List.append_nil])] at hrow hmark
    exact .of_run hrun hstop hle ⟨_, _, rfl, hrow, rfl, hmark⟩ nofun
  | cons ch rest =>
    have hrun : Call.tokenize.run c = (.tokens (.error ⟨ch, c.scan.2.location⟩), c.scan.2) := by
      rw [Call.run, tokenize_of_cons hrest]
    have hhead := hstop.head?_rest
    rw [hrest] at hhead
    refine .of_run hrun hstop hle ⟨hhead.symm, hstop.location_eq⟩ fun _ => ?_
    -- The next scan stops where it starts, so it meets the same character.
    have hagain : c.scan.2.scan.2.rest = ch :: rest := by rwa [scan_scan]
    rw [Call.run, tokenize_of_cons hagain, scan_scan]

/-- **Every call keeps the invariant.** -/
theorem StandsIn.sound (h : c.StandsIn source text) (call : Call) : call.Sound source text c := by
  cases call with
  | peek => exact ⟨h, Nat.le_refl _, h.head?_rest, nofun⟩
  | advance => exact h.advance
  | skipBlanks => exact ⟨h.skipBlanks, offset_le_moveOver _, trivial, nofun⟩
  | readNumber =>
    obtain ⟨hstands, hle, ht⟩ := h.readWhile .number Text.isNumeralPart
    exact ⟨hstands, hle, ht, nofun⟩
  | readIdentifier =>
    obtain ⟨hstands, hle, ht⟩ := h.readWhile .identifier Text.isWordPart
    exact ⟨hstands, hle, ht, nofun⟩
  | tokenize => exact h.tokenize

theorem StandsIn.runAll (h : c.StandsIn source text) (calls : List Call) :
    (Call.runAll c calls).StandsIn source text := by
  induction calls generalizing c with
  | nil => exact h
  | cons call calls ih => exact ih (h.sound call).standsIn

/-- **Positions are right after any calls.** -/
theorem sound_runAll (source text : String) (calls : List Call) (call : Call) :
    (Call.runAll (ofText source text) calls).StandsIn source text ∧
      call.Sound source text (Call.runAll (ofText source text) calls) := by
  have h := (standsIn_ofText source text).runAll calls
  exact ⟨h, h.sound call⟩

end Cursor

end WeakestPre
