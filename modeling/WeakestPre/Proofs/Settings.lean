import WeakestPre.Document.Json
import WeakestPre.Settings

/-!
# Settings files that have no diagnostic

A settings file that cannot be opened, has no form, is no mapping or names no format is refused with
a diagnostic. All else that can go wrong has none: here is what that is (`Unusable`).

**Theorem** (`ofFile_eq_fault_iff`). The settings of a file fail without a diagnostic iff the file
is unusable: its path has a zero in it, its bytes are no text, its document cannot be represented,
or the text of a setting cannot be written.
-/

namespace WeakestPre

/-- Readers of settings that are written in JSON, which is also YAML. -/
def jsonReaders : DocumentReaders :=
  ⟨⟨Json.read, fun _ => "not JSON"⟩, ⟨Json.read, fun _ => "not JSON"⟩⟩

namespace Settings

variable {readers : DocumentReaders} {t : FileTree} {path text : String} {value : Document}

/-! ## Values -/

theorem textOf_of_ok {w : Text.Wide} (h : value.write = .ok w) : textOf value = .ok w := by
  rw [textOf, h]
  rfl

theorem textOf_of_error {g : ValueFault} (h : value.write = .error g) :
    textOf value = .error (.fault (.unusable g)) := by
  rw [textOf, h]
  rfl

theorem formatOf_eq_fault_iff {f : SettingsFault} :
    formatOf path value = .error (.fault f) ↔ ∃ g, value.write = .error g ∧ f = .unusable g := by
  rw [formatOf]
  cases hwrite : value.write with
  | error g => simp [textOf_of_error hwrite, bind, Except.bind, eq_comm]
  | ok w =>
    simp only [textOf_of_ok hwrite, bind, Except.bind, reduceCtorEq, false_and, exists_false,
      iff_false]
    split <;> simp

/-- The format that the entries of a file give. -/
def formatIn (path : String) (entries : List (Document × Document)) :
    Except SettingsError OutputFormat :=
  ((Document.get? "format" entries).map (formatOf path)).getD (.ok .text)

/-- The log level that the entries of a file give. -/
def logLevelIn (entries : List (Document × Document)) : Except SettingsError Text.Wide :=
  ((Document.get? "log_level" entries).map fun value => (textOf value).map Text.upper).getD
    (.ok (Text.wide "WARNING"))

theorem ofEntries_eq (path : String) (entries : List (Document × Document)) :
    ofEntries path entries = do
      let format ← formatIn path entries
      let logLevel ← logLevelIn entries
      return ⟨((Document.get? "show_steps" entries).map Document.truth).getD true, format,
        logLevel⟩ := by
  rw [ofEntries, formatIn, logLevelIn]
  cases Document.get? "format" entries <;> cases Document.get? "log_level" entries <;> rfl

theorem formatIn_eq_fault_iff {entries : List (Document × Document)} {f : SettingsFault} :
    formatIn path entries = .error (.fault f) ↔
      ∃ value g, Document.get? "format" entries = some value ∧ value.write = .error g ∧
        f = .unusable g := by
  rw [formatIn]
  cases Document.get? "format" entries with
  | none => simp
  | some value => simp [formatOf_eq_fault_iff]

theorem logLevelIn_eq_fault_iff {entries : List (Document × Document)} {f : SettingsFault} :
    logLevelIn entries = .error (.fault f) ↔
      ∃ value g, Document.get? "log_level" entries = some value ∧ value.write = .error g ∧
        f = .unusable g := by
  rw [logLevelIn]
  cases Document.get? "log_level" entries with
  | none => simp
  | some value =>
    cases hwrite : value.write with
    | error g => simp [textOf_of_error hwrite, hwrite, Except.map, eq_comm]
    | ok w => simp [textOf_of_ok hwrite, hwrite, Except.map]

theorem ofEntries_eq_fault_iff {entries : List (Document × Document)} {f : SettingsFault} :
    ofEntries path entries = .error (.fault f) ↔ formatIn path entries = .error (.fault f) ∨
      (∃ format, formatIn path entries = .ok format) ∧ logLevelIn entries = .error (.fault f) := by
  rw [ofEntries_eq]
  cases formatIn path entries with
  | error e => simp [bind, Except.bind]
  | ok format => cases logLevelIn entries <;> simp [bind, Except.bind, pure, Except.pure]

/-! ## Files -/

/-- The file can be opened and holds this text. -/
structure HasText (t : FileTree) (path text : String) : Prop where
  noZero : Char.ofNat 0 ∉ path.toList
  decodes : ∃ bytes, t.read path = .ok bytes ∧ Text.readText bytes = .ok text

/-- What is the matter with a file if there is no diagnostic for it. -/
inductive Unusable (readers : DocumentReaders) (t : FileTree) (path : String) :
    SettingsFault → Prop
  | zeroInPath (h : Char.ofNat 0 ∈ path.toList) : Unusable readers t path .zeroInPath
  | undecodable {bytes : List UInt8} {e : Text.Utf8Error} (hpath : Char.ofNat 0 ∉ path.toList)
      (hbytes : t.read path = .ok bytes) (h : Text.readText bytes = .error e) :
      Unusable readers t path (.undecodable e)
  | document {text : String} {f : ValueFault} (htext : HasText t path text)
      (h : documentOf readers path text = .error (.unusable f)) :
      Unusable readers t path (.unusable f)
  | nesting {text : String} {n : Nesting} (htext : HasText t path text)
      (h : documentOf readers path text = .error (.tooDeep n)) :
      Unusable readers t path (.tooDeep n)
  | format {text : String} {entries : List (Document × Document)} {value : Document}
      {f : ValueFault} (htext : HasText t path text)
      (hentries : documentOf readers path text = .ok (.map entries))
      (hvalue : Document.get? "format" entries = some value) (h : value.write = .error f) :
      Unusable readers t path (.unusable f)
  | logLevel {text : String} {entries : List (Document × Document)} {format : OutputFormat}
      {value : Document} {f : ValueFault} (htext : HasText t path text)
      (hentries : documentOf readers path text = .ok (.map entries))
      (hformat : formatIn path entries = .ok format)
      (hvalue : Document.get? "log_level" entries = some value) (h : value.write = .error f) :
      Unusable readers t path (.unusable f)

theorem ofFile_of_zero (h : Char.ofNat 0 ∈ path.toList) :
    ofFile readers t path = .error (.fault .zeroInPath) := by
  rw [ofFile, if_pos (by simpa using h)]
  rfl

theorem ofFile_of_unreadable {e : FileError} (hpath : Char.ofNat 0 ∉ path.toList)
    (h : t.read path = .error e) :
    ofFile readers t path = .error (.refused path (.unreadable e)) := by
  rw [ofFile, if_neg (by simpa using hpath), h]
  rfl

theorem ofFile_of_bytes {bytes : List UInt8} (hpath : Char.ofNat 0 ∉ path.toList)
    (hbytes : t.read path = .ok bytes) :
    ofFile readers t path = (Text.readText bytes).mapError (fun e => .fault (.undecodable e)) >>=
      ofText readers path := by
  rw [ofFile, if_neg (by simpa using hpath), hbytes]
  rfl

theorem ofFile_of_undecodable {bytes : List UInt8} {e : Text.Utf8Error}
    (hpath : Char.ofNat 0 ∉ path.toList) (hbytes : t.read path = .ok bytes)
    (h : Text.readText bytes = .error e) :
    ofFile readers t path = .error (.fault (.undecodable e)) := by
  rw [ofFile_of_bytes hpath hbytes, h]
  rfl

theorem ofFile_of_hasText (h : HasText t path text) :
    ofFile readers t path = ofText readers path text := by
  obtain ⟨bytes, hbytes, htext⟩ := h.decodes
  rw [ofFile_of_bytes h.noZero hbytes, htext]
  rfl

theorem ofText_eq_fault_iff {f : SettingsFault} : ofText readers path text = .error (.fault f) ↔
    (∃ g, documentOf readers path text = .error (.unusable g) ∧ f = .unusable g) ∨
    (∃ n, documentOf readers path text = .error (.tooDeep n) ∧ f = .tooDeep n) ∨
    ∃ entries, documentOf readers path text = .ok (.map entries) ∧
      ofEntries path entries = .error (.fault f) := by
  rw [ofText]
  cases documentOf readers path text with
  | error g => cases g <;> simp [eq_comm]
  | ok d => cases d <;> simp

/-- **A file fails without a diagnostic iff it is unusable.** -/
theorem ofFile_eq_fault_iff {f : SettingsFault} :
    ofFile readers t path = .error (.fault f) ↔ Unusable readers t path f := by
  constructor
  · intro h
    by_cases hzero : Char.ofNat 0 ∈ path.toList
    · rw [ofFile_of_zero hzero] at h
      cases h
      exact .zeroInPath hzero
    cases hbytes : t.read path with
    | error e =>
      rw [ofFile_of_unreadable hzero hbytes] at h
      cases h
    | ok bytes =>
      cases htext : Text.readText bytes with
      | error e =>
        rw [ofFile_of_undecodable hzero hbytes htext] at h
        cases h
        exact .undecodable hzero hbytes htext
      | ok text =>
        have hhas : HasText t path text := ⟨hzero, bytes, hbytes, htext⟩
        rw [ofFile_of_hasText hhas, ofText_eq_fault_iff] at h
        rcases h with ⟨g, hg, rfl⟩ | ⟨n, hn, rfl⟩ | ⟨entries, hentries, h⟩
        · exact .document hhas hg
        · exact .nesting hhas hn
        · rw [ofEntries_eq_fault_iff, formatIn_eq_fault_iff, logLevelIn_eq_fault_iff] at h
          rcases h with ⟨value, g, hvalue, hg, rfl⟩ | ⟨⟨format, hformat⟩, value, g, hvalue, hg, rfl⟩
          · exact .format hhas hentries hvalue hg
          · exact .logLevel hhas hentries hformat hvalue hg
  · intro h
    cases h with
    | zeroInPath h => exact ofFile_of_zero h
    | undecodable hpath hbytes h => exact ofFile_of_undecodable hpath hbytes h
    | document htext h =>
      rw [ofFile_of_hasText htext]
      exact ofText_eq_fault_iff.2 (.inl ⟨_, h, rfl⟩)
    | nesting htext h =>
      rw [ofFile_of_hasText htext]
      exact ofText_eq_fault_iff.2 (.inr (.inl ⟨_, h, rfl⟩))
    | format htext hentries hvalue h =>
      rw [ofFile_of_hasText htext]
      refine ofText_eq_fault_iff.2 (.inr (.inr ⟨_, hentries, ?_⟩))
      exact ofEntries_eq_fault_iff.2 (.inl (formatIn_eq_fault_iff.2 ⟨_, _, hvalue, h, rfl⟩))
    | logLevel htext hentries hformat hvalue h =>
      rw [ofFile_of_hasText htext]
      refine ofText_eq_fault_iff.2 (.inr (.inr ⟨_, hentries, ?_⟩))
      exact ofEntries_eq_fault_iff.2
        (.inr ⟨⟨_, hformat⟩, logLevelIn_eq_fault_iff.2 ⟨_, _, hvalue, h, rfl⟩⟩)

end Settings

end WeakestPre
