import WeakestPre.Proofs.Document.JsonString
import WeakestPre.Proofs.Settings
import WeakestPre.Proofs.Text.Class
import WeakestPre.Proofs.Text.Utf8

/-!
# Which documents give settings

A settings file holds a document (`parse`). If the document is a mapping, three of its keys decide:
they give settings (`Given`), or they name a format that there is not (`Misnamed`), or the text of a
value cannot be written (`Unwritable`). Any other document should be refused.

**Theorem** (`load_verdict`). A mapping gets this verdict, and a document that is no mapping is
refused if the file is written in JSON or the document counts as true. In YAML every document that
does not count as true passes for an empty mapping. So documents that count as true, and mappings
that agree on the three keys, get the same verdict wherever they are stored.
-/

namespace WeakestPre

/-! ## Blank text is no JSON -/

namespace Json

variable {c : Char} {cs : List Char}

theorem isDigit_of_isBlank (h : Text.isBlank c = true) : c.isDigit = false := by
  rw [← Bool.not_eq_true]
  intro hdigit
  have hrange : 48 ≤ c.toNat ∧ c.toNat ≤ 57 := by
    simpa [Char.isDigit, UInt32.le_iff_toNat_le] using hdigit
  simp only [Text.isBlank, Bool.or_eq_true, Bool.and_eq_true, decide_eq_true_eq, beq_iff_eq] at h
  omega

/-- The characters that a value starts with, digits apart. -/
def valueStarts : List Char := ['"', 'n', 't', 'f', 'N', 'I', '-', '[', '\x7b']

theorem notMem_valueStarts_of_isBlank (h : Text.isBlank c = true) : c ∉ valueStarts := by
  have hall : (valueStarts.all fun c => !Text.isBlank c) = true := by decide
  intro hmem
  simpa [h] using List.all_eq_true.1 hall c hmem

theorem readNumber_of_isBlank (h : Text.isBlank c = true) (negative : Bool) :
    readNumber negative (c :: cs) = .error .malformed := by
  have hdigit := isDigit_of_isBlank h
  have hwhole : (wholePart (c :: cs)).1 = [] := by
    unfold wholePart
    split
    · next heq =>
      obtain ⟨rfl, -⟩ := List.cons.inj heq
      exact absurd hdigit (by decide)
    · simp [hdigit]
  simp [readNumber, hwhole]

theorem readValue_of_isBlank (h : Text.isBlank c = true) (depth : Nat) :
    readValue depth (c :: cs) = .error .malformed := by
  have hstart := notMem_valueStarts_of_isBlank h
  have hnumber : readNumber false (c :: cs) = .error .malformed := readNumber_of_isBlank h false
  have hscalar : readScalar (c :: cs) = .error .malformed := by
    unfold readScalar
    split <;> simp_all [valueStarts]
  unfold readValue
  split <;> simp_all [valueStarts]

theorem isBlankText_of_read {text : String} {d : Document} (h : read text = .ok d) :
    Text.isBlankText text = false := by
  rw [← Bool.not_eq_true, Text.isBlankText, List.all_eq_true]
  intro hblank
  have hvalue : ∀ depth, readValue depth (skipSpace text.toList) = .error .malformed := by
    intro depth
    cases hcs : skipSpace text.toList with
    | nil => cases depth <;> rfl
    | cons c cs =>
      have hmem : c ∈ text.toList :=
        (List.dropWhile_suffix _).subset (hcs ▸ List.mem_cons_self)
      exact readValue_of_isBlank (hblank c hmem) depth
  rw [read, hvalue] at h
  cases h

end Json

/-- Blank text is no document. -/
def DocumentReader.RefusesBlank (reader : DocumentReader) : Prop :=
  ∀ (text : String) (d : Document), reader.read text = .ok d → Text.isBlankText text = false

theorem jsonReaders_refusesBlank : jsonReaders.json.RefusesBlank :=
  fun _ _ => Json.isBlankText_of_read

theorem OutputFormat.ofName?_eq_some_iff {s : String} {f : OutputFormat} :
    ofName? s = some f ↔ f.name = s := by
  constructor
  · intro h
    simpa using List.find?_some h
  · rintro rfl
    cases f with
    | text => rfl
    | json => rfl

namespace Settings

open Document (get?)

variable {path : String} {value : Document} {entries entries' : List (Document × Document)}

/-! ## Mappings -/

/-- The value names the format, whatever its case. -/
def NamesFormat (value : Document) (f : OutputFormat) : Prop :=
  ∃ w, value.write = .ok w ∧ Text.lower w = Text.wide f.name

/-- The keys that count. -/
def keys : List String := ["show_steps", "format", "log_level"]

/-- The entries give these settings: each by the value of its key, or by default. -/
structure Given (entries : List (Document × Document)) (s : Settings) : Prop where
  showSteps : s.showSteps = ((get? "show_steps" entries).map Document.truth).getD true
  format : (get? "format" entries = none ∧ s.format = .text) ∨
    ∃ value, get? "format" entries = some value ∧ NamesFormat value s.format
  logLevel : (get? "log_level" entries = none ∧ s.logLevel = Text.wide "WARNING") ∨
    ∃ value w, get? "log_level" entries = some value ∧ value.write = .ok w ∧
      s.logLevel = Text.upper w

/-- The entries name a format that there is not. -/
def Misnamed (entries : List (Document × Document)) (p : SettingsProblem) : Prop :=
  ∃ value w, get? "format" entries = some value ∧ value.write = .ok w ∧
    (∀ f : OutputFormat, Text.lower w ≠ Text.wide f.name) ∧ p = .unknownFormat (Text.lower w)

/-- The text of a value that counts cannot be written. -/
inductive Unwritable (entries : List (Document × Document)) : SettingsFault → Prop
  | format {value : Document} {g : ValueFault} (hvalue : get? "format" entries = some value)
      (h : value.write = .error g) : Unwritable entries (.unusable g)
  | logLevel {value : Document} {g : ValueFault}
      (hformat : ∀ value, get? "format" entries = some value → ∃ f, NamesFormat value f)
      (hvalue : get? "log_level" entries = some value) (h : value.write = .error g) :
      Unwritable entries (.unusable g)

theorem bind_ofName?_eq_some_iff {w : Text.Wide} {f : OutputFormat} :
    (Text.string? w).bind OutputFormat.ofName? = some f ↔ w = Text.wide f.name := by
  rw [Option.bind_eq_some_iff]
  constructor
  · rintro ⟨s, hs, hf⟩
    rw [OutputFormat.ofName?_eq_some_iff.1 hf]
    exact Text.string?_eq_some_iff.1 hs
  · intro hw
    exact ⟨f.name, Text.string?_eq_some_iff.2 hw, OutputFormat.ofName?_eq_some_iff.2 rfl⟩

theorem formatOf_of_named {f : OutputFormat} (h : NamesFormat value f) :
    formatOf path value = .ok f := by
  obtain ⟨w, hwrite, hname⟩ := h
  have hfound := bind_ofName?_eq_some_iff.2 hname
  simp only [formatOf, textOf_of_ok hwrite, bind, Except.bind, hfound]

theorem formatOf_of_misnamed {w : Text.Wide} (hwrite : value.write = .ok w)
    (h : ∀ f : OutputFormat, Text.lower w ≠ Text.wide f.name) :
    formatOf path value = .error (.refused path (.unknownFormat (Text.lower w))) := by
  have hnone : (Text.string? (Text.lower w)).bind OutputFormat.ofName? = none := by
    rw [Option.eq_none_iff_forall_ne_some]
    intro f hf
    exact h f (bind_ofName?_eq_some_iff.1 hf)
  simp only [formatOf, textOf_of_ok hwrite, bind, Except.bind, hnone]

/-- A value whose text can be written names a format, or it is refused. -/
theorem named_or_misnamed {w : Text.Wide} (hwrite : value.write = .ok w) :
    (∃ f, NamesFormat value f) ∨ ∀ f : OutputFormat, Text.lower w ≠ Text.wide f.name := by
  by_cases h : ∃ f : OutputFormat, Text.lower w = Text.wide f.name
  · obtain ⟨f, hf⟩ := h
    exact .inl ⟨f, w, hwrite, hf⟩
  · exact .inr fun f hf => h ⟨f, hf⟩

theorem formatOf_eq_ok_iff {f : OutputFormat} :
    formatOf path value = .ok f ↔ NamesFormat value f := by
  refine ⟨fun h => ?_, formatOf_of_named⟩
  cases hwrite : value.write with
  | error g => rw [formatOf_eq_fault_iff.2 ⟨g, hwrite, rfl⟩] at h; cases h
  | ok w =>
    rcases named_or_misnamed hwrite with ⟨f', hf'⟩ | hmis
    · rw [formatOf_of_named hf'] at h
      exact Except.ok.inj h ▸ hf'
    · rw [formatOf_of_misnamed hwrite hmis] at h
      cases h

theorem formatOf_eq_refused_iff {q : String} {p : SettingsProblem} :
    formatOf path value = .error (.refused q p) ↔ q = path ∧ ∃ w, value.write = .ok w ∧
      (∀ f : OutputFormat, Text.lower w ≠ Text.wide f.name) ∧
      p = .unknownFormat (Text.lower w) := by
  constructor
  · intro h
    cases hwrite : value.write with
    | error g => rw [formatOf_eq_fault_iff.2 ⟨g, hwrite, rfl⟩] at h; cases h
    | ok w =>
      rcases named_or_misnamed hwrite with ⟨f, hf⟩ | hmis
      · rw [formatOf_of_named hf] at h
        cases h
      · rw [formatOf_of_misnamed hwrite hmis] at h
        cases h
        exact ⟨rfl, w, rfl, hmis, rfl⟩
  · rintro ⟨rfl, w, hwrite, hmis, rfl⟩
    exact formatOf_of_misnamed hwrite hmis

theorem formatIn_eq_ok_iff {f : OutputFormat} : formatIn path entries = .ok f ↔
    (get? "format" entries = none ∧ f = .text) ∨
      ∃ value, get? "format" entries = some value ∧ NamesFormat value f := by
  rw [formatIn]
  cases get? "format" entries with
  | none => simp [eq_comm]
  | some value => simp [formatOf_eq_ok_iff]

theorem formatIn_eq_refused_iff {q : String} {p : SettingsProblem} :
    formatIn path entries = .error (.refused q p) ↔ q = path ∧ Misnamed entries p := by
  rw [formatIn, Misnamed]
  cases get? "format" entries with
  | none => simp
  | some value => simp [formatOf_eq_refused_iff]

theorem logLevelIn_eq_ok_iff {w : Text.Wide} : logLevelIn entries = .ok w ↔
    (get? "log_level" entries = none ∧ w = Text.wide "WARNING") ∨
      ∃ value v, get? "log_level" entries = some value ∧ value.write = .ok v ∧
        w = Text.upper v := by
  rw [logLevelIn]
  cases get? "log_level" entries with
  | none => simp [eq_comm]
  | some value =>
    cases hwrite : value.write with
    | error g => simp [textOf_of_error hwrite, hwrite, Except.map]
    | ok v => simp [textOf_of_ok hwrite, hwrite, Except.map, eq_comm]

theorem logLevelIn_ne_refused (q : String) (p : SettingsProblem) :
    logLevelIn entries ≠ .error (.refused q p) := by
  rw [logLevelIn]
  cases get? "log_level" entries with
  | none => simp
  | some value =>
    cases hwrite : value.write with
    | error g => simp [textOf_of_error hwrite, Except.map]
    | ok v => simp [textOf_of_ok hwrite, Except.map]

/-- **A mapping gives settings by its three keys.** -/
theorem ofEntries_eq_ok_iff {s : Settings} : ofEntries path entries = .ok s ↔ Given entries s := by
  have hgiven : Given entries s ↔ s.showSteps =
      ((get? "show_steps" entries).map Document.truth).getD true ∧
      formatIn path entries = .ok s.format ∧ logLevelIn entries = .ok s.logLevel := by
    rw [formatIn_eq_ok_iff, logLevelIn_eq_ok_iff]
    exact ⟨fun h => ⟨h.showSteps, h.format, h.logLevel⟩, fun h => ⟨h.1, h.2.1, h.2.2⟩⟩
  rw [ofEntries_eq, hgiven]
  cases formatIn path entries with
  | error e => simp [bind, Except.bind]
  | ok f =>
    cases logLevelIn entries with
    | error e => simp [bind, Except.bind]
    | ok w => cases s; simp [bind, Except.bind, pure, Except.pure, eq_comm]

/-- **It is refused iff it names a format that there is not.** -/
theorem ofEntries_eq_refused_iff {q : String} {p : SettingsProblem} :
    ofEntries path entries = .error (.refused q p) ↔ q = path ∧ Misnamed entries p := by
  rw [ofEntries_eq, ← formatIn_eq_refused_iff]
  cases formatIn path entries with
  | error e => simp [bind, Except.bind]
  | ok f =>
    have hlevel := @logLevelIn_ne_refused entries q p
    cases hw : logLevelIn entries with
    | error e => simpa [bind, Except.bind, hw] using hlevel
    | ok w => simp [bind, Except.bind, pure, Except.pure]

/-- **It has no diagnostic iff a text that is needed cannot be written.** -/
theorem ofEntries_eq_fault_iff_unwritable {f : SettingsFault} :
    ofEntries path entries = .error (.fault f) ↔ Unwritable entries f := by
  rw [ofEntries_eq_fault_iff, formatIn_eq_fault_iff, logLevelIn_eq_fault_iff]
  have hformat : (∃ format, formatIn path entries = .ok format) ↔
      ∀ value, get? "format" entries = some value → ∃ f, NamesFormat value f := by
    simp only [formatIn_eq_ok_iff]
    cases get? "format" entries with
    | none => simp
    | some value => simp
  rw [hformat]
  constructor
  · rintro (⟨value, g, hvalue, hwrite, rfl⟩ | ⟨hnamed, value, g, hvalue, hwrite, rfl⟩)
    · exact .format hvalue hwrite
    · exact .logLevel hnamed hvalue hwrite
  · rintro (⟨hvalue, hwrite⟩ | ⟨hnamed, hvalue, hwrite⟩)
    · exact .inl ⟨_, _, hvalue, hwrite, rfl⟩
    · exact .inr ⟨hnamed, _, _, hvalue, hwrite, rfl⟩

/-! ## Only three keys count -/

theorem Given.congr {s : Settings} (h : Given entries s)
    (hkeys : ∀ key ∈ keys, get? key entries = get? key entries') : Given entries' s where
  showSteps := hkeys "show_steps" (by simp [keys]) ▸ h.showSteps
  format := hkeys "format" (by simp [keys]) ▸ h.format
  logLevel := hkeys "log_level" (by simp [keys]) ▸ h.logLevel

theorem Misnamed.congr {p : SettingsProblem} (h : Misnamed entries p)
    (hkeys : ∀ key ∈ keys, get? key entries = get? key entries') : Misnamed entries' p := by
  rw [Misnamed, ← hkeys "format" (by simp [keys])]
  exact h

theorem Unwritable.congr {f : SettingsFault} (h : Unwritable entries f)
    (hkeys : ∀ key ∈ keys, get? key entries = get? key entries') : Unwritable entries' f := by
  have hformat := hkeys "format" (by simp [keys])
  have hlevel := hkeys "log_level" (by simp [keys])
  cases h with
  | format hvalue hwrite => exact .format (hformat ▸ hvalue) hwrite
  | logLevel hnamed hvalue hwrite => exact .logLevel (hformat ▸ hnamed) (hlevel ▸ hvalue) hwrite

end Settings

/-- The same error of another file. -/
def SettingsError.inFile (path : String) : SettingsError → SettingsError
  | .refused _ p => .refused path p
  | .fault f => .fault f

namespace Settings

open Document (get?)

/-- **Mappings that agree on the three keys get the same verdict.** -/
theorem ofEntries_congr {entries entries' : List (Document × Document)}
    (hkeys : ∀ key ∈ keys, get? key entries = get? key entries') (path path' : String) :
    ofEntries path' entries' = (ofEntries path entries).mapError (.inFile path') := by
  cases h : ofEntries path entries with
  | ok s => exact ofEntries_eq_ok_iff.2 ((ofEntries_eq_ok_iff.1 h).congr hkeys)
  | error e =>
    cases e with
    | refused q p =>
      obtain ⟨-, hmis⟩ := ofEntries_eq_refused_iff.1 h
      exact ofEntries_eq_refused_iff.2 ⟨rfl, hmis.congr hkeys⟩
    | fault f =>
      exact ofEntries_eq_fault_iff_unwritable.2
        ((ofEntries_eq_fault_iff_unwritable.1 h).congr hkeys)

/-! ## Files -/

/-- The document that a file with a text holds. -/
def parse (readers : DocumentReaders) (path text : String) : Except ReadFault Document :=
  (readers.of path).read text

variable {readers : DocumentReaders} {t : FileTree} {path? : Option String}
  {start path text : String} {v : Document}

/-- In YAML a document that does not count as true is taken for an empty mapping. -/
theorem documentOf_of_parse (hblank : readers.json.RefusesBlank)
    (h : parse readers path text = .ok v) :
    documentOf readers path text = .ok (if isJson path || v.truth then v else .map []) := by
  rw [parse, DocumentReaders.of] at h
  cases hjson : isJson path with
  | true =>
    rw [hjson, if_pos rfl] at h
    rw [documentOf, if_pos hjson, if_neg (by simp [hblank _ _ h]), h]
    rfl
  | false =>
    rw [hjson, if_neg (by simp)] at h
    rw [documentOf, if_neg (by simp [hjson]), h, Bool.false_or]
    rfl

/-- The verdict on a document. -/
def verdict (path : String) : Document → Except SettingsError Settings
  | .map entries => ofEntries path entries
  | _ => .error (.refused path .noMapping)

theorem verdict_of_ne_map (h : ∀ entries, v ≠ .map entries) :
    verdict path v = .error (.refused path .noMapping) := by
  cases v with
  | map entries => exact absurd rfl (h entries)
  | _ => rfl

theorem ofText_of_document (h : documentOf readers path text = .ok v) :
    ofText readers path text = verdict path v := by
  rw [ofText, h]
  cases v <;> rfl

/-- The settings file that is loaded has this path and holds this document. -/
structure Stored (readers : DocumentReaders) (t : FileTree) (path? : Option String)
    (start path : String) (v : Document) : Prop where
  chosen : path?.or (found? t start) = some path
  holds : ∃ text, HasText t path text ∧ parse readers path text = .ok v

theorem Stored.load_eq (hblank : readers.json.RefusesBlank)
    (h : Stored readers t path? start path v) : load readers t path? start =
    verdict path (if isJson path || v.truth then v else .map []) := by
  obtain ⟨text, htext, hparse⟩ := h.holds
  rw [load, h.chosen]
  exact (ofFile_of_hasText htext).trans (ofText_of_document (documentOf_of_parse hblank hparse))

theorem Stored.load_map {entries : List (Document × Document)}
    (hblank : readers.json.RefusesBlank)
    (h : Stored readers t path? start path (.map entries)) :
    load readers t path? start = ofEntries path entries := by
  rw [h.load_eq hblank]
  cases entries with
  | nil => rw [ite_self, verdict]
  | cons entry entries => rw [if_pos (by simp [Document.truth]), verdict]

theorem Stored.load_of_ne_map (hblank : readers.json.RefusesBlank)
    (h : Stored readers t path? start path v)
    (hmap : ∀ entries, v ≠ .map entries) : load readers t path? start =
      if isJson path || v.truth then .error (.refused path .noMapping) else .ok {} := by
  rw [h.load_eq hblank]
  split
  · exact verdict_of_ne_map hmap
  · rfl

/-- Documents on which the verdict does not depend on the file. -/
inductive Alike : Document → Document → Prop
  | same {v : Document} (h : v.truth = true) : Alike v v
  | maps {entries entries' : List (Document × Document)}
      (h : ∀ key ∈ keys, get? key entries = get? key entries') :
      Alike (.map entries) (.map entries')

/-- **The verdict on the document of a settings file.** -/
theorem load_verdict (hblank : readers.json.RefusesBlank)
    (h : Stored readers t path? start path v) :
    ((∀ entries, v ≠ .map entries) → load readers t path? start =
      if isJson path || v.truth then .error (.refused path .noMapping) else .ok {}) ∧
    (∀ entries, v = .map entries →
      (∀ s, load readers t path? start = .ok s ↔ Given entries s) ∧
      (∀ q p, load readers t path? start = .error (.refused q p) ↔ q = path ∧ Misnamed entries p) ∧
      ∀ f, load readers t path? start = .error (.fault f) ↔ Unwritable entries f) ∧
    ∀ (t' : FileTree) (path?' : Option String) (start' path' : String) (v' : Document),
      Stored readers t' path?' start' path' v' → Alike v v' →
      load readers t' path?' start' = (load readers t path? start).mapError (.inFile path') := by
  refine ⟨h.load_of_ne_map hblank, ?_, ?_⟩
  · rintro entries rfl
    rw [h.load_map hblank]
    exact ⟨fun _ => ofEntries_eq_ok_iff, fun _ _ => ofEntries_eq_refused_iff,
      fun _ => ofEntries_eq_fault_iff_unwritable⟩
  · intro t' path?' start' path' v' h' halike
    cases halike with
    | maps hkeys =>
      rw [h.load_map hblank, h'.load_map hblank]
      exact ofEntries_congr hkeys path path'
    | same htruth =>
      by_cases hmap : ∃ entries, v = .map entries
      · obtain ⟨entries, rfl⟩ := hmap
        rw [h.load_map hblank, h'.load_map hblank]
        exact ofEntries_congr (fun _ _ => rfl) path path'
      · have hne : ∀ entries, v ≠ .map entries := fun entries heq => hmap ⟨entries, heq⟩
        rw [h.load_of_ne_map hblank hne, h'.load_of_ne_map hblank hne, htruth, Bool.or_true,
          Bool.or_true, if_pos rfl, if_pos rfl]
        rfl

/-! ## One text in two files -/

/-- The same text in a file of each form. -/
def inBothForms (text : String) : FileTree :=
  let bytes := text.toUTF8.data.toList
  ⟨[], [(["a.yml"], .file bytes), (["a.json"], .file bytes)]⟩

theorem stored_inBothForms (hbreaks : Text.unifyBreaks text.toList = text.toList)
    (h : Json.read text = .ok v) :
    Stored jsonReaders (inBothForms text) (some "a.yml") "." "a.yml" v ∧
      Stored jsonReaders (inBothForms text) (some "a.json") "." "a.json" v := by
  have htext : Text.readText text.toUTF8.data.toList = .ok text := by
    rw [Text.readText_toUTF8, hbreaks, String.ofList_toList]
  exact ⟨⟨rfl, text, ⟨by decide, _, rfl, htext⟩, h⟩,
    ⟨rfl, text, ⟨by decide, _, rfl, htext⟩, h⟩⟩

theorem eq_ok_of_any {x : Except ReadFault Document} {p : Document → Bool}
    (hp : ∀ d, p d = true → d = v) (h : x.toOption.any p = true) : x = .ok v := by
  cases x with
  | ok d => exact congrArg Except.ok (hp d h)
  | error e => cases h

/-- A mapping that names a format in capitals. -/
def capitals : String := "\x7b\"format\": \"JSON\"\x7d"

def isCapitals : Document → Bool
  | .map [(.text key, .text value)] => key == "format" && value == "JSON"
  | _ => false

theorem eq_of_isCapitals (d : Document) (h : isCapitals d = true) :
    d = .map [(.text "format", .text "JSON")] := by
  unfold isCapitals at h
  split at h
  · simp_all
  · cases h

theorem load_verdict_capitals : ∃ v,
    Stored jsonReaders (inBothForms capitals) (some "a.yml") "." "a.yml" v ∧
    Stored jsonReaders (inBothForms capitals) (some "a.json") "." "a.json" v ∧
    load jsonReaders (inBothForms capitals) (some "a.yml") = .ok { format := .json } ∧
    load jsonReaders (inBothForms capitals) (some "a.json") = .ok { format := .json } := by
  have hblank := jsonReaders_refusesBlank
  obtain ⟨hyaml, hjson⟩ := @stored_inBothForms capitals _ (by decide)
    (eq_ok_of_any eq_of_isCapitals (by decide +kernel))
  have hnames : NamesFormat (.text "JSON") .json := ⟨Text.wide "JSON", rfl, by decide +kernel⟩
  have hload :
      load jsonReaders (inBothForms capitals) (some "a.yml") = .ok { format := .json } := by
    obtain ⟨hok, -, -⟩ := (load_verdict hblank hyaml).2.1 _ rfl
    exact (hok _).2 ⟨rfl, .inr ⟨_, rfl, hnames⟩, .inl ⟨rfl, rfl⟩⟩
  refine ⟨_, hyaml, hjson, hload, ?_⟩
  rw [(load_verdict hblank hyaml).2.2 _ _ _ _ _ hjson (.maps fun _ _ => rfl), hload]
  rfl

def isEmptyList : Document → Bool
  | .list [] => true
  | _ => false

theorem eq_of_isEmptyList (d : Document) (h : isEmptyList d = true) : d = .list [] := by
  unfold isEmptyList at h
  split at h
  · rfl
  · cases h

/-- **An empty list passes for settings if it is written in YAML**, and is refused in JSON. -/
theorem load_emptyList :
    Stored jsonReaders (inBothForms "[]") (some "a.yml") "." "a.yml" (.list []) ∧
    load jsonReaders (inBothForms "[]") (some "a.yml") = .ok {} ∧
    Stored jsonReaders (inBothForms "[]") (some "a.json") "." "a.json" (.list []) ∧
    load jsonReaders (inBothForms "[]") (some "a.json") =
      .error (.refused "a.json" .noMapping) := by
  have hblank := jsonReaders_refusesBlank
  obtain ⟨hyaml, hjson⟩ := @stored_inBothForms "[]" _ (by decide)
    (eq_ok_of_any eq_of_isEmptyList (by decide +kernel))
  exact ⟨hyaml, hyaml.load_of_ne_map hblank (by simp), hjson,
    hjson.load_of_ne_map hblank (by simp)⟩

end Settings

end WeakestPre
