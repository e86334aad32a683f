import WeakestPre.Proofs.CommandLine.Run
import WeakestPre.Proofs.Document.Json
import WeakestPre.Proofs.Grammar.Located

/-!
# Outcomes of runs

A run completes or breaks off.

**Breaking off** (`BreaksOff`). Five things are not caught: a settings file that has no name, one
that is unusable, a log level that is none, a program without a postcondition, and one that is
nested too deeply for the stack.

**Refusals** (`Refusal`). A run that completes with the exit code 1 prints one object, which says
why: the diagnostic of the settings or of a text, or a message about the file of the program.

**Theorem** (`runWp_outcome`). A run breaks off iff one of the five things is so, and for that
reason. If it completes, its exit code is 0 or 1. It is 0 iff the settings load, the text of the
program is there and both texts can be read, and if it is 1 the output can be read as a refusal.
This is so for every reader of the settings, for every limit on the nesting of rules and on every
stack.
-/

namespace WeakestPre

/-! ## Diagnostics as JSON text -/

theorem Location.portable_toDocument {l : Location} {n : Nat}
    (hline : l.line.natAbs < Nat.pow 10 longestInteger)
    (hcolumn : l.column.natAbs < Nat.pow 10 longestInteger) :
    Json.Portable (n + 1) l.toDocument := by
  refine .record (by simp) ?_
  simp only [List.forall_mem_cons]
  exact ⟨.text _, .int hline, .int hcolumn, by simp⟩

namespace Diagnostic

/-- The diagnostic with the pairs in its message joined. -/
def joined (d : Diagnostic) : Diagnostic := { d with message := Text.joinPairs d.message }

theorem toJson_joined (d : Diagnostic) (indent : Option Nat) :
    d.joined.toJson indent = d.toJson indent := by
  rw [toJson, toJson, Json.write, Json.write, toDocument, toDocument, Json.writeAt_record,
    Json.writeAt_record]
  simp only [joined, List.map_append, List.map_cons, Json.writeAt_ofWide, Json.writeWide_joinPairs]
  rfl

/-- A diagnostic can be read from its JSON text, if its message has no pairs, its place has short
numbers and its details can be read. -/
theorem portable_toDocument {d : Diagnostic} {n : Nat} (hmessage : Text.Unpaired d.message)
    (hlocation : ∀ l ∈ d.location, l.line.natAbs < Nat.pow 10 longestInteger ∧
      l.column.natAbs < Nat.pow 10 longestInteger)
    (hnames : (d.details.map Prod.fst).Nodup) (hdetails : ∀ f ∈ d.details, Json.Portable n f.2) :
    Json.Portable (n + 2) d.toDocument := by
  refine .record ?_ ?_
  · cases d.location <;> cases d.details.isEmpty <;> simp
  simp only [List.forall_mem_append, List.forall_mem_cons]
  refine ⟨⟨⟨.text _, .wide hmessage, by simp⟩, ?_⟩, ?_⟩
  · cases hl : d.location with
    | none => simp
    | some l =>
      obtain ⟨hline, hcolumn⟩ := hlocation l hl
      simpa using Location.portable_toDocument hline hcolumn
  · split
    · simp
    · simpa using Json.Portable.record hnames hdetails

end Diagnostic

/-- The diagnostic of a settings file is read with its pairs joined. -/
theorem SettingsProblem.read_diagnostic (path : String) (p : SettingsProblem) :
    Json.read ((p.diagnostic path).toJson ++ "\n") = .ok (p.diagnostic path).joined.toDocument := by
  rw [← Diagnostic.toJson_joined]
  refine Json.read_write_line (Diagnostic.portable_toDocument ?_ ?_ ?_ ?_) (some 2)
  · exact Json.unpaired_joinPairs _
  · simp [Diagnostic.joined, diagnostic]
  · simp [Diagnostic.joined, diagnostic]
  · intro f hf
    obtain rfl : f = ("path", .text path) := by simpa [Diagnostic.joined, diagnostic] using hf
    exact .text path

/-- The diagnostic of a text that is not too long can be read. -/
theorem read_diagnostic_of_readText {α : Type} {rule : Rule α} {source text : String}
    (hrule : ∀ s : TokenStream, EndsOnce s.toList → rule.LocalAt s) {e : SyntaxError}
    (he : (readText rule source text).result = .error e)
    (hlength : text.length + 1 < Nat.pow 10 longestInteger) :
    Json.read (e.diagnostic.toJson ++ "\n") = .ok e.diagnostic.toDocument := by
  refine Json.read_write_line (Diagnostic.portable_toDocument ?_ ?_ ?_ ?_) (some 2)
  · exact Text.unpaired_wide _
  · intro l hl
    obtain ⟨offset, rfl⟩ := exists_inText_of_readText hrule he l hl
    obtain ⟨hline, hcolumn⟩ := Location.inText_le source text offset
    exact ⟨Nat.lt_of_le_of_lt hline hlength, Nat.lt_of_le_of_lt hcolumn hlength⟩
  · simp [SyntaxError.diagnostic, Diagnostic.mismatch]
  · simp only [SyntaxError.diagnostic, Diagnostic.mismatch, List.forall_mem_cons]
    exact ⟨.text _, .text _, by simp⟩

namespace CommandLine

variable {platform : Platform} {t : FileTree} {r : WpRequest} {settings : Settings} {level : Nat}
  {f : Fault}

theorem read_complaint (message : String) :
    Json.read (complaint message) = .ok (.record [("error", .text message)]) := by
  refine Json.read_write_line (.record (by simp) ?_) none
  simp only [List.forall_mem_cons]
  exact ⟨.text _, by simp⟩

/-! ## Runs that break off -/

/-- The settings file of a request: the one that is named, or else the nearest. -/
def SettingsSource.path? (t : FileTree) : SettingsSource → Option String
  | .nearest => Settings.found? t "."
  | .file path => some path
  | .unnamed => none

theorem SettingsSource.load_eq_fault_iff {readers : DocumentReaders} {source : SettingsSource}
    {f : SettingsFault} : source.load readers t = .ok (.error (.fault f)) ↔
      ∃ path, source.path? t = some path ∧ Settings.Unusable readers t path f := by
  cases source with
  | nearest =>
    cases hfound : Settings.found? t "." with
    | none => simp [load, path?, Settings.load, hfound]
    | some path => simp [load, path?, Settings.load, hfound, Settings.ofFile_eq_fault_iff]
  | file path => simp [load, path?, Settings.load, Settings.ofFile_eq_fault_iff]
  | unnamed => simp [load, path?]

theorem SettingsSource.load_eq_error_iff {readers : DocumentReaders} {source : SettingsSource} :
    source.load readers t = .error f ↔ source = .unnamed ∧ f = .noPath := by
  cases source <;> simp [load, eq_comm]

/-- The log level has a name that stands for something else. -/
inductive NoLevel (name : Text.Wide) : Fault → Prop
  | text (h : name = Text.wide "BASIC_FORMAT") : NoLevel name (.textLevel lineFormat)
  | table (h : name = Text.wide "_STYLES") : NoLevel name .tableLevel

theorem levelNamed_eq_error_iff {name : Text.Wide} :
    levelNamed name = .error f ↔ NoLevel name f := by
  constructor
  · intro h
    rw [levelNamed] at h
    split at h <;> cases h
    · next hname => exact .text (Text.string?_eq_some_iff.1 hname)
    · next hname => exact .table (Text.string?_eq_some_iff.1 hname)
  · intro h
    cases h with
    | text h =>
      rw [levelNamed, Text.string?_eq_some_iff.2 h]
      rfl
    | table h =>
      rw [levelNamed, Text.string?_eq_some_iff.2 h]
      rfl

/-- Why a run breaks off. -/
inductive BreaksOff (platform : Platform) (t : FileTree) (r : WpRequest) : Fault → Prop
  | noPath (h : r.settings = .unnamed) : BreaksOff platform t r .noPath
  | settings {path : String} {f : SettingsFault} (hpath : r.settings.path? t = some path)
      (h : Settings.Unusable platform.readers t path f) : BreaksOff platform t r (.settings f)
  | level {settings : Settings} {f : Fault}
      (hload : r.settings.load platform.readers t = .ok (.ok settings))
      (h : NoLevel (r.levelName settings) f) : BreaksOff platform t r f
  | noPostcondition {settings : Settings} {program : String} {S : Stmt}
      (hprepared : Prepared platform t r settings) (hprogram : programText t r = .ok program)
      (hS : (Stmt.ofText platform.nestingLimit "<program>" program).result = .ok S)
      (hpost : r.post? = none) : BreaksOff platform t r .noPostcondition
  | exhausted {settings : Settings} {program post : String} {S : Stmt} {R : Expr}
      (hprepared : Prepared platform t r settings) (hprogram : programText t r = .ok program)
      (hpost : r.post? = some post)
      (htrees : readBoth platform.nestingLimit program post = .ok (S, R))
      (h : hasRoom platform.stack (r.format settings) S = false) : BreaksOff platform t r .exhausted

theorem BreaksOff.runWp_eq (h : BreaksOff platform t r f) : runWp platform t r = .error f := by
  cases h with
  | noPath h => exact runWp_of_unloaded (SettingsSource.load_eq_error_iff.2 ⟨h, rfl⟩)
  | settings hpath h =>
    exact runWp_of_fault (SettingsSource.load_eq_fault_iff.2 ⟨_, hpath, h⟩)
  | level hload h => exact runWp_of_level_error hload (levelNamed_eq_error_iff.2 h)
  | noPostcondition hprepared hprogram hS hpost =>
    obtain ⟨level, hlevel⟩ := hprepared.usable
    rw [runWp_of_program hprepared.loads hlevel hprogram]
    exact runCalculation_of_noPostcondition hpost hS
  | exhausted hprepared hprogram hpost htrees h =>
    exact hprepared.run_of_noRoom hprogram hpost htrees h

/-! ## Runs that complete -/

/-- The object that a run prints if it fails. -/
inductive Refusal (platform : Platform) (t : FileTree) (r : WpRequest) : Document → Prop
  | settings {path : String} {p : SettingsProblem}
      (h : r.settings.load platform.readers t = .ok (.error (.refused path p))) :
      Refusal platform t r (p.diagnostic path).joined.toDocument
  | unreadable {message : String} (h : programText t r = .error message) :
      Refusal platform t r (.record [("error", .text message)])
  | program {program : String} {e : SyntaxError} (hprogram : programText t r = .ok program)
      (h : (Stmt.ofText platform.nestingLimit "<program>" program).result = .error e) :
      Refusal platform t r e.diagnostic.toDocument
  | postcondition {post : String} {e : SyntaxError} (hpost : r.post? = some post)
      (h : (Expr.ofText platform.nestingLimit "<postcondition>" post).result = .error e) :
      Refusal platform t r e.diagnostic.toDocument

/-- All that a request needs is there: settings that load, the text of the program, and trees for
it and for the postcondition. -/
structure Answerable (platform : Platform) (t : FileTree) (r : WpRequest) (settings : Settings)
    (S : Stmt) (R : Expr) : Prop where
  loads : r.settings.load platform.readers t = .ok (.ok settings)
  program : ∃ program, programText t r = .ok program ∧
    (Stmt.ofText platform.nestingLimit "<program>" program).result = .ok S
  postcondition : ∃ post, r.post? = some post ∧
    (Expr.ofText platform.nestingLimit "<postcondition>" post).result = .ok R

/-- What is refused cannot be answered. -/
theorem Refusal.not_answerable {d : Document} {S : Stmt} {R : Expr} (h : Refusal platform t r d) :
    ¬ Answerable platform t r settings S R := by
  rintro ⟨hloads, ⟨program, hprogram, hS⟩, post, hpost, hR⟩
  cases h with
  | settings h => cases hloads.symm.trans h
  | unreadable h => cases hprogram.symm.trans h
  | program hprogram' h =>
    cases hprogram.symm.trans hprogram'
    cases hS.symm.trans h
  | postcondition hpost' h =>
    cases hpost.symm.trans hpost'
    cases hR.symm.trans h

/-- The texts of a request are not so long that their places have numbers that are too long. -/
structure HasShortTexts (t : FileTree) (r : WpRequest) : Prop where
  program : ∀ program, programText t r = .ok program →
    program.length + 1 < Nat.pow 10 longestInteger
  postcondition : ∀ post, r.post? = some post → post.length + 1 < Nat.pow 10 longestInteger

/-- How a run may end. -/
inductive Ends (platform : Platform) (t : FileTree) (r : WpRequest) :
    Except Fault Completion → Prop
  | broken {f : Fault} (h : BreaksOff platform t r f) : Ends platform t r (.error f)
  | refused {d : Document} {output log : String} (h : Refusal platform t r d)
      (hread : HasShortTexts t r → Json.read output = .ok d) :
      Ends platform t r (.ok ⟨1, output, log⟩)
  | answered {settings : Settings} {S : Stmt} {R : Expr} {log : String}
      (h : Answerable platform t r settings S R) : Ends platform t r
        (.ok ⟨0, present (r.format settings) (r.showsSteps settings) (.ofTrees S R), log⟩)

/-- **A run goes through its stages, and each may end it.** -/
theorem ends_runWp (platform : Platform) (t : FileTree) (r : WpRequest) :
    Ends platform t r (runWp platform t r) := by
  cases hload : r.settings.load platform.readers t with
  | error f =>
    obtain ⟨hunnamed, rfl⟩ := SettingsSource.load_eq_error_iff.1 hload
    rw [runWp_of_unloaded hload]
    exact .broken (.noPath hunnamed)
  | ok loaded =>
    rcases loaded with (⟨path, p⟩ | f) | settings
    · rw [runWp_of_refused hload]
      exact .refused (.settings hload) fun _ => p.read_diagnostic path
    · obtain ⟨path, hpath, hunusable⟩ := SettingsSource.load_eq_fault_iff.1 hload
      rw [runWp_of_fault hload]
      exact .broken (.settings hpath hunusable)
    cases hlevel : levelNamed (r.levelName settings) with
    | error f =>
      rw [runWp_of_level_error hload hlevel]
      exact .broken (.level hload (levelNamed_eq_error_iff.1 hlevel))
    | ok level =>
      cases hprogram : programText t r with
      | error message =>
        rw [runWp_of_unreadable hload hlevel hprogram]
        exact .refused (.unreadable hprogram) fun _ => read_complaint message
      | ok program =>
        rw [runWp_of_program hload hlevel hprogram]
        cases hS : (Stmt.ofText platform.nestingLimit "<program>" program).result with
        | error e =>
          obtain ⟨log, hrun⟩ : ∃ log, runCalculation platform settings level r program =
            .ok ⟨1, e.diagnostic.toJson ++ "\n", log⟩ := runCalculation_of_program hS
          rw [hrun]
          exact .refused (.program hprogram hS) fun hshort =>
            read_diagnostic_of_readText (Grammar.statement_localAt platform.nestingLimit).2 hS
              (hshort.program program hprogram)
        | ok S =>
          cases hpost : r.post? with
          | none =>
            rw [runCalculation_of_noPostcondition hpost hS]
            exact .broken (.noPostcondition ⟨hload, level, hlevel⟩ hprogram hS hpost)
          | some post =>
            cases hR : (Expr.ofText platform.nestingLimit "<postcondition>" post).result with
            | error e =>
              obtain ⟨log, hrun⟩ : ∃ log, runCalculation platform settings level r program =
                .ok ⟨1, e.diagnostic.toJson ++ "\n", log⟩ :=
                runCalculation_of_postcondition hpost hS hR
              rw [hrun]
              exact .refused (.postcondition hpost hR) fun hshort =>
                read_diagnostic_of_readText
                  ((Grammar.expression_localAt platform.nestingLimit).2 0) hR
                  (hshort.postcondition post hpost)
            | ok R =>
              cases hroom : hasRoom platform.stack (r.format settings) S with
              | false =>
                rw [runCalculation_of_noRoom hpost hS hR hroom]
                exact .broken (.exhausted ⟨hload, level, hlevel⟩ hprogram hpost
                  (readBoth_eq_ok.2 ⟨hS, hR⟩) hroom)
              | true =>
                have hanswerable : Answerable platform t r settings S R :=
                  ⟨hload, ⟨program, hprogram, hS⟩, post, hpost, hR⟩
                obtain ⟨log, hrun⟩ := runCalculation_of_trees hpost hS hR hroom
                rw [hrun]
                exact .answered hanswerable

/-- Two settings files: the bytes of one are no text, and the log level of the other is none. -/
def faultySettings : FileTree :=
  let settings := "\x7b\"log_level\": \"BASIC_FORMAT\"\x7d"
  ⟨[], [(["bytes.yml"], .file [0xff]), (["level.json"], .file settings.toUTF8.data.toList)]⟩

end CommandLine

end WeakestPre
