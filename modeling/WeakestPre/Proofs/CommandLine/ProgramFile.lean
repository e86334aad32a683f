import WeakestPre.Proofs.CommandLine.Run
import WeakestPre.Proofs.Text.Utf8
import WeakestPre.Proofs.Token.LineBreak

/-!
# Programs in files

**Reading the file** (`runWp_file_eq`). A program in a file is the program that the text of the file
would be with one kind of line breaks, whatever else is asked for.

**Line breaks** (`runWp_asRead`). The two texts are read alike, so the two runs end alike. They
can differ only if the program cannot be read: then both say why, and the place may be another.

**Theorem** (`runWp_fromFile`). A program may be given in a file or as it is.
-/

namespace WeakestPre

/-! ## Errors and their places -/

namespace SyntaxError

theorem unplaced_fields (e : SyntaxError) : e.unplaced.kind = e.kind ∧
    e.unplaced.expected = e.expected ∧ e.unplaced.found = e.found ∧
    e.unplaced.message? = e.message? := by
  cases e <;> exact ⟨rfl, rfl, rfl, rfl⟩

/-- Errors that differ in their places only have the same diagnostic up to its place. -/
theorem diagnostic_of_unplaced {e e' : SyntaxError} (h : e.unplaced = e'.unplaced) :
    e.diagnostic.kind = e'.diagnostic.kind ∧ e.diagnostic.message = e'.diagnostic.message ∧
      e.diagnostic.details = e'.diagnostic.details := by
  obtain ⟨hkind, hexpected, hfound, hmessage⟩ := e.unplaced_fields
  obtain ⟨hkind', hexpected', hfound', hmessage'⟩ := e'.unplaced_fields
  rw [h] at hkind hexpected hfound hmessage
  simp only [diagnostic, Diagnostic.mismatch, ← hkind, ← hexpected, ← hfound, ← hmessage, hkind',
    hexpected', hfound', hmessage', and_self]

end SyntaxError

variable {program : String}

/-- The text of a file that holds the text: all line breaks are of one kind. -/
def Text.asRead (s : String) : String := String.ofList (unifyBreaks s.toList)

theorem Text.asRead_eq_self {s : String} (h : '\r' ∉ s.toList) : asRead s = s := by
  rw [asRead, unifyBreaks_eq_self h, String.ofList_toList]

/-- **A program is read from a file as it is read on its own**, up to the place of its error. -/
theorem Stmt.ofText_asRead (limit : Nat) (source program : String) :
    Stmt.ofText limit source (Text.asRead program) = Stmt.ofText limit source program ∨
      ∃ e e', (Stmt.ofText limit source (Text.asRead program)).result = .error e ∧
        (Stmt.ofText limit source program).result = .error e' ∧ e.unplaced = e'.unplaced := by
  obtain ⟨hcount, hresult⟩ := readText_of_cutAlike (Grammar.statement_blind limit).2
    (tokenize_unifyBreaks source source program)
  rw [Stmt.ofText, Stmt.ofText, Text.asRead]
  revert hcount hresult
  -- From here on the two readings may be any.
  generalize readText _ source program = given
  generalize readText _ source _ = read
  obtain ⟨count, result⟩ := given
  obtain ⟨count', result'⟩ := read
  rintro (rfl : count = count') hresult
  cases result with
  | ok S =>
    cases result' with
    | ok S' =>
      cases hresult
      exact .inl rfl
    | error e => cases hresult
  | error e' =>
    cases result' with
    | ok S => cases hresult
    | error e => exact .inr ⟨e, e', rfl, rfl, (Except.error.inj hresult).symm⟩

/-! ## Runs -/

theorem FileTree.has_of_read {t : FileTree} {path : String} {bytes : List UInt8}
    (h : t.read path = .ok bytes) : t.has path = true := by
  rw [FileTree.has]
  rw [FileTree.read] at h
  cases hfind : t.find path with
  | ok entry => rfl
  | error e =>
    rw [hfind] at h
    cases h

namespace CommandLine

variable {platform : Platform} {t : FileTree} {r : WpRequest} {path : String}

/-- The request for a program in a file. -/
def WpRequest.fromFile (r : WpRequest) (path : String) : WpRequest :=
  { r with program := path, file := true }

/-- The request for a program that is given as it is. -/
def WpRequest.inline (r : WpRequest) (program : String) : WpRequest :=
  { r with program, file := false }

/-- **A program in a file is the text of the file.** -/
theorem runWp_file_eq (platform : Platform)
    (h : t.read path = .ok program.toUTF8.data.toList) (r : WpRequest) :
    runWp platform t (r.fromFile path) = runWp platform t (r.inline (Text.asRead program)) := by
  have hfile : programText t (r.fromFile path) = .ok (Text.asRead program) := by
    simp only [programText, WpRequest.fromFile, FileTree.has_of_read h, h, Text.readText_toUTF8,
      if_true]
    rfl
  have hinline : programText t (r.inline (Text.asRead program)) = .ok (Text.asRead program) := rfl
  rw [runWp, runWp, hfile, hinline]
  rfl

/-- **Line breaks do not matter for how a run ends**, except for where the error of the program is
said to be. -/
theorem runWp_asRead (platform : Platform) (t : FileTree) (r : WpRequest) (program : String) :
    runWp platform t (r.inline (Text.asRead program)) = runWp platform t (r.inline program) ∨
      ∃ (e e' : SyntaxError) (log log' : String),
        (Stmt.ofText platform.nestingLimit "<program>" program).result = .error e' ∧
        e.unplaced = e'.unplaced ∧
        runWp platform t (r.inline (Text.asRead program)) =
          .ok ⟨1, e.diagnostic.toJson ++ "\n", log⟩ ∧
        runWp platform t (r.inline program) = .ok ⟨1, e'.diagnostic.toJson ++ "\n", log'⟩ := by
  -- A run that ends before it looks at the program ends so for every program.
  have hstop : ∀ result, (∀ p, runWp platform t (r.inline p) = result) →
      runWp platform t (r.inline (Text.asRead program)) = runWp platform t (r.inline program) := by
    intro result h
    rw [h, h]
  cases hsettings : r.settings.load platform.readers t with
  | error f => exact .inl (hstop _ fun _ => runWp_of_unloaded hsettings)
  | ok loaded =>
    rcases loaded with (⟨path, p⟩ | f) | settings
    · exact .inl (hstop _ fun _ => runWp_of_refused hsettings)
    · exact .inl (hstop _ fun _ => runWp_of_fault hsettings)
    cases hlevel : levelNamed (r.levelName settings) with
    | error f => exact .inl (hstop _ fun _ => runWp_of_level_error hsettings hlevel)
    | ok level =>
      have hrun : ∀ p, runWp platform t (r.inline p) =
          runCalculation platform settings level (r.inline p) p :=
        fun _ => runWp_of_program hsettings hlevel rfl
      rw [hrun, hrun]
      rcases Stmt.ofText_asRead platform.nestingLimit "<program>" program with
        hread | ⟨e, e', he, he', hunplaced⟩
      · left
        rw [runCalculation_congr hread]
        rfl
      · right
        obtain ⟨log, hlog⟩ : ∃ log, runCalculation platform settings level
            (r.inline (Text.asRead program)) (Text.asRead program) =
              .ok ⟨1, e.diagnostic.toJson ++ "\n", log⟩ :=
          runCalculation_of_program he
        obtain ⟨log', hlog'⟩ : ∃ log, runCalculation platform settings level (r.inline program)
            program = .ok ⟨1, e'.diagnostic.toJson ++ "\n", log⟩ := runCalculation_of_program he'
        exact ⟨e, e', log, log', he', hunplaced, hlog, hlog'⟩

/-- **A program in a file means the same as the program given as it is.** Both runs break off alike,
or both complete alike, up to the place of an error of the program. -/
theorem runWp_fromFile (platform : Platform)
    (h : t.read path = .ok program.toUTF8.data.toList) (r : WpRequest) :
    (∃ f, runWp platform t (r.fromFile path) = .error f ∧
      runWp platform t (r.inline program) = .error f) ∨
    ∃ c c', runWp platform t (r.fromFile path) = .ok c ∧
      runWp platform t (r.inline program) = .ok c' ∧ c.exitCode = c'.exitCode ∧
      (c.exitCode = 0 → c.output = c'.output) ∧ ('\r' ∉ program.toList → c = c') ∧
      (c = c' ∨ ∃ e e' : SyntaxError,
        (Stmt.ofText platform.nestingLimit "<program>" program).result = .error e' ∧
        c.output = e.diagnostic.toJson ++ "\n" ∧ c'.output = e'.diagnostic.toJson ++ "\n" ∧
        e.diagnostic.kind = e'.diagnostic.kind ∧
        e.diagnostic.message = e'.diagnostic.message ∧
        e.diagnostic.details = e'.diagnostic.details) := by
  rw [runWp_file_eq platform h]
  rcases runWp_asRead platform t r program with
    heq | ⟨e, e', log, log', he', hunplaced, hrun, hrun'⟩
  · rw [heq]
    cases hrun : runWp platform t (r.inline program) with
    | error f => exact .inl ⟨f, rfl, rfl⟩
    | ok c => exact .inr ⟨c, c, rfl, rfl, rfl, fun _ => rfl, fun _ => rfl, .inl rfl⟩
  · obtain ⟨hkind, hmessage, hdetails⟩ := SyntaxError.diagnostic_of_unplaced hunplaced
    refine .inr ⟨_, _, hrun, hrun', rfl, fun hzero => absurd hzero Nat.one_ne_zero, ?_,
      .inr ⟨e, e', he', rfl, rfl, hkind, hmessage, hdetails⟩⟩
    intro hreturn
    rw [Text.asRead_eq_self hreturn, hrun'] at hrun
    exact (Except.ok.inj hrun).symm

/-- A program with three kinds of line breaks, and with a character that starts no token. -/
def mixedBreaks : String := "x := 1\r;\r\ny :=\n@"

/-- The only file holds the program. -/
def mixedBreaksTree : FileTree := ⟨[], [(["p"], .file mixedBreaks.toUTF8.data.toList)]⟩

theorem runWp_fromFile_mixedBreaks : ∃ (r : WpRequest) (c c' : Completion),
    runWp jsonPlatform mixedBreaksTree (r.fromFile "p") = .ok c ∧
    runWp jsonPlatform mixedBreaksTree (r.inline mixedBreaks) = .ok c' ∧
    c.exitCode = c'.exitCode := by
  let r : WpRequest := { program := "", post? := some "x > y" }
  have hcompletes : (runWp jsonPlatform mixedBreaksTree (r.inline mixedBreaks)).isOk = true := by
    decide +kernel
  have hfile : mixedBreaksTree.read "p" = .ok mixedBreaks.toUTF8.data.toList := rfl
  rcases runWp_fromFile jsonPlatform hfile r with ⟨f, -, hf⟩ | ⟨c, c', hc, hc', hcode, -⟩
  · exact absurd hf (ne_error_of_isOk hcompletes f)
  · exact ⟨r, c, c', hc, hc', hcode⟩

end CommandLine

end WeakestPre
