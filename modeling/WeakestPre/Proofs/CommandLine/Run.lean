import WeakestPre.CommandLine.Run
import WeakestPre.Proofs.Settings
import WeakestPre.Proofs.Stack

/-!
# How a run ends

A run goes through four stages: it loads the settings, finds the level of the log, gets the text of
the program, and calculates. Here is what the run comes to for each way in which a stage can end.
The stages that are behind do not matter any more, so what is shown about runs need not look into
`runWp` again.

**Room** (`hasRoom`). The last stage may be broken off by the stack. It needs room for the steps of
the calculation, and if the report is to be in JSON also for the text of the program.
-/

namespace WeakestPre

/-- The report on a program and a postcondition that have been read. -/
def Report.ofTrees (S : Stmt) (R : Expr) : Report :=
  ⟨S, R, (S.derive R).1, StepLog.lines ⟨(S.derive R).2.map Step.description⟩⟩

theorem calculateWithin_texts {limit : Nat} {k : Stack} {program post : String} {S : Stmt}
    {R : Expr}
    (hS : (Stmt.ofText limit "<program>" program).result = .ok S)
    (hR : (Expr.ofText limit "<postcondition>" post).result = .ok R) :
    (calculateWithin limit k (.text program) (.text post)).1 =
      if S.fits k 0 then some (.ok (Report.ofTrees S R)) else none := by
  have hprogram : (Input.text program : Input Stmt).program limit = .ok S := hS
  have hpost : (Input.text post : Input Expr).postcondition limit = .ok R := hR
  cases hfits : S.fits k 0 with
  | true =>
    rw [calculateWithin_of_fits hprogram hpost hfits]
    rfl
  | false =>
    obtain ⟨kept, step, rest, -, hcalculate⟩ :=
      calculateWithin_of_not_fits hprogram hpost hfits .empty
    rw [hcalculate]
    rfl

namespace CommandLine

/-- A platform with settings in JSON and a small stack. -/
def jsonPlatform : Platform where
  readers := jsonReaders
  nestingLimit := 100
  stack := smallStack

variable {platform : Platform} {t : FileTree} {r : WpRequest} {settings : Settings} {level : Nat}

/-! ## Settings and the level of the log -/

/-- The name of the level at which a request logs. -/
def WpRequest.levelName (r : WpRequest) (settings : Settings) : Text.Wide :=
  if r.verbose then Text.wide "DEBUG" else Text.upper settings.logLevel

theorem runWp_of_unloaded {f : Fault} (h : r.settings.load platform.readers t = .error f) :
    runWp platform t r = .error f := by
  rw [runWp, h]
  rfl

theorem runWp_of_refused {path : String} {p : SettingsProblem}
    (h : r.settings.load platform.readers t = .ok (.error (.refused path p))) :
    runWp platform t r = .ok { exitCode := 1, output := (p.diagnostic path).toJson ++ "\n" } := by
  rw [runWp, h]
  rfl

theorem runWp_of_fault {f : SettingsFault}
    (h : r.settings.load platform.readers t = .ok (.error (.fault f))) :
    runWp platform t r = .error (.settings f) := by
  rw [runWp, h]
  rfl

theorem runWp_of_level_error {f : Fault}
    (h : r.settings.load platform.readers t = .ok (.ok settings))
    (hlevel : levelNamed (r.levelName settings) = .error f) : runWp platform t r = .error f := by
  rw [WpRequest.levelName] at hlevel
  rw [runWp, h]
  simp only [bind, Except.bind, hlevel]

theorem runWp_of_unreadable {message : String}
    (h : r.settings.load platform.readers t = .ok (.ok settings))
    (hlevel : levelNamed (r.levelName settings) = .ok level)
    (hprogram : programText t r = .error message) :
    runWp platform t r = .ok { exitCode := 1, output := complaint message } := by
  rw [WpRequest.levelName] at hlevel
  rw [runWp, h]
  simp only [bind, Except.bind, hlevel, hprogram]
  rfl

theorem runWp_of_program {program : String}
    (h : r.settings.load platform.readers t = .ok (.ok settings))
    (hlevel : levelNamed (r.levelName settings) = .ok level)
    (hprogram : programText t r = .ok program) :
    runWp platform t r = runCalculation platform settings level r program := by
  rw [WpRequest.levelName] at hlevel
  rw [runWp, h]
  simp only [bind, Except.bind, hlevel, hprogram]

/-! ## The calculation -/

variable {program program' post : String}

/-- All that counts of a program is what it is read as. -/
theorem runCalculation_congr (h : Stmt.ofText platform.nestingLimit "<program>" program =
      Stmt.ofText platform.nestingLimit "<program>" program') :
    runCalculation platform settings level r program =
      runCalculation platform settings level r program' := by
  have hlog : calculationLog platform.nestingLimit program r.post? =
      calculationLog platform.nestingLimit program' r.post? := by
    simp only [calculationLog, h]
  have hprogram : (Input.text program : Input Stmt).program platform.nestingLimit =
      (Input.text program').program platform.nestingLimit :=
    congrArg Reading.result h
  have hreport : reportOn platform program r.post? = reportOn platform program' r.post? := by
    simp only [reportOn, calculateWithin, hprogram]
  rw [runCalculation, runCalculation, hlog, hreport]

theorem runCalculation_of_program {e : SyntaxError}
    (h : (Stmt.ofText platform.nestingLimit "<program>" program).result = .error e) : ∃ log,
      runCalculation platform settings level r program =
        .ok ⟨1, e.diagnostic.toJson ++ "\n", log⟩ := by
  have hprogram : (Input.text program : Input Stmt).program platform.nestingLimit = .error e := h
  have hreport : reportOn platform program r.post? = .ok (.error (.unreadable e)) := by
    cases r.post? with
    | none => simp only [reportOn, hprogram]
    | some post => simp only [reportOn, calculateWithin_of_unreadable (.inl hprogram)]
  rw [runCalculation, hreport]
  exact ⟨_, rfl⟩

theorem runCalculation_of_postcondition {S : Stmt} {e : SyntaxError} (hpost : r.post? = some post)
    (hS : (Stmt.ofText platform.nestingLimit "<program>" program).result = .ok S)
    (h : (Expr.ofText platform.nestingLimit "<postcondition>" post).result = .error e) : ∃ log,
      runCalculation platform settings level r program =
        .ok ⟨1, e.diagnostic.toJson ++ "\n", log⟩ := by
  have hprogram : (Input.text program : Input Stmt).program platform.nestingLimit = .ok S := hS
  have hpostcondition :
      (Input.text post : Input Expr).postcondition platform.nestingLimit = .error e := h
  have hunreadable := calculateWithin_of_unreadable (k := platform.stack)
    (.inr ⟨⟨S, hprogram⟩, hpostcondition⟩) .empty
  have hreport : reportOn platform program r.post? = .ok (.error (.unreadable e)) := by
    simp only [hpost, reportOn]
    rw [hunreadable]
  rw [runCalculation, hreport]
  exact ⟨_, rfl⟩

theorem runCalculation_of_noPostcondition {S : Stmt} (hpost : r.post? = none)
    (hS : (Stmt.ofText platform.nestingLimit "<program>" program).result = .ok S) :
    runCalculation platform settings level r program = .error .noPostcondition := by
  have hprogram : (Input.text program : Input Stmt).program platform.nestingLimit = .ok S := hS
  have hreport : reportOn platform program r.post? = .error .noPostcondition := by
    simp only [hpost, reportOn, hprogram]
  rw [runCalculation, hreport]
  rfl

/-- The format in which a request has its report. -/
def WpRequest.format (r : WpRequest) (settings : Settings) : OutputFormat :=
  r.format?.getD settings.format

/-- Whether a request has the steps shown. -/
def WpRequest.showsSteps (r : WpRequest) (settings : Settings) : Bool :=
  settings.showSteps && !r.noSteps

/-- The stack has room for a calculation, and for all that the format shows of it. -/
def hasRoom (k : Stack) (format : OutputFormat) (S : Stmt) : Bool :=
  S.fits k 0 && (format != .json || S.isWritable k)

theorem reportOn_of_trees {S : Stmt} {R : Expr} (hpost : r.post? = some post)
    (hS : (Stmt.ofText platform.nestingLimit "<program>" program).result = .ok S)
    (hR : (Expr.ofText platform.nestingLimit "<postcondition>" post).result = .ok R) :
    reportOn platform program r.post? =
      if S.fits platform.stack 0 then .ok (.ok (.ofTrees S R)) else .error .exhausted := by
  simp only [hpost, reportOn, calculateWithin_texts hS hR]
  cases S.fits platform.stack 0 <;> rfl

theorem runCalculation_of_trees {S : Stmt} {R : Expr} (hpost : r.post? = some post)
    (hS : (Stmt.ofText platform.nestingLimit "<program>" program).result = .ok S)
    (hR : (Expr.ofText platform.nestingLimit "<postcondition>" post).result = .ok R)
    (hroom : hasRoom platform.stack (r.format settings) S = true) : ∃ log,
      runCalculation platform settings level r program =
        .ok ⟨0, present (r.format settings) (r.showsSteps settings) (.ofTrees S R), log⟩ := by
  obtain ⟨hfits, hwritable⟩ := Bool.and_eq_true_iff.1 hroom
  have hshown : ¬ (r.format settings = .json ∧ (!S.isWritable platform.stack) = true) := by
    simpa [or_iff_not_imp_left] using hwritable
  rw [runCalculation, reportOn_of_trees hpost hS hR, if_pos hfits]
  exact ⟨_, if_neg hshown⟩

theorem runCalculation_of_noRoom {S : Stmt} {R : Expr} (hpost : r.post? = some post)
    (hS : (Stmt.ofText platform.nestingLimit "<program>" program).result = .ok S)
    (hR : (Expr.ofText platform.nestingLimit "<postcondition>" post).result = .ok R)
    (hroom : hasRoom platform.stack (r.format settings) S = false) :
    runCalculation platform settings level r program = .error .exhausted := by
  rw [runCalculation, reportOn_of_trees hpost hS hR]
  cases hfits : S.fits platform.stack 0 with
  | false => rfl
  | true =>
    have hshown : r.format settings = .json ∧ (!S.isWritable platform.stack) = true := by
      simpa [hasRoom, hfits] using hroom
    exact if_pos hshown

/-! ## Runs that get to the program -/

/-- The settings load, and the level of the log can be used. -/
structure Prepared (platform : Platform) (t : FileTree) (r : WpRequest) (settings : Settings) :
    Prop where
  loads : r.settings.load platform.readers t = .ok (.ok settings)
  usable : ∃ level, levelNamed (r.levelName settings) = .ok level

/-- The trees of a program and a postcondition, or the error of the first that has one. -/
def readBoth (limit : Nat) (program post : String) : Except SyntaxError (Stmt × Expr) := do
  let S ← (Stmt.ofText limit "<program>" program).result
  let R ← (Expr.ofText limit "<postcondition>" post).result
  return (S, R)

theorem readBoth_eq_ok {limit : Nat} {S : Stmt} {R : Expr} :
    readBoth limit program post = .ok (S, R) ↔
    (Stmt.ofText limit "<program>" program).result = .ok S ∧
      (Expr.ofText limit "<postcondition>" post).result = .ok R := by
  rw [readBoth]
  cases (Stmt.ofText limit "<program>" program).result with
  | error e => simp [bind, Except.bind]
  | ok S' =>
    cases (Expr.ofText limit "<postcondition>" post).result with
    | error e => simp [bind, Except.bind]
    | ok R' => simp [bind, Except.bind, pure, Except.pure]

namespace Prepared

theorem run_of_unreadable {message : String} (h : Prepared platform t r settings)
    (hprogram : programText t r = .error message) :
    runWp platform t r = .ok ⟨1, complaint message, ""⟩ := by
  obtain ⟨level, hlevel⟩ := h.usable
  exact runWp_of_unreadable h.loads hlevel hprogram

theorem run_of_error {e : SyntaxError} (h : Prepared platform t r settings)
    (hprogram : programText t r = .ok program) (hpost : r.post? = some post)
    (he : readBoth platform.nestingLimit program post = .error e) :
    ∃ log, runWp platform t r = .ok ⟨1, e.diagnostic.toJson ++ "\n", log⟩ := by
  obtain ⟨level, hlevel⟩ := h.usable
  rw [runWp_of_program h.loads hlevel hprogram]
  rw [readBoth] at he
  cases hS : (Stmt.ofText platform.nestingLimit "<program>" program).result with
  | error e' =>
    obtain rfl : e' = e := by simpa [hS, bind, Except.bind] using he
    exact runCalculation_of_program hS
  | ok S =>
    cases hR : (Expr.ofText platform.nestingLimit "<postcondition>" post).result with
    | error e' =>
      obtain rfl : e' = e := by simpa [hS, hR, bind, Except.bind] using he
      exact runCalculation_of_postcondition hpost hS hR
    | ok R => simp [hS, hR, bind, Except.bind, pure, Except.pure] at he

theorem run_of_trees {S : Stmt} {R : Expr} (h : Prepared platform t r settings)
    (hprogram : programText t r = .ok program) (hpost : r.post? = some post)
    (htrees : readBoth platform.nestingLimit program post = .ok (S, R))
    (hroom : hasRoom platform.stack (r.format settings) S = true) : ∃ log, runWp platform t r =
      .ok ⟨0, present (r.format settings) (r.showsSteps settings) (.ofTrees S R), log⟩ := by
  obtain ⟨level, hlevel⟩ := h.usable
  obtain ⟨hS, hR⟩ := readBoth_eq_ok.1 htrees
  rw [runWp_of_program h.loads hlevel hprogram]
  exact runCalculation_of_trees hpost hS hR hroom

theorem run_of_noRoom {S : Stmt} {R : Expr} (h : Prepared platform t r settings)
    (hprogram : programText t r = .ok program) (hpost : r.post? = some post)
    (htrees : readBoth platform.nestingLimit program post = .ok (S, R))
    (hroom : hasRoom platform.stack (r.format settings) S = false) :
    runWp platform t r = .error .exhausted := by
  obtain ⟨level, hlevel⟩ := h.usable
  obtain ⟨hS, hR⟩ := readBoth_eq_ok.1 htrees
  rw [runWp_of_program h.loads hlevel hprogram]
  exact runCalculation_of_noRoom hpost hS hR hroom

end Prepared

end CommandLine

end WeakestPre
