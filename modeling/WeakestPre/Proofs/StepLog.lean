import Mathlib.Data.List.DropRight
import WeakestPre.Proofs.Derivation

/-!
# Sessions with a log

A session is a run of calls on one log. Its state holds the log and what was taken from it so far:
the snapshots, and for each iterator the steps that it has still to give.

**Recorded descriptions** (`recorded`). What a log holds is told from the calls alone: the
descriptions that were given since the last clearing and are not blank, each as it was given. A
calculation gives the descriptions of its steps.

**Invariant** (`Follows`). After any calls the log holds the recorded descriptions. Every snapshot
holds the steps that were shown when it was taken, and every iterator those of the moment when it
was started, less one for each time that it was asked since. Each call keeps this
(`Follows.concat`), so every run does (`follows_runAll`).
-/

namespace WeakestPre.StepLog

/-! ## Calls -/

/-- What can be asked of a log. -/
inductive Call where
  | record (description? : Option String)
  | calculate (limit : Nat) (program : Input Stmt) (post : Input Expr)
  | clear
  /-- Takes a snapshot. -/
  | steps
  /-- Starts an iterator. -/
  | iterate
  /-- Asks the iterator with the number for its next step. -/
  | next (iterator : Nat)
  | length
  | hasSteps

/-- What a call answers. -/
inductive Reply where
  | done
  | refused (e : LogError)
  | calculated (result : Except CalculationError Report)
  | steps (lines : List String)
  | step (line? : Option String)
  | length (n : Nat)
  | hasSteps (b : Bool)

/-- A log in use. -/
structure Session where
  log : StepLog := .empty
  /-- The snapshots in the order in which they were taken. -/
  snapshots : List (List String) := []
  /-- What each iterator has still to give. -/
  iterators : List (List String) := []

namespace Call

def run (s : Session) : Call → Reply × Session
  | .record description? =>
    match s.log.recordValue (description?.elim .nothing .text) with
    | .ok log => (.done, { s with log })
    | .error e => (.refused e, s)
  | .calculate limit program post =>
    match WeakestPre.calculate limit program post s.log with
    | .ok (report, log) => (.calculated (.ok report), { s with log })
    | .error e => (.calculated (.error e), s)
  | .clear => (.done, { s with log := .empty })
  | .steps => (.steps s.log.lines, { s with snapshots := s.snapshots ++ [s.log.lines] })
  | .iterate => (.done, { s with iterators := s.iterators ++ [s.log.lines] })
  | .next i =>
    (.step ((s.iterators[i]?).bind List.head?),
      { s with iterators := s.iterators.modify i List.tail })
  | .length => (.length s.log.length, s)
  | .hasSteps => (.hasSteps s.log.hasSteps, s)

/-- The session after some calls on a new log. -/
def runAll (calls : List Call) : Session := calls.foldl (fun s call => (call.run s).2) {}

theorem runAll_concat (calls : List Call) (call : Call) :
    runAll (calls ++ [call]) = (call.run (runAll calls)).2 := by
  simp [runAll]

/-! ## What the calls tell -/

def isClear : Call → Bool
  | .clear => true
  | _ => false

def takesSnapshot : Call → Bool
  | .steps => true
  | _ => false

def startsIterator : Call → Bool
  | .iterate => true
  | _ => false

/-- The call asks the iterator with the number. -/
def asks (i : Nat) : Call → Bool
  | .next j => j == i
  | _ => false

/-- The descriptions that a call gives to the log, blank ones apart. -/
def given : Call → List String
  | .record (some d) => if Text.isBlankText d then [] else [d]
  | .calculate limit program post =>
    match program.program limit, post.postcondition limit with
    | .ok S, .ok R => (S.derive R).2.map Step.description
    | _, _ => []
  | _ => []

end Call

/-- The descriptions that were given since the last clearing. -/
def recorded (calls : List Call) : List String :=
  (calls.rtakeWhile fun call => !call.isClear).flatMap Call.given

/-- The steps as they are shown after some calls, numbered from one. -/
def shown (calls : List Call) : List String :=
  (recorded calls).mapIdx fun i d => toString (i + 1) ++ ". " ++ d

variable {calls : List Call} {call : Call} {s : Session}

theorem recorded_concat_clear (calls : List Call) : recorded (calls ++ [.clear]) = [] := by
  simp [recorded, Call.isClear]

theorem recorded_concat (calls : List Call) (h : call.isClear = false) :
    recorded (calls ++ [call]) = recorded calls ++ call.given := by
  simp [recorded, h]

/-! ## The log -/

theorem lines_eq_mapIdx (log : StepLog) :
    log.lines = log.descriptions.mapIdx fun i d => toString (i + 1) ++ ". " ++ d := by
  have h := numbered_map 1 id log.descriptions
  simpa only [lines, List.map_id, id, Nat.add_comm 1] using h

/-- A refused description leaves the session as it was. -/
theorem run_record_of_blank {description? : Option String}
    (h : ∀ d ∈ description?, Text.isBlankText d = true) (s : Session) :
    (Call.record description?).run s = (.refused .blankDescription, s) := by
  cases description? with
  | none => rfl
  | some d =>
    have hrecord : s.log.record d = .error .blankDescription := if_pos (h d rfl)
    simp [Call.run, recordValue, hrecord]

theorem run_record_of_not_blank {d : String} (h : Text.isBlankText d = false) (s : Session) :
    (Call.record (some d)).run s = (.done, { s with log := ⟨s.log.descriptions ++ [d]⟩ }) := by
  simp [Call.run, recordValue, record_eq_ok h]

/-- A calculation that fails gives nothing, and any other records its steps. -/
theorem run_calculate (limit : Nat) (program : Input Stmt) (post : Input Expr) (s : Session) :
    ((Call.calculate limit program post).run s).2 =
      { s with log := ⟨s.log.descriptions ++ (Call.calculate limit program post).given⟩ } := by
  cases hS : program.program limit with
  | error e => simp [Call.run, Call.given, calculate_of_program hS, hS]
  | ok S =>
    cases hR : post.postcondition limit with
    | error e => simp [Call.run, Call.given, calculate_of_postcondition hS hR, hS, hR]
    | ok R => simp [Call.run, Call.given, calculate_eq_ok hS hR, hS, hR]

/-- **Every call but a clearing adds what it gives.** -/
theorem descriptions_run (h : call.isClear = false) (s : Session) :
    (call.run s).2.log.descriptions = s.log.descriptions ++ call.given := by
  cases call with
  | clear => simp [Call.isClear] at h
  | calculate limit program post => rw [run_calculate]
  | record description? =>
    cases description? with
    | none => simp [Call.run, recordValue, Call.given]
    | some d =>
      cases hd : Text.isBlankText d with
      | true =>
        rw [run_record_of_blank (by simpa using hd)]
        simp [Call.given, hd]
      | false => simp [run_record_of_not_blank hd, Call.given, hd]
  | steps | iterate | next i | length | hasSteps => simp [Call.run, Call.given]

/-- Only a call that takes a snapshot changes the snapshots. -/
theorem snapshots_run (call : Call) (s : Session) : (call.run s).2.snapshots =
    s.snapshots ++ if call.takesSnapshot then [s.log.lines] else [] := by
  cases call with
  | record description? =>
    rw [Call.run]
    split <;> simp [Call.takesSnapshot]
  | calculate limit program post => simp [run_calculate, Call.takesSnapshot]
  | clear | steps | iterate | next i | length | hasSteps => simp [Call.run, Call.takesSnapshot]

theorem length_iterators_run (call : Call) (s : Session) : (call.run s).2.iterators.length =
    s.iterators.length + if call.startsIterator then 1 else 0 := by
  cases call with
  | record description? =>
    rw [Call.run]
    split <;> simp [Call.startsIterator]
  | calculate limit program post => simp [run_calculate, Call.startsIterator]
  | clear | steps | iterate | next i | length | hasSteps => simp [Call.run, Call.startsIterator]

/-- An iterator gives up a step where it is asked for one, and no other call changes it. -/
theorem getElem?_iterators_run (call : Call) (s : Session) {i : Nat}
    (hi : i < s.iterators.length) : (call.run s).2.iterators[i]? =
      (s.iterators[i]?).map fun rest => if call.asks i then rest.tail else rest := by
  cases call with
  | record description? =>
    rw [Call.run]
    split <;> simp [Call.asks]
  | calculate limit program post => simp [run_calculate, Call.asks]
  | next j =>
    by_cases hj : j = i
    · subst hj
      simp [Call.run, Call.asks]
    · simp [Call.run, Call.asks, hj]
  | iterate => simp [Call.run, Call.asks, List.getElem?_append_left hi]
  | clear | steps | length | hasSteps => simp [Call.run, Call.asks]

/-! ## The invariant -/

/-- The state of a session after some calls. -/
structure Follows (calls : List Call) (s : Session) : Prop where
  descriptions_eq : s.log.descriptions = recorded calls
  length_snapshots : s.snapshots.length = calls.countP Call.takesSnapshot
  snapshot_eq : ∀ before behind, calls = before ++ .steps :: behind →
    s.snapshots[before.countP Call.takesSnapshot]? = some (shown before)
  length_iterators : s.iterators.length = calls.countP Call.startsIterator
  iterator_eq : ∀ before behind, calls = before ++ .iterate :: behind →
    s.iterators[before.countP Call.startsIterator]? =
      some ((shown before).drop (behind.countP (Call.asks (before.countP Call.startsIterator))))

/-- A call of a run that is one call longer is its last one, or one of the run before. -/
theorem last_or_before {x : Call} {before behind : List Call}
    (h : calls ++ [call] = before ++ x :: behind) :
    (before = calls ∧ x = call ∧ behind = []) ∨
      ∃ behind', behind = behind' ++ [call] ∧ calls = before ++ x :: behind' := by
  rcases List.eq_nil_or_concat behind with rfl | ⟨behind', last, rfl⟩
  · obtain ⟨hcalls, hlast⟩ := List.append_inj' h rfl
    exact .inl ⟨hcalls.symm, (List.singleton_inj.1 hlast).symm, rfl⟩
  · rw [List.concat_eq_append, ← List.cons_append, ← List.append_assoc] at h
    obtain ⟨hcalls, hlast⟩ := List.append_inj' h rfl
    obtain rfl := List.singleton_inj.1 hlast
    exact .inr ⟨behind', List.concat_eq_append, hcalls⟩

namespace Follows

theorem lines_eq (h : Follows calls s) : s.log.lines = shown calls := by
  rw [lines_eq_mapIdx, h.descriptions_eq, shown]

theorem descriptions_concat (h : Follows calls s) (call : Call) :
    (call.run s).2.log.descriptions = recorded (calls ++ [call]) := by
  cases hclear : call.isClear with
  | false => rw [descriptions_run hclear, recorded_concat calls hclear, h.descriptions_eq]
  | true =>
    cases call with
    | clear =>
      rw [recorded_concat_clear]
      rfl
    | _ => cases hclear

theorem snapshot_concat (h : Follows calls s) (call : Call) {before behind : List Call}
    (hcalls : calls ++ [call] = before ++ .steps :: behind) :
    (call.run s).2.snapshots[before.countP Call.takesSnapshot]? = some (shown before) := by
  rw [snapshots_run]
  rcases last_or_before hcalls with ⟨rfl, rfl, rfl⟩ | ⟨behind', rfl, hbefore⟩
  · rw [← h.length_snapshots]
    simp [Call.takesSnapshot, h.lines_eq]
  · have hsnapshot := h.snapshot_eq before behind' hbefore
    rw [List.getElem?_append_left (List.getElem?_eq_some_iff.1 hsnapshot).1, hsnapshot]

theorem iterator_concat (h : Follows calls s) (call : Call) {before behind : List Call}
    (hcalls : calls ++ [call] = before ++ .iterate :: behind) :
    (call.run s).2.iterators[before.countP Call.startsIterator]? = some ((shown before).drop
      (behind.countP (Call.asks (before.countP Call.startsIterator)))) := by
  rcases last_or_before hcalls with ⟨rfl, rfl, rfl⟩ | ⟨behind', rfl, hbefore⟩
  · rw [← h.length_iterators]
    simp [Call.run, h.lines_eq]
  · have hiterator := h.iterator_eq before behind' hbefore
    rw [getElem?_iterators_run call s (List.getElem?_eq_some_iff.1 hiterator).1, hiterator]
    cases hasks : call.asks (before.countP Call.startsIterator) with
    | true => simp [List.countP_append, hasks]
    | false => simp [List.countP_append, hasks]

/-- **Each call keeps the invariant.** -/
theorem concat (h : Follows calls s) (call : Call) : Follows (calls ++ [call]) (call.run s).2 where
  descriptions_eq := h.descriptions_concat call
  length_snapshots := by
    rw [snapshots_run, List.length_append, h.length_snapshots, List.countP_append]
    cases hsnapshot : call.takesSnapshot <;> simp [hsnapshot]
  snapshot_eq _ _ hcalls := h.snapshot_concat call hcalls
  length_iterators := by
    rw [length_iterators_run, h.length_iterators, List.countP_append]
    cases hiterator : call.startsIterator <;> simp [hiterator]
  iterator_eq _ _ hcalls := h.iterator_concat call hcalls

end Follows

/-- **So does every run.** -/
theorem follows_runAll (calls : List Call) : Follows calls (Call.runAll calls) := by
  induction calls using List.reverseRecOn with
  | nil =>
    refine ⟨rfl, rfl, ?_, rfl, ?_⟩
    · intro before behind h
      simp at h
    · intro before behind h
      simp at h
  | append_singleton calls call ih =>
    rw [Call.runAll_concat]
    exact ih.concat call

/-- **A log shows the accepted descriptions since it was last cleared**, however it was used, and
what was taken from it earlier stays as it was. -/
theorem shown_of_calls (calls : List Call) : let s := Call.runAll calls
    (Call.steps.run s).1 = .steps (shown calls) ∧
    (Call.length.run s).1 = .length (recorded calls).length ∧
    (Call.hasSteps.run s).1 = .hasSteps (decide (0 < (recorded calls).length)) ∧
    (∀ description?, (∀ d ∈ description?, Text.isBlankText d = true) →
      (Call.record description?).run s = (.refused .blankDescription, s)) ∧
    (∀ d, Text.isBlankText d = false → ((Call.record (some d)).run s).1 = .done) ∧
    (∀ before behind, calls = before ++ .steps :: behind →
      s.snapshots[before.countP Call.takesSnapshot]? = some (shown before)) ∧
    ∀ before behind, calls = before ++ .iterate :: behind →
      let i := before.countP Call.startsIterator
      ((Call.next i).run s).1 = .step (shown before)[behind.countP (Call.asks i)]? := by
  have h := follows_runAll calls
  refine ⟨?_, ?_, ?_, ?_, ?_, h.snapshot_eq, ?_⟩
  · rw [Call.run, h.lines_eq]
  · rw [Call.run, length, h.descriptions_eq]
  · rw [Call.run, hasSteps, h.descriptions_eq]
    cases recorded calls <;> simp
  · intro description? hblank
    exact run_record_of_blank hblank _
  · intro d hd
    rw [run_record_of_not_blank hd]
  · intro before behind hcalls
    simp only [Call.run, h.iterator_eq before behind hcalls, Option.bind_some, List.head?_drop]

/-- Refused descriptions and a clearing between others, with an iterator and a snapshot taken on the
way. -/
def interleavedCalls : List Call :=
  [.record (some "first"), .record (some " \t"), .iterate, .record (some " second "), .steps,
    .next 0, .clear, .record none, .record (some "third")]

theorem shown_of_calls_interleaved : let s := Call.runAll interleavedCalls
    (Call.steps.run s).1 = .steps ["1. third"] ∧
    (Call.record (some " \t")).run s = (.refused .blankDescription, s) ∧
    s.snapshots[0]? = some ["1. first", "2.  second "] ∧
    ((Call.next 0).run s).1 = .step none := by
  obtain ⟨hsteps, -, -, hrefused, -, hsnapshot, hiterator⟩ := shown_of_calls interleavedCalls
  have hshown : shown interleavedCalls = ["1. third"] := by decide +kernel
  have htaken : shown (interleavedCalls.take 4) = ["1. first", "2.  second "] := by decide +kernel
  have hstarted : (shown (interleavedCalls.take 2))[1]? = none := by decide +kernel
  refine ⟨hshown ▸ hsteps, ?_, ?_, ?_⟩
  · apply hrefused
    rintro _ ⟨⟩
    decide
  · exact htaken ▸ hsnapshot (interleavedCalls.take 4) (interleavedCalls.drop 5) rfl
  · exact hstarted ▸ hiterator (interleavedCalls.take 2) (interleavedCalls.drop 3) rfl

end WeakestPre.StepLog
