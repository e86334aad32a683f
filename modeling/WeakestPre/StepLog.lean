import WeakestPre.Diagnostic
import WeakestPre.Text.Class

/-!
# Step logs

A log keeps the descriptions recorded since it was last cleared and shows them numbered from one.
Blank descriptions are refused and leave the log as it was. A description gets its number when it
is recorded and keeps it (`lines_record`).
-/

namespace WeakestPre

inductive LogError where
  | blankDescription
  | notText (kind : String)
  deriving DecidableEq, Repr

namespace LogError

def message : LogError → String
  | .blankDescription => "Step description must not be empty"
  | .notText kind => "'" ++ kind ++ "' object has no attribute 'strip'"

def diagnostic? (e : LogError) : Option Diagnostic :=
  match e with
  | .blankDescription => some { kind := .emptyDescription, message := e.message }
  | .notText _ => none

end LogError

structure StepLog where
  descriptions : List String := []
  deriving DecidableEq, Repr

namespace StepLog

def empty : StepLog := {}

def record (log : StepLog) (description : String) : Except LogError StepLog :=
  if Text.isBlankText description then .error .blankDescription
  else .ok ⟨log.descriptions ++ [description]⟩

/-- What may be given as a description: nothing, a text, or a value of another kind. -/
inductive Given where
  | nothing
  | text (s : String)
  | other (kind : String)

/-- Records what is given as a description. -/
def recordValue (log : StepLog) : Given → Except LogError StepLog
  | .nothing => .error .blankDescription
  | .text s => log.record s
  | .other kind => .error (.notText kind)

/-- Records some descriptions in order, up to the first that is refused. -/
def recordAll (log : StepLog) : List String → Except LogError StepLog
  | [] => .ok log
  | d :: rest => do
    let log ← log.record d
    log.recordAll rest

/-- Records some descriptions in order, up to the first that is refused, and keeps those before
it. -/
def recordEach (log : StepLog) : List String → Option LogError × StepLog
  | [] => (none, log)
  | d :: rest =>
    match log.record d with
    | .ok log => log.recordEach rest
    | .error e => (some e, log)

def length (log : StepLog) : Nat := log.descriptions.length

def hasSteps (log : StepLog) : Bool := !log.descriptions.isEmpty

/-- The descriptions from number `n` on. -/
def numbered (n : Nat) : List String → List String
  | [] => []
  | d :: rest => (toString n ++ ". " ++ d) :: numbered (n + 1) rest

/-- The log as it is shown. -/
def lines (log : StepLog) : List String := numbered 1 log.descriptions

theorem record_eq_ok {d : String} (h : Text.isBlankText d = false) (log : StepLog) :
    log.record d = .ok ⟨log.descriptions ++ [d]⟩ :=
  if_neg (by simp [h])

theorem numbered_append (n : Nat) (ds ds' : List String) :
    numbered n (ds ++ ds') = numbered n ds ++ numbered (n + ds.length) ds' := by
  induction ds generalizing n with
  | nil => simp [numbered]
  | cons d ds ih =>
    have hlength : n + (d :: ds).length = n + 1 + ds.length := by
      rw [List.length_cons]
      omega
    rw [hlength, List.cons_append, numbered, numbered, ih, List.cons_append]

theorem lines_append (log : StepLog) (ds : List String) :
    (⟨log.descriptions ++ ds⟩ : StepLog).lines = log.lines ++ numbered (log.length + 1) ds := by
  rw [lines, numbered_append, Nat.add_comm]
  rfl

/-- **Recording adds one line, with the next number.** -/
theorem lines_record {log log' : StepLog} {d : String} (h : log.record d = .ok log') :
    log'.lines = log.lines ++ [toString (log.length + 1) ++ ". " ++ d] := by
  rw [record] at h
  split at h
  · cases h
  · cases h
    exact lines_append log [d]

end StepLog

end WeakestPre
