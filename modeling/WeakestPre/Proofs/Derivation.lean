import WeakestPre.Proofs.Stmt.Proper
import WeakestPre.Report

/-!
# The log of a derivation

**Addresses.** A node of a statement is found by its address: at each level the index of the part to
go into. The elements of a sequence and the two branches of a conditional are its parts.

**Postconditions** (`Reaches`). Every node has the postcondition with which the derivation reaches
it. An element of a sequence is reached with the precondition of all elements to its right, and both
branches of a conditional are reached with the postcondition of the conditional.

**Order** (`Earlier`). A derivation goes through sequences from the right, through the first branch
of a conditional before the second, and comes to the conditional behind both.

**Theorem** (`exists_log_of_derivePrecondition`). Each assignment and each conditional leaves one
line in the log, in this order and with the next number. The line shows the postcondition that
reaches the node and the precondition of the node for it, and the last line shows the result.

The visits of a derivation (`visits`) come from the recursion of the rules. That they are exactly
the nodes that are reached, in their order, is shown along the same recursion.
-/

namespace WeakestPre

/-! ## Recording -/

namespace StepLog

theorem numbered_map {α : Type} (n : Nat) (f : α → String) (l : List α) :
    numbered n (l.map f) = l.mapIdx fun i a => toString (n + i) ++ ". " ++ f a := by
  induction l generalizing n with
  | nil => rfl
  | cons a l ih =>
    rw [List.map_cons, numbered, ih, List.mapIdx_cons]
    simp only [Nat.add_zero, Nat.add_assoc, Nat.add_comm 1]

/-- Descriptions that are not blank are recorded behind those of the log. -/
theorem recordAll_eq_ok {ds : List String} (h : ∀ d ∈ ds, Text.isBlankText d = false)
    (log : StepLog) : log.recordAll ds = .ok ⟨log.descriptions ++ ds⟩ := by
  induction ds generalizing log with
  | nil => simp [recordAll]
  | cons d ds ih =>
    rw [recordAll, record_eq_ok (h d List.mem_cons_self)]
    show recordAll ⟨log.descriptions ++ [d]⟩ ds = _
    rw [ih fun d' hd' => h d' (List.mem_cons_of_mem d hd'), List.append_assoc]
    rfl

end StepLog

theorem Step.isBlankText_description (step : Step) : Text.isBlankText step.description = false := by
  have hw : Text.isBlank 'w' = false := by decide
  simp [Text.isBlankText, description, hw]

/-- **A derivation never fails**, and its steps are recorded behind those of the log. -/
theorem derivePrecondition_eq_ok (S : Stmt) (R : Expr) (log : StepLog) :
    let log' : StepLog := ⟨log.descriptions ++ (S.derive R).2.map Step.description⟩
    derivePrecondition S R log = .ok (⟨S, R, (S.derive R).1, log'.lines⟩, log') := by
  have hrecord : log.recordAll ((S.derive R).2.map Step.description) =
      .ok ⟨log.descriptions ++ (S.derive R).2.map Step.description⟩ := by
    refine StepLog.recordAll_eq_ok ?_ log
    rintro _ hd
    obtain ⟨step, -, rfl⟩ := List.mem_map.1 hd
    exact step.isBlankText_description
  rw [derivePrecondition]
  simp only [hrecord]
  rfl

/-- A calculation whose inputs can be read succeeds. -/
theorem calculate_eq_ok {limit : Nat} {program : Input Stmt} {post : Input Expr} {S : Stmt}
    {R : Expr}
    (hS : program.program limit = .ok S) (hR : post.postcondition limit = .ok R) (log : StepLog) :
    let log' : StepLog := ⟨log.descriptions ++ (S.derive R).2.map Step.description⟩
    calculate limit program post log = .ok (⟨S, R, (S.derive R).1, log'.lines⟩, log') := by
  rw [calculate, hS, hR]
  show (derivePrecondition S R log).mapError _ = _
  rw [derivePrecondition_eq_ok]
  rfl

/-- The program is read first. -/
theorem calculate_of_program {limit : Nat} {program : Input Stmt} {error : SyntaxError}
    (h : program.program limit = .error error) (post : Input Expr) (log : StepLog) :
    calculate limit program post log = .error (.unreadable error) := by
  rw [calculate, h]
  rfl

theorem calculate_of_postcondition {limit : Nat} {program : Input Stmt} {post : Input Expr}
    {S : Stmt} {error : SyntaxError} (hS : program.program limit = .ok S)
    (h : post.postcondition limit = .error error) (log : StepLog) :
    calculate limit program post log = .error (.unreadable error) := by
  rw [calculate, hS, h]
  rfl

/-! ## Nodes and their postconditions -/

namespace Stmt

/-- The statement has a rule of its own: it is an assignment or a conditional. -/
def isStep : Stmt → Bool
  | .seq _ => false
  | _ => true

/-- `Reaches S R a n Q`: the node of `S` at address `a` is `n`, and a derivation from the
postcondition `R` reaches it with `Q`. -/
inductive Reaches : Stmt → Expr → List Nat → Stmt → Expr → Prop
  | here {S : Stmt} {R : Expr} : Reaches S R [] S R
  | element {body : List Stmt} {i : Nat} {s n : Stmt} {R Q : Expr} {a : List Nat}
      (hs : body[i]? = some s) (h : Reaches s (wpAll (body.drop (i + 1)) R) a n Q) :
      Reaches (.seq body) R (i :: a) n Q
  | thenBranch {b R Q : Expr} {s t n : Stmt} {a : List Nat} (h : Reaches s R a n Q) :
      Reaches (.cond b s t) R (0 :: a) n Q
  | elseBranch {b R Q : Expr} {s t n : Stmt} {a : List Nat} (h : Reaches t R a n Q) :
      Reaches (.cond b s t) R (1 :: a) n Q

/-- A derivation comes to the node at the first address before it comes to that at the second. -/
inductive Earlier : Stmt → List Nat → List Nat → Prop
  | elements {body : List Stmt} {i j : Nat} {a a' : List Nat} (h : j < i) :
      Earlier (.seq body) (i :: a) (j :: a')
  | element {body : List Stmt} {i : Nat} {s : Stmt} {a a' : List Nat} (hs : body[i]? = some s)
      (h : Earlier s a a') : Earlier (.seq body) (i :: a) (i :: a')
  | branches {b : Expr} {s t : Stmt} {a a' : List Nat} : Earlier (.cond b s t) (0 :: a) (1 :: a')
  | thenBranch {b : Expr} {s t : Stmt} {a a' : List Nat} (h : Earlier s a a') :
      Earlier (.cond b s t) (0 :: a) (0 :: a')
  | elseBranch {b : Expr} {s t : Stmt} {a a' : List Nat} (h : Earlier t a a') :
      Earlier (.cond b s t) (1 :: a) (1 :: a')
  | conditional {b : Expr} {s t : Stmt} {i : Nat} {a : List Nat} :
      Earlier (.cond b s t) (i :: a) []

theorem Earlier.ne {S : Stmt} {a a' : List Nat} (h : Earlier S a a') : a ≠ a' := by
  induction h with
  | elements h =>
    intro heq
    have := (List.cons.inj heq).1
    omega
  | element _ _ ih | thenBranch _ ih | elseBranch _ ih =>
    intro heq
    exact ih (List.cons.inj heq).2
  | branches => simp
  | conditional => simp

/-! ## Visits -/

/-- A node that a derivation comes to. -/
structure Visit where
  address : List Nat
  node : Stmt
  post : Expr

namespace Visit

/-- The visit as seen from around the part with an index. -/
def under (i : Nat) (v : Visit) : Visit := ⟨i :: v.address, v.node, v.post⟩

/-- The precondition that the rule of the node gives. -/
def result (v : Visit) : Expr := v.node.wp v.post

def step (v : Visit) : Step := ⟨v.node, v.post, v.result⟩

end Visit

mutual

/-- The visits of a derivation in order. -/
def visits : Stmt → Expr → List Visit
  | .assign x e, post => [⟨[], .assign x e, post⟩]
  | .seq body, post => visitsFrom 0 body post
  | .cond b s t, post =>
    (visits s post).map (.under 0) ++ (visits t post).map (.under 1) ++ [⟨[], .cond b s t, post⟩]

/-- The visits of elements of a sequence, the first of which has index `i`. -/
def visitsFrom (i : Nat) : List Stmt → Expr → List Visit
  | [], _ => []
  | s :: rest, post =>
    visitsFrom (i + 1) rest post ++ (visits s (wpAll rest post)).map (.under i)

end

theorem map_step_under (i : Nat) (vs : List Visit) :
    (vs.map (.under i)).map Visit.step = vs.map Visit.step := by
  rw [List.map_map]
  rfl

mutual

/-- **A derivation with its steps gives the precondition**, and its steps are its visits. -/
theorem derive_eq : ∀ (S : Stmt) (R : Expr), S.derive R = (S.wp R, (S.visits R).map Visit.step)
  | .assign x e, R => by simp [derive, visits, wp, Visit.step, Visit.result]
  | .seq body, R => by rw [derive, wp, visits, deriveAll_eq 0 body R]
  | .cond b s t, R => by
    rw [derive, derive_eq s R, derive_eq t R, visits, wp, List.map_append, List.map_append,
      map_step_under, map_step_under]
    simp [Visit.step, Visit.result, wp]

theorem deriveAll_eq (i : Nat) : ∀ (body : List Stmt) (R : Expr),
    deriveAll body R = (wpAll body R, (visitsFrom i body R).map Visit.step)
  | [], R => rfl
  | s :: rest, R => by
    rw [deriveAll, deriveAll_eq (i + 1) rest R, visitsFrom, wpAll, List.map_append, map_step_under]
    simp only [derive_eq s (wpAll rest R)]

end

/-! ## Every node is visited -/

/-- The visits under an index are those of the part. -/
theorem mem_map_under {i : Nat} {vs : List Visit} {v : Visit} :
    v ∈ vs.map (.under i) ↔ ∃ a, v.address = i :: a ∧ ⟨a, v.node, v.post⟩ ∈ vs := by
  rw [List.mem_map]
  constructor
  · rintro ⟨w, hw, rfl⟩
    exact ⟨w.address, rfl, hw⟩
  · rintro ⟨a, ha, hmem⟩
    refine ⟨_, hmem, ?_⟩
    rw [Visit.under, ← ha]

mutual

/-- **The visits are the nodes with a rule**, each with the postcondition that reaches it. -/
theorem mem_visits_iff : ∀ (S : Stmt) (R : Expr) (v : Visit),
    v ∈ S.visits R ↔ v.node.isStep = true ∧ Reaches S R v.address v.node v.post
  | .assign x e, R, v => by
    rw [visits, List.mem_singleton]
    constructor
    · rintro rfl
      exact ⟨rfl, .here⟩
    · obtain ⟨a, n, Q⟩ := v
      rintro ⟨-, h⟩
      cases h
      rfl
  | .seq body, R, v => by
    rw [visits, mem_visitsFrom_iff 0 body R v]
    constructor
    · rintro ⟨hstep, j, s, a, hs, ha, h⟩
      rw [Nat.zero_add] at ha
      exact ⟨hstep, ha ▸ .element hs h⟩
    · obtain ⟨a, n, Q⟩ := v
      rintro ⟨hstep, h⟩
      cases h with
      | here => cases hstep
      | @element _ i s _ _ _ a hs h => exact ⟨hstep, i, s, a, hs, by rw [Nat.zero_add], h⟩
  | .cond b s t, R, v => by
    rw [visits, List.mem_append, List.mem_append, List.mem_singleton, mem_map_under, mem_map_under]
    simp only [mem_visits_iff s R, mem_visits_iff t R]
    constructor
    · rintro ((⟨a, ha, hstep, h⟩ | ⟨a, ha, hstep, h⟩) | rfl)
      · exact ⟨hstep, ha ▸ .thenBranch h⟩
      · exact ⟨hstep, ha ▸ .elseBranch h⟩
      · exact ⟨rfl, .here⟩
    · obtain ⟨a, n, Q⟩ := v
      rintro ⟨hstep, h⟩
      cases h with
      | here => exact .inr rfl
      | thenBranch h => exact .inl (.inl ⟨_, rfl, hstep, h⟩)
      | elseBranch h => exact .inl (.inr ⟨_, rfl, hstep, h⟩)

theorem mem_visitsFrom_iff (i : Nat) : ∀ (body : List Stmt) (R : Expr) (v : Visit),
    v ∈ visitsFrom i body R ↔ v.node.isStep = true ∧ ∃ j s a, body[j]? = some s ∧
      v.address = (i + j) :: a ∧ Reaches s (wpAll (body.drop (j + 1)) R) a v.node v.post
  | [], R, v => by simp [visitsFrom]
  | s :: rest, R, v => by
    rw [visitsFrom, List.mem_append, mem_visitsFrom_iff (i + 1) rest R v, mem_map_under]
    simp only [mem_visits_iff s]
    constructor
    · rintro (⟨hstep, j, s', a, hs', ha, h⟩ | ⟨a, ha, hstep, h⟩)
      · refine ⟨hstep, j + 1, s', a, by simpa using hs', ?_, by simpa using h⟩
        rw [ha, Nat.add_assoc, Nat.add_comm 1 j]
      · exact ⟨hstep, 0, s, a, rfl, ha, by simpa using h⟩
    · rintro ⟨hstep, j, s', a, hs', ha, h⟩
      cases j with
      | zero =>
        obtain rfl : s = s' := by simpa using hs'
        exact .inr ⟨a, ha, hstep, by simpa using h⟩
      | succ j =>
        refine .inl ⟨hstep, j, s', a, by simpa using hs', ?_, by simpa using h⟩
        rw [ha, Nat.add_assoc, Nat.add_comm 1 j]

end

/-! ## In order -/

/-- Visits in the order of the addresses. -/
def InOrder (S : Stmt) (vs : List Visit) : Prop :=
  vs.Pairwise fun v w => Earlier S v.address w.address

theorem InOrder.map_under {S s : Stmt} {i : Nat} {vs : List Visit} (h : InOrder s vs)
    (hpart : ∀ a a', Earlier s a a' → Earlier S (i :: a) (i :: a')) :
    InOrder S (vs.map (.under i)) := by
  rw [InOrder, List.pairwise_map]
  exact h.imp fun hlt => hpart _ _ hlt

theorem address_of_mem_map_under {i : Nat} {vs : List Visit} {v : Visit}
    (h : v ∈ vs.map (.under i)) : ∃ a, v.address = i :: a := by
  obtain ⟨a, ha, -⟩ := mem_map_under.1 h
  exact ⟨a, ha⟩

mutual

/-- **The visits are in order.** -/
theorem inOrder_visits : ∀ (S : Stmt) (R : Expr), InOrder S (S.visits R)
  | .assign x e, R => List.pairwise_singleton _ _
  | .seq body, R => inOrder_visitsFrom 0 body R body rfl
  | .cond b s t, R => by
    rw [visits, InOrder, List.pairwise_append, List.pairwise_append]
    refine ⟨⟨(inOrder_visits s R).map_under fun _ _ h => .thenBranch h,
      (inOrder_visits t R).map_under fun _ _ h => .elseBranch h, ?_⟩,
      List.pairwise_singleton _ _, ?_⟩
    · intro v hv w hw
      obtain ⟨a, ha⟩ := address_of_mem_map_under hv
      obtain ⟨a', ha'⟩ := address_of_mem_map_under hw
      rw [ha, ha']
      exact .branches
    · intro v hv w hw
      obtain rfl := List.mem_singleton.1 hw
      have haddress : ∃ i a, v.address = i :: a := by
        rcases List.mem_append.1 hv with hv | hv
        · exact ⟨0, address_of_mem_map_under hv⟩
        · exact ⟨1, address_of_mem_map_under hv⟩
      obtain ⟨i, a, ha⟩ := haddress
      rw [ha]
      exact .conditional

theorem inOrder_visitsFrom (i : Nat) : ∀ (body : List Stmt) (R : Expr) (whole : List Stmt),
    whole.drop i = body → InOrder (.seq whole) (visitsFrom i body R)
  | [], R, whole, _ => List.Pairwise.nil
  | s :: rest, R, whole, h => by
    have hs : whole[i]? = some s := by
      rw [← List.head?_drop, h]
      rfl
    have hrest : whole.drop (i + 1) = rest := by
      rw [← List.drop_drop, h]
      rfl
    rw [visitsFrom, InOrder, List.pairwise_append]
    refine ⟨inOrder_visitsFrom (i + 1) rest R whole hrest,
      (inOrder_visits s _).map_under fun _ _ h => .element hs h, ?_⟩
    intro v hv w hw
    obtain ⟨-, j, s', a, -, ha, -⟩ := (mem_visitsFrom_iff (i + 1) rest R v).1 hv
    obtain ⟨a', ha'⟩ := address_of_mem_map_under hw
    rw [ha, ha']
    exact .elements (by omega)

end

theorem InOrder.nodup {S : Stmt} {vs : List Visit} (h : InOrder S vs) :
    (vs.map Visit.address).Nodup := by
  rw [List.Nodup, List.pairwise_map]
  exact h.imp fun hlt => hlt.ne

/-! ## The last step -/

/-- The result of the last of some visits, or the postcondition if there is none. -/
def lastResult (vs : List Visit) (R : Expr) : Expr := (vs.getLast?.map Visit.result).getD R

theorem lastResult_append (vs ws : List Visit) (R : Expr) :
    lastResult (vs ++ ws) R = lastResult ws (lastResult vs R) := by
  rw [lastResult, lastResult, lastResult, List.getLast?_append]
  cases ws.getLast? with
  | none => simp
  | some w => simp

theorem lastResult_map_under (i : Nat) (vs : List Visit) (R : Expr) :
    lastResult (vs.map (.under i)) R = lastResult vs R := by
  rw [lastResult, lastResult, List.getLast?_map, Option.map_map]
  rfl

mutual

theorem lastResult_visits : ∀ (S : Stmt) (R : Expr), lastResult (S.visits R) R = S.wp R
  | .assign x e, R => rfl
  | .seq body, R => by rw [visits, wp, lastResult_visitsFrom 0 body R]
  | .cond b s t, R => by
    rw [visits, lastResult_append]
    rfl

theorem lastResult_visitsFrom (i : Nat) : ∀ (body : List Stmt) (R : Expr),
    lastResult (visitsFrom i body R) R = wpAll body R
  | [], R => rfl
  | s :: rest, R => by
    rw [visitsFrom, wpAll, lastResult_append, lastResult_visitsFrom (i + 1) rest R,
      lastResult_map_under, lastResult_visits s (wpAll rest R)]

end

/-- A proper statement has a step. -/
theorem visits_ne_nil : ∀ (S : Stmt) (R : Expr), S.isProper = true → S.visits R ≠ []
  | .assign x e, R, _ => List.cons_ne_nil _ _
  | .seq [], R, h => by simp [isProper] at h
  | .seq (s :: rest), R, h => by
    have hs := visits_ne_nil s (wpAll rest R) (isProperAll_cons.1 (isProper_seq.1 h).2).1
    rw [visits, visitsFrom]
    simp [hs]
  | .cond b s t, R, _ => by simp [visits]

end Stmt

open Stmt in
/-- **The log is the derivation.** -/
theorem exists_log_of_derivePrecondition (S : Stmt) (R : Expr) (log : StepLog) :
    ∃ report log', derivePrecondition S R log = .ok (report, log') ∧
      report.precondition = S.wp R ∧ report.steps = log'.lines ∧
      ∃ vs : List Visit,
        (∀ v, v ∈ vs ↔ v.node.isStep = true ∧ Reaches S R v.address v.node v.post) ∧
        (vs.map Visit.address).Nodup ∧
        vs.Pairwise (fun v w => Earlier S v.address w.address) ∧
        log'.lines = log.lines ++ vs.mapIdx (fun i v =>
          toString (log.length + 1 + i) ++ ". " ++ ("wp(" ++ Step.subject v.node ++ ", " ++
            v.post.text ++ ") = " ++ (v.node.wp v.post).text)) ∧
        (S.isProper = true → ∃ v ∈ vs.getLast?, v.node.wp v.post = S.wp R) := by
  have hderive := derive_eq S R
  have hlines : StepLog.lines ⟨log.descriptions ++ (S.derive R).2.map Step.description⟩ =
      log.lines ++ (S.visits R).mapIdx fun i v =>
        toString (log.length + 1 + i) ++ ". " ++ v.step.description := by
    rw [hderive, StepLog.lines, StepLog.numbered_append, List.map_map, StepLog.numbered_map,
      Nat.add_comm 1]
    rfl
  refine ⟨_, _, derivePrecondition_eq_ok S R log, congrArg Prod.fst hderive, rfl, S.visits R,
    mem_visits_iff S R, (inOrder_visits S R).nodup, inOrder_visits S R, hlines, fun hS => ?_⟩
  have hlast := List.getLast?_eq_some_getLast (visits_ne_nil S R hS)
  refine ⟨_, hlast, ?_⟩
  rw [← lastResult_visits S R, lastResult, hlast]
  rfl

end WeakestPre
