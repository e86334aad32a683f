import WeakestPre.Proofs.Derivation

/-!
# Nested sequences

A sequence within a sequence does the same as its elements in its place, and a sequence with one
element does the same as that element. Flattening (`flat`) removes both, at all levels and in the
branches of conditionals too, and leaves a statement without them (`isFlat_flat`).

**Theorem** (`derivePrecondition_flat`). A proper statement and its flattening have the same
program text, and from any postcondition and any log they lead to the same precondition and the
same log.

Steps are not the same, as that of a conditional holds its branches. Their descriptions are, because
the text of a statement does not show how its sequences are nested (`render_flat`).
-/

namespace WeakestPre

namespace Stmt

/-! ## Flattening -/

/-- What a statement stands for within a sequence. -/
def elements : Stmt → List Stmt
  | .seq body => body
  | s => [s]

mutual

/-- The statement without sequences that are elements of a sequence or have one element only. -/
def flat : Stmt → Stmt
  | .assign x e => .assign x e
  | .seq body => .ofList (flatAll body)
  | .cond b s t => .cond b (flat s) (flat t)

/-- The elements of a sequence, each flat and without a sequence around it. -/
def flatAll : List Stmt → List Stmt
  | [] => []
  | s :: rest => (flat s).elements ++ flatAll rest

end

mutual

/-- No sequence is an element of a sequence, and each has at least two elements. -/
def isFlat : Stmt → Bool
  | .assign _ _ => true
  | .seq body => decide (2 ≤ body.length) && isFlatAll body
  | .cond _ s t => isFlat s && isFlat t

def isFlatAll : List Stmt → Bool
  | [] => true
  | s :: rest => s.isStep && isFlat s && isFlatAll rest

end

theorem isFlatAll_append (body body' : List Stmt) :
    isFlatAll (body ++ body') = (isFlatAll body && isFlatAll body') := by
  induction body with
  | nil => rfl
  | cons s body ih => simp [isFlatAll, ih, Bool.and_assoc]

theorem isFlatAll_elements {s : Stmt} (h : s.isFlat = true) : isFlatAll s.elements = true := by
  cases s with
  | assign x e => rfl
  | seq body => exact (Bool.and_eq_true_iff.1 h).2
  | cond b s t =>
    show (true && _ && true) = true
    rw [Bool.true_and, Bool.and_true]
    exact h

theorem isFlat_ofList {body : List Stmt} (hne : body ≠ []) (h : isFlatAll body = true) :
    (ofList body).isFlat = true := by
  match body with
  | [s] =>
    rw [isFlatAll, isFlatAll, Bool.and_true] at h
    exact (Bool.and_eq_true_iff.1 h).2
  | s :: t :: rest =>
    show (decide (2 ≤ (s :: t :: rest).length) && isFlatAll (s :: t :: rest)) = true
    rw [h, Bool.and_true, decide_eq_true_iff, List.length_cons, List.length_cons]
    omega

/-- A flat statement stands for something within a sequence. -/
theorem elements_ne_nil {s : Stmt} (h : s.isFlat = true) : s.elements ≠ [] := by
  cases s with
  | assign x e => exact List.cons_ne_nil _ _
  | seq body =>
    intro hnil
    obtain rfl : body = [] := hnil
    exact absurd h (by decide)
  | cond b s t => exact List.cons_ne_nil _ _

mutual

/-- **Flattening leaves no nested sequences.** -/
theorem isFlat_flat : ∀ S : Stmt, S.isProper = true → S.flat.isFlat = true
  | .assign x e, _ => rfl
  | .seq body, h => by
    obtain ⟨hne, hbody⟩ := isProper_seq.1 h
    obtain ⟨hflat, hnil⟩ := isFlatAll_flatAll body hbody
    exact isFlat_ofList (mt hnil hne) hflat
  | .cond b s t, h => by
    obtain ⟨hs, ht⟩ := isProper_cond.1 h
    rw [flat, isFlat, isFlat_flat s hs, isFlat_flat t ht]
    rfl

theorem isFlatAll_flatAll : ∀ body : List Stmt, isProperAll body = true →
    isFlatAll (flatAll body) = true ∧ (flatAll body = [] → body = [])
  | [], _ => ⟨rfl, id⟩
  | s :: rest, h => by
    obtain ⟨hs, hrest⟩ := isProperAll_cons.1 h
    have hflat := isFlat_flat s hs
    refine ⟨?_, fun hnil => ?_⟩
    · rw [flatAll, isFlatAll_append, isFlatAll_elements hflat, (isFlatAll_flatAll rest hrest).1]
      rfl
    · rw [flatAll, List.append_eq_nil_iff] at hnil
      exact absurd hnil.1 (elements_ne_nil hflat)

end

/-! ## Program text -/

theorem renderAll_append (body body' : List Stmt) :
    renderAll (body ++ body') = renderAll body ++ renderAll body' := by
  induction body with
  | nil => rfl
  | cons s body ih => rw [List.cons_append, renderAll, renderAll, ih, List.cons_append]

theorem renderAll_eq_nil {body : List Stmt} : renderAll body = [] ↔ body = [] := by
  cases body <;> simp [renderAll]

theorem render_ofList (body : List Stmt) :
    (ofList body).render = "; ".intercalate (renderAll body) := by
  match body with
  | [] => rfl
  | [s] => rw [ofList, renderAll, renderAll, String.intercalate_singleton]
  | s :: t :: rest =>
    show (seq _).render = _
    rw [render]

/-- A statement is written as what it stands for. -/
theorem intercalate_elements (s : Stmt) : "; ".intercalate (renderAll s.elements) = s.render := by
  cases s with
  | seq body => rw [elements, render]
  | assign x e => exact String.intercalate_singleton
  | cond b s t => exact String.intercalate_singleton

/-- The text of the first of some parts may be the text of several. -/
theorem intercalate_append (sep : String) {parts : List String} (hne : parts ≠ [])
    (rest : List String) :
    sep.intercalate (parts ++ rest) = sep.intercalate (sep.intercalate parts :: rest) := by
  by_cases hrest : rest = []
  · rw [hrest, List.append_nil, String.intercalate_singleton]
  · rw [String.intercalate_append_of_ne_nil hne hrest, String.intercalate_cons_of_ne_nil hrest]

mutual

/-- **The text of a statement does not show how sequences are nested.** -/
theorem render_flat : ∀ S : Stmt, S.isProper = true → S.flat.render = S.render
  | .assign x e, _ => rfl
  | .seq body, h => by
    rw [flat, render_ofList, intercalate_flatAll body (isProper_seq.1 h).2, render]
  | .cond b s t, h => by
    obtain ⟨hs, ht⟩ := isProper_cond.1 h
    rw [flat, render, render_flat s hs, render_flat t ht, render]

theorem intercalate_flatAll : ∀ body : List Stmt, isProperAll body = true →
    "; ".intercalate (renderAll (flatAll body)) = "; ".intercalate (renderAll body)
  | [], _ => rfl
  | s :: rest, h => by
    obtain ⟨hs, hrest⟩ := isProperAll_cons.1 h
    have hne : renderAll s.flat.elements ≠ [] := by
      rw [Ne, renderAll_eq_nil]
      exact elements_ne_nil (isFlat_flat s hs)
    rw [flatAll, renderAll_append, intercalate_append _ hne, intercalate_elements, render_flat s hs,
      renderAll]
    by_cases hnil : rest = []
    · rw [hnil, flatAll]
    · have hnil' : flatAll rest ≠ [] := mt (isFlatAll_flatAll rest hrest).2 hnil
      rw [String.intercalate_cons_of_ne_nil (mt renderAll_eq_nil.1 hnil'),
        String.intercalate_cons_of_ne_nil (mt renderAll_eq_nil.1 hnil),
        intercalate_flatAll rest hrest]

end

/-! ## Derivations -/

/-- The precondition, and the descriptions of the steps that lead to it. -/
def account (S : Stmt) (R : Expr) : Expr × List String :=
  ((S.derive R).1, (S.derive R).2.map Step.description)

def accountAll (body : List Stmt) (R : Expr) : Expr × List String :=
  ((deriveAll body R).1, (deriveAll body R).2.map Step.description)

theorem account_seq (body : List Stmt) (R : Expr) : (seq body).account R = accountAll body R := by
  rw [account, derive, accountAll]

/-- The account of statements one after another, the last one first. -/
theorem accountAll_cons (s : Stmt) (rest : List Stmt) (R : Expr) :
    accountAll (s :: rest) R = ((s.account (accountAll rest R).1).1,
      (accountAll rest R).2 ++ (s.account (accountAll rest R).1).2) := by
  simp [accountAll, account, deriveAll]

theorem accountAll_append (body body' : List Stmt) (R : Expr) :
    accountAll (body ++ body') R = ((accountAll body (accountAll body' R).1).1,
      (accountAll body' R).2 ++ (accountAll body (accountAll body' R).1).2) := by
  induction body with
  | nil => simp [accountAll, deriveAll]
  | cons s body ih =>
    rw [List.cons_append, accountAll_cons, ih, accountAll_cons]
    simp

theorem accountAll_singleton (s : Stmt) (R : Expr) : accountAll [s] R = s.account R := by
  simp [accountAll, account, deriveAll]

theorem account_ofList (body : List Stmt) (R : Expr) :
    (ofList body).account R = accountAll body R := by
  match body with
  | [] => rfl
  | [s] => rw [ofList, accountAll_singleton]
  | s :: t :: rest => exact account_seq _ R

theorem accountAll_elements (s : Stmt) (R : Expr) : accountAll s.elements R = s.account R := by
  cases s with
  | seq body => exact (account_seq body R).symm
  | assign x e => exact accountAll_singleton _ R
  | cond b s t => exact accountAll_singleton _ R

/-- The account of a conditional, from those of its branches and from their texts. -/
theorem account_cond (b : Expr) (s t : Stmt) (R : Expr) :
    (cond b s t).account R =
      let result := Expr.choice b (s.account R).1 (t.account R).1
      (result, (s.account R).2 ++ (t.account R).2 ++
        ["wp(" ++ ("if " ++ b.text ++ " then " ++ s.render ++ " else " ++ t.render) ++ ", " ++
          R.text ++ ") = " ++ result.text]) := by
  simp [account, derive, Step.description, Step.subject]

mutual

/-- **Flattening keeps the account of a derivation.** -/
theorem account_flat : ∀ (S : Stmt) (R : Expr), S.isProper = true → S.flat.account R = S.account R
  | .assign x e, R, _ => rfl
  | .seq body, R, h => by
    rw [flat, account_ofList, accountAll_flatAll body R (isProper_seq.1 h).2, account_seq]
  | .cond b s t, R, h => by
    obtain ⟨hs, ht⟩ := isProper_cond.1 h
    rw [flat, account_cond, account_flat s R hs, account_flat t R ht, render_flat s hs,
      render_flat t ht, account_cond]

theorem accountAll_flatAll : ∀ (body : List Stmt) (R : Expr), isProperAll body = true →
    accountAll (flatAll body) R = accountAll body R
  | [], R, _ => rfl
  | s :: rest, R, h => by
    obtain ⟨hs, hrest⟩ := isProperAll_cons.1 h
    rw [flatAll, accountAll_append, accountAll_flatAll rest R hrest, accountAll_elements,
      account_flat s _ hs, accountAll_cons]

end

end Stmt

/-- A derivation reports its account. -/
theorem derivePrecondition_eq_account (S : Stmt) (R : Expr) (log : StepLog) :
    let log' : StepLog := ⟨log.descriptions ++ (S.account R).2⟩
    derivePrecondition S R log = .ok (⟨S, R, (S.account R).1, log'.lines⟩, log') :=
  derivePrecondition_eq_ok S R log

/-- **Block nesting is irrelevant.** -/
theorem derivePrecondition_flat {S : Stmt} (hS : S.isProper = true) :
    S.flat.isFlat = true ∧ S.flat.render = S.render ∧
      ∀ (R : Expr) (log : StepLog), ∃ (p : Expr) (log' : StepLog),
        derivePrecondition S R log = .ok (⟨S, R, p, log'.lines⟩, log') ∧
        derivePrecondition S.flat R log = .ok (⟨S.flat, R, p, log'.lines⟩, log') := by
  refine ⟨S.isFlat_flat hS, S.render_flat hS, fun R log => ?_⟩
  refine ⟨_, _, derivePrecondition_eq_account S R log, ?_⟩
  rw [derivePrecondition_eq_account, S.account_flat R hS]

/-- `{ { x := a; if (b) { y := x } else { { z := x; y := z } } } }`, with all braces kept. -/
def nestedBranches : Stmt :=
  .seq [.seq [.assign "x" (.var "a"),
    .seq [.cond (.var "b") (.seq [.assign "y" (.var "x")])
      (.seq [.seq [.assign "z" (.var "x"), .assign "y" (.var "z")]])]]]

/-- Without the nesting the conditional and the first assignment stand side by side. -/
theorem derivePrecondition_nestedBranches : nestedBranches.isProper = true ∧
    nestedBranches.flat.outline =
      "(seq (:= x $a) (if $b (:= y $x) (seq (:= z $x) (:= y $z))))" ∧
    ∃ (p : Expr) (log : StepLog),
      derivePrecondition nestedBranches (.var "y") .empty =
        .ok (⟨nestedBranches, .var "y", p, log.lines⟩, log) ∧
      derivePrecondition nestedBranches.flat (.var "y") .empty =
        .ok (⟨nestedBranches.flat, .var "y", p, log.lines⟩, log) := by
  have hproper : nestedBranches.isProper = true := by decide
  exact ⟨hproper, by decide +kernel, (derivePrecondition_flat hproper).2.2 (.var "y") .empty⟩

end WeakestPre
