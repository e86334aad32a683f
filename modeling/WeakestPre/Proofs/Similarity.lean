import Mathlib.Data.List.Forall2
import WeakestPre.Proofs.Binary64.Closeness
import WeakestPre.Proofs.Expr.Leaves
import WeakestPre.Proofs.Expr.Variables
import WeakestPre.Stmt.Similar

/-!
# Similar trees in the calculus

Trees are similar if they are the same but for constants that are close. Closeness is not
transitive, so similar trees cannot be put in place of each other one step at a time. Instead, two
derivations are compared side by side.

**Alike** (`Expr.Alike`, `Stmt.Alike`). Two trees are alike under a relation on constants if they
have the same form and corresponding constants are related. Similarity is the case of close
constants (`Expr.similar_iff`, `Stmt.alike_of_similar`).

**The rules.** Each operation of the calculus makes trees that are alike from trees that are alike.
The only constant that the calculus brings in is zero, in the conditions, so this holds of every
relation that relates zero to itself; nothing else is asked of the relation (`Stmt.Alike.wp`).

**Constants.** Trees are alike iff they have the same shape and their constants are related from
left to right. If some of these are only known to be the same, then the trees are similar iff all of
their constants are finite (`Expr.Alike.similar_iff_finite`).
-/

namespace WeakestPre

/-- Constants that count as equal. -/
def Binary64.Close (v w : Binary64) : Prop := v.close w = true

theorem Binary64.close_zero : Close zero zero := by
  unfold Close
  decide +kernel

/-- Constants that count as equal, or are the same. -/
def Binary64.CloseOrSame (v w : Binary64) : Prop := Close v w ∨ v = w

theorem Binary64.CloseOrSame.refl (v : Binary64) : CloseOrSame v v := .inr rfl

/-- Infinities and not-a-number are close to nothing. -/
theorem Binary64.CloseOrSame.close_iff {v w : Binary64} (h : CloseOrSame v w) :
    Close v w ↔ v.isFinite = true := by
  rcases h with h | rfl
  · have hfinite : v.isFinite = true := by
      rw [Close, close, Bool.and_assoc] at h
      exact (Bool.and_eq_true_iff.1 h).1
    simp [h, hfinite]
  · rw [Close, close_self]

theorem Binary64.forall₂_close_iff {l l' : List Binary64} (h : List.Forall₂ CloseOrSame l l') :
    List.Forall₂ Close l l' ↔ ∀ v ∈ l, v.isFinite = true := by
  induction h with
  | nil => simp
  | cons h _ ih => rw [List.forall₂_cons, h.close_iff, ih, List.forall_mem_cons]

/-- Lists of pairs that are put together from two parts of known lengths. -/
theorem forall₂_append_and_iff {α β : Type} {R : α → β → Prop} {p q : Prop} {a b : List α}
    {c d : List β} (h : p → a.length = c.length) :
    (p ∧ q) ∧ List.Forall₂ R (a ++ b) (c ++ d) ↔
      (p ∧ List.Forall₂ R a c) ∧ q ∧ List.Forall₂ R b d := by
  constructor
  · rintro ⟨⟨hp, hq⟩, hall⟩
    have ha := List.forall₂_take a.length hall
    have hb := List.forall₂_drop a.length hall
    rw [List.take_left, h hp, List.take_left] at ha
    rw [List.drop_left, h hp, List.drop_left] at hb
    exact ⟨⟨hp, ha⟩, hq, hb⟩
  · rintro ⟨⟨hp, ha⟩, hq, hb⟩
    exact ⟨⟨hp, hq⟩, List.rel_append ha hb⟩

variable {ρ : Binary64 → Binary64 → Prop}

/-! ## Expressions -/

namespace Expr

/-- The same expression but for the constants, and those are related. -/
inductive Alike (ρ : Binary64 → Binary64 → Prop) : Expr → Expr → Prop
  | const {v w : Binary64} (h : ρ v w) : Alike ρ (.const v) (.const w)
  | var (x : String) : Alike ρ (.var x) (.var x)
  | unary (op : UnaryOp) {e e' : Expr} (h : Alike ρ e e') : Alike ρ (.unary op e) (.unary op e')
  | binary (op : BinaryOp) {l l' r r' : Expr} (hl : Alike ρ l l') (hr : Alike ρ r r') :
      Alike ρ (.binary op l r) (.binary op l' r')

/-- **Similar expressions are alike, with close constants.** -/
theorem similar_iff {e e' : Expr} :
    e.similar e' = true ↔ Alike Binary64.Close e e' := by
  constructor
  · intro h
    fun_induction similar e e' with
    | case1 v w => exact .const h
    | case2 x y =>
      obtain rfl := eq_of_beq h
      exact .var x
    | case3 op e op' e' ih =>
      obtain ⟨hop, he⟩ := Bool.and_eq_true_iff.1 h
      obtain rfl := eq_of_beq hop
      exact .unary op (ih he)
    | case4 op l r op' l' r' ihl ihr =>
      obtain ⟨h, hr⟩ := Bool.and_eq_true_iff.1 h
      obtain ⟨hop, hl⟩ := Bool.and_eq_true_iff.1 h
      obtain rfl := eq_of_beq hop
      exact .binary op (ihl hl) (ihr hr)
    | case5 => cases h
  · intro h
    induction h with
    | const h => exact h
    | var x => simp [similar]
    | unary op _ ih => simp [similar, ih]
    | binary op _ _ ihl ihr => simp [similar, ihl, ihr]

theorem similar_comm (e e' : Expr) : e.similar e' = e'.similar e := by
  fun_induction similar e e' with
  | case1 v w => rw [similar, Binary64.close_comm]
  | case2 x y => rw [similar, Bool.beq_comm]
  | case3 op e op' e' ih => rw [similar, ih, Bool.beq_comm]
  | case4 op l r op' l' r' ihl ihr => rw [similar, ihl, ihr, Bool.beq_comm]
  | case5 e e' hconst hvar hunary hbinary => cases e <;> cases e' <;> simp_all [similar]

/-- The constants from left to right. -/
def constants : Expr → List Binary64
  | .const v => [v]
  | .var _ => []
  | .unary _ e => constants e
  | .binary _ l r => constants l ++ constants r

theorem length_constants {e e' : Expr} (h : e.sameShape e' = true) :
    e.constants.length = e'.constants.length := by
  fun_induction sameShape e e' with
  | case1 v w => rfl
  | case2 x y => rfl
  | case3 op e op' e' ih => exact ih (Bool.and_eq_true_iff.1 h).2
  | case4 op l r op' l' r' ihl ihr =>
    obtain ⟨h, hr⟩ := Bool.and_eq_true_iff.1 h
    have hl := (Bool.and_eq_true_iff.1 h).2
    rw [constants, constants, List.length_append, List.length_append, ihl hl, ihr hr]
  | case5 => cases h

/-- **Similar expressions have the same shape and close constants.** -/
theorem similar_iff_sameShape {e e' : Expr} : e.similar e' = true ↔
    e.sameShape e' = true ∧ List.Forall₂ Binary64.Close e.constants e'.constants := by
  fun_induction similar e e' with
  | case1 v w => simp [sameShape, constants, Binary64.Close]
  | case2 x y => simp [sameShape, constants]
  | case3 op e op' e' ih => simp only [sameShape, constants, Bool.and_eq_true, ih, and_assoc]
  | case4 op l r op' l' r' ihl ihr =>
    have hlength : l.sameShape l' = true → l.constants.length = l'.constants.length :=
      length_constants
    have hsplit := forall₂_append_and_iff (R := Binary64.Close) (q := r.sameShape r' = true)
      (b := r.constants) (d := r'.constants) hlength
    simp only [sameShape, constants, Bool.and_eq_true, ihl, ihr, and_assoc] at hsplit ⊢
    rw [hsplit]
  | case5 e e' hconst hvar hunary hbinary =>
    have hshape : e.sameShape e' = false := by
      cases e <;> cases e' <;> simp_all [sameShape]
    simp [hshape]

namespace Alike

variable {e e' r r' : Expr}

theorem refl (hρ : ∀ v, ρ v v) (e : Expr) : Alike ρ e e := by
  induction e with
  | const v => exact .const (hρ v)
  | var x => exact .var x
  | unary op e ih => exact .unary op ih
  | binary op l r ihl ihr => exact .binary op ihl ihr

theorem mono {ρ' : Binary64 → Binary64 → Prop} (h : Alike ρ e e') (hρ : ∀ v w, ρ v w → ρ' v w) :
    Alike ρ' e e' := by
  induction h with
  | const h => exact .const (hρ _ _ h)
  | var x => exact .var x
  | unary op _ ih => exact .unary op ih
  | binary op _ _ ihl ihr => exact .binary op ihl ihr

theorem sameShape (h : Alike ρ e e') :
    e.sameShape e' = true ∧ List.Forall₂ ρ e.constants e'.constants := by
  induction h with
  | const h => exact ⟨rfl, .cons h .nil⟩
  | var x => exact ⟨beq_self_eq_true x, .nil⟩
  | unary op _ ih => exact ⟨by simp [Expr.sameShape, ih.1], ih.2⟩
  | binary op _ _ ihl ihr =>
    exact ⟨by simp [Expr.sameShape, ihl.1, ihr.1], List.rel_append ihl.2 ihr.2⟩

/-- Expressions with constants that are close or the same are similar iff all are finite. -/
theorem similar_iff_finite (h : Alike Binary64.CloseOrSame e e') :
    e.similar e' = true ↔ ∀ v ∈ e.constants, v.isFinite = true := by
  obtain ⟨hshape, hconstants⟩ := h.sameShape
  rw [similar_iff_sameShape, Binary64.forall₂_close_iff hconstants, hshape]
  simp

theorem occurrences_eq (h : Alike ρ e e') : e.occurrences = e'.occurrences := by
  induction h with
  | const h => rfl
  | var x => rfl
  | unary op _ ih => exact ih
  | binary op _ _ ihl ihr => rw [occurrences, occurrences, ihl, ihr]

theorem freeVariables_eq (h : Alike ρ e e') : e.freeVariables = e'.freeVariables := by
  rw [freeVariables_eq_foldr, freeVariables_eq_foldr, h.occurrences_eq]

theorem subst (h : Alike ρ e e') (x : String) (hr : Alike ρ r r') :
    Alike ρ (e.subst x r) (e'.subst x r') := by
  induction h with
  | const h => exact .const h
  | var y =>
    by_cases hy : y = x
    · simpa [Expr.subst, hy] using hr
    · simpa [Expr.subst, hy] using Alike.var y
  | unary op _ ih => exact .unary op ih
  | binary op _ _ ihl ihr => exact .binary op ihl ihr

theorem nonzero (hzero : ρ Binary64.zero Binary64.zero) (h : Alike ρ e e') :
    Alike ρ e.nonzero e'.nonzero :=
  .binary .ne h (.const hzero)

theorem conditions (hzero : ρ Binary64.zero Binary64.zero) (h : Alike ρ e e') :
    List.Forall₂ (Alike ρ) e.conditions e'.conditions := by
  induction h with
  | const h => exact .nil
  | var x => exact .nil
  | unary op _ ih => exact ih
  | binary op _ hr ihl ihr =>
    have hoperands := List.rel_append ihl ihr
    cases op with
    | div => exact .cons (hr.nonzero hzero) hoperands
    | add | sub | mul | eq | ne | gt | ge | lt | le | and | or => exact hoperands

theorem guarded {conditions conditions' : List Expr}
    (hconditions : List.Forall₂ (Alike ρ) conditions conditions') (h : Alike ρ e e') :
    Alike ρ (Expr.guarded conditions e) (Expr.guarded conditions' e') := by
  induction hconditions with
  | nil => exact h
  | cons hc _ ih => exact .binary .and hc ih

theorem choice {b b' s s' t t' : Expr} (hb : Alike ρ b b') (hs : Alike ρ s s')
    (ht : Alike ρ t t') : Alike ρ (Expr.choice b s t) (Expr.choice b' s' t') :=
  .binary .or (.binary .and hb hs) (.binary .and (.unary .not hb) ht)

end Alike

theorem alike_closeOrSame {e e' : Expr} (h : e.similar e' = true) :
    Alike Binary64.CloseOrSame e e' :=
  (similar_iff.1 h).mono fun _ _ => .inl

theorem sameShape_self (e : Expr) : e.sameShape e = true :=
  (@Alike.refl (fun _ _ => True) (fun _ => trivial) e).sameShape.1

end Expr

/-! ## Statements -/

namespace Stmt

mutual

/-- The same statement but for the constants, and those are related. -/
inductive Alike (ρ : Binary64 → Binary64 → Prop) : Stmt → Stmt → Prop
  | assign (x : String) {e e' : Expr} (he : Expr.Alike ρ e e') :
      Alike ρ (.assign x e) (.assign x e')
  | seq {body body' : List Stmt} (hbody : AlikeAll ρ body body') :
      Alike ρ (.seq body) (.seq body')
  | cond {b b' : Expr} {s s' t t' : Stmt} (hb : Expr.Alike ρ b b') (hs : Alike ρ s s')
      (ht : Alike ρ t t') : Alike ρ (.cond b s t) (.cond b' s' t')

inductive AlikeAll (ρ : Binary64 → Binary64 → Prop) : List Stmt → List Stmt → Prop
  | nil : AlikeAll ρ [] []
  | cons {s s' : Stmt} {rest rest' : List Stmt} (hs : Alike ρ s s')
      (hrest : AlikeAll ρ rest rest') : AlikeAll ρ (s :: rest) (s' :: rest')

end

mutual

theorem alike_of_similar : ∀ {S S' : Stmt}, S.similar S' = true →
    Alike Binary64.Close S S'
  | .assign x e, S', h => by
    cases S' with
    | assign y e' =>
      obtain ⟨hxy, he⟩ := Bool.and_eq_true_iff.1 h
      obtain rfl := eq_of_beq hxy
      exact .assign x (Expr.similar_iff.1 he)
    | seq | cond => cases h
  | .seq body, S', h => by
    cases S' with
    | seq body' => exact .seq (alikeAll_of_similarAll h)
    | assign | cond => cases h
  | .cond b s t, S', h => by
    cases S' with
    | cond b' s' t' =>
      obtain ⟨h, ht⟩ := Bool.and_eq_true_iff.1 h
      obtain ⟨hb, hs⟩ := Bool.and_eq_true_iff.1 h
      exact .cond (Expr.similar_iff.1 hb) (alike_of_similar hs) (alike_of_similar ht)
    | assign | seq => cases h

theorem alikeAll_of_similarAll : ∀ {body body' : List Stmt}, similarAll body body' = true →
    AlikeAll Binary64.Close body body'
  | [], body', h => by
    cases body' with
    | nil => exact .nil
    | cons => cases h
  | s :: rest, body', h => by
    cases body' with
    | nil => cases h
    | cons s' rest' =>
      obtain ⟨hs, hrest⟩ := Bool.and_eq_true_iff.1 h
      exact .cons (alike_of_similar hs) (alikeAll_of_similarAll hrest)

end

mutual

theorem Alike.refl (hρ : ∀ v, ρ v v) : ∀ S : Stmt, Alike ρ S S
  | .assign x e => .assign x (.refl hρ e)
  | .seq body => .seq (AlikeAll.refl hρ body)
  | .cond b s t => .cond (.refl hρ b) (Alike.refl hρ s) (Alike.refl hρ t)

theorem AlikeAll.refl (hρ : ∀ v, ρ v v) : ∀ body : List Stmt, AlikeAll ρ body body
  | [] => .nil
  | s :: rest => .cons (Alike.refl hρ s) (AlikeAll.refl hρ rest)

end

mutual

/-- **Alike statements have alike preconditions.** -/
theorem Alike.wp (hzero : ρ Binary64.zero Binary64.zero) : ∀ {S S' : Stmt} {R R' : Expr},
    Alike ρ S S' → Expr.Alike ρ R R' → Expr.Alike ρ (S.wp R) (S'.wp R')
  | _, _, _, _, .assign x he, hR => .guarded (he.conditions hzero) (hR.subst x he)
  | _, _, _, _, .seq hbody, hR => AlikeAll.wpAll hzero hbody hR
  | _, _, _, _, .cond hb hs ht, hR => .choice hb (hs.wp hzero hR) (ht.wp hzero hR)

theorem AlikeAll.wpAll (hzero : ρ Binary64.zero Binary64.zero) : ∀ {body body' : List Stmt}
    {R R' : Expr}, AlikeAll ρ body body' → Expr.Alike ρ R R' →
    Expr.Alike ρ (Stmt.wpAll body R) (Stmt.wpAll body' R')
  | _, _, _, _, .nil, hR => hR
  | _, _, _, _, .cons hs hrest, hR => hs.wp hzero (hrest.wpAll hzero hR)

end

/-- The constants from left to right. -/
def constants (S : Stmt) : List Binary64 := S.expressions.flatMap Expr.constants

def constantsAll (body : List Stmt) : List Binary64 :=
  (expressionsAll body).flatMap Expr.constants

theorem constants_assign (x : String) (e : Expr) : (Stmt.assign x e).constants = e.constants := by
  simp [constants, expressions, Expr.constants]

theorem constants_cond (b : Expr) (s t : Stmt) :
    (Stmt.cond b s t).constants = b.constants ++ (s.constants ++ t.constants) := by
  simp [constants, expressions]

theorem constantsAll_cons (s : Stmt) (rest : List Stmt) :
    constantsAll (s :: rest) = s.constants ++ constantsAll rest := by
  simp [constantsAll, constants, expressionsAll]

theorem sameShape_cond {b b' : Expr} {s s' t t' : Stmt} :
    (Stmt.cond b s t).sameShape (.cond b' s' t') = true ↔
      b.sameShape b' = true ∧ s.sameShape s' = true ∧ t.sameShape t' = true := by
  rw [sameShape, Bool.and_eq_true, Bool.and_eq_true, and_assoc]

mutual

theorem Alike.sameShape : ∀ {S S' : Stmt}, Alike ρ S S' →
    S.sameShape S' = true ∧ List.Forall₂ ρ S.constants S'.constants
  | _, _, .assign x he => by
    simpa [Stmt.sameShape, constants_assign] using he.sameShape
  | _, _, .seq hbody => AlikeAll.sameShapeAll hbody
  | _, _, .cond hb hs ht => by
    obtain ⟨hb, hguard⟩ := hb.sameShape
    obtain ⟨hs, hthen⟩ := hs.sameShape
    obtain ⟨ht, helse⟩ := ht.sameShape
    rw [constants_cond, constants_cond]
    exact ⟨sameShape_cond.2 ⟨hb, hs, ht⟩,
      List.rel_append hguard (List.rel_append hthen helse)⟩

theorem AlikeAll.sameShapeAll : ∀ {body body' : List Stmt}, AlikeAll ρ body body' →
    sameShapeAll body body' = true ∧ List.Forall₂ ρ (constantsAll body) (constantsAll body')
  | _, _, .nil => ⟨rfl, .nil⟩
  | _, _, .cons hs hrest => by
    obtain ⟨hs, hfirst⟩ := hs.sameShape
    obtain ⟨hrest, hothers⟩ := hrest.sameShapeAll
    rw [constantsAll_cons, constantsAll_cons]
    exact ⟨by simp [Stmt.sameShapeAll, hs, hrest], List.rel_append hfirst hothers⟩

end

theorem sameShape_self (S : Stmt) : S.sameShape S = true :=
  (@Alike.refl (fun _ _ => True) (fun _ => trivial) S).sameShape.1

theorem sameShapeAll_self (body : List Stmt) : sameShapeAll body body = true :=
  (@AlikeAll.refl (fun _ _ => True) (fun _ => trivial) body).sameShapeAll.1

end Stmt

end WeakestPre
