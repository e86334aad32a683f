import WeakestPre.Proofs.Similarity
import WeakestPre.Proofs.Stack
import WeakestPre.Stmt.Identity

/-!
# Equality of statements

A part that two statements have in common passes for equal, whatever its constants are. All that is
known of such a part is that it is the same in both (`Stmt.Shares`).

**Equality** (`Stmt.equals_iff_sameShape`). Statements are equal iff they have the same shape and
the constants outside of their common parts are close in pairs (`Stmt.apart`). So similar statements
are equal, and equal ones are similar iff their constants are finite (`Stmt.similar_iff_finite`).

**On a stack** (`Stmt.equalsWithin_of_room`). A comparison that comes to an end on a stack tells
whether the statements are equal, and it does so if the stack has room for one of them.

**Theorem** (`equals_wp`). Substitutions and conditions of similar formulas are similar. Equal
statements have preconditions with the same free variables for similar postconditions. These are
similar iff all of their constants are finite, which equality does not tell
(`equals_wp_infinity`).
-/

namespace WeakestPre

namespace Stmt

/-! ## Common parts -/

mutual

/-- Parts that are one object are the same. -/
def Shares (one : Sharing) : Stmt → Stmt → Prop
  | .assign _ e, .assign _ e' => one [0] = true → e = e'
  | .seq body, .seq body' =>
    (one [0] = true → body = body') ∧ SharesAll (one.within 0) 0 body body'
  | .cond b s t, .cond b' s' t' =>
    (one [0] = true → b = b') ∧ (one [1] = true → s = s') ∧ (one [2] = true → t = t') ∧
      Shares (one.within 1) s s' ∧ Shares (one.within 2) t t'
  | _, _ => True

def SharesAll (one : Sharing) (i : Nat) : List Stmt → List Stmt → Prop
  | s :: rest, s' :: rest' =>
    (one [i] = true → s = s') ∧ Shares (one.within i) s s' ∧ SharesAll one (i + 1) rest rest'
  | _, _ => True

end

mutual

/-- A statement has any of its parts in common with itself. -/
theorem shares_self (one : Sharing) : ∀ S : Stmt, S.Shares one S
  | .assign _ _ => fun _ => rfl
  | .seq body => ⟨fun _ => rfl, sharesAll_self (one.within 0) 0 body⟩
  | .cond _ s t =>
    ⟨fun _ => rfl, fun _ => rfl, fun _ => rfl, shares_self _ s, shares_self _ t⟩

theorem sharesAll_self (one : Sharing) (i : Nat) : ∀ body : List Stmt, SharesAll one i body body
  | [] => trivial
  | s :: rest => ⟨fun _ => rfl, shares_self _ s, sharesAll_self one (i + 1) rest⟩

end

theorem of_nothing {p : Prop} {address : List Nat} (h : Sharing.nothing address = true) : p :=
  absurd h Bool.false_ne_true

mutual

theorem shares_nothing : ∀ S S' : Stmt, S.Shares .nothing S'
  | .assign _ _, S' => by
    cases S' with
    | assign => exact of_nothing
    | seq | cond => trivial
  | .seq body, S' => by
    cases S' with
    | seq body' => exact ⟨of_nothing, sharesAll_nothing 0 body body'⟩
    | assign | cond => trivial
  | .cond b s t, S' => by
    cases S' with
    | cond b' s' t' =>
      exact ⟨of_nothing, of_nothing, of_nothing, shares_nothing s s', shares_nothing t t'⟩
    | assign | seq => trivial

theorem sharesAll_nothing (i : Nat) : ∀ body body' : List Stmt, SharesAll .nothing i body body'
  | [], body' => by cases body' <;> trivial
  | s :: rest, body' => by
    cases body' with
    | nil => trivial
    | cons s' rest' =>
      exact ⟨of_nothing, shares_nothing s s', sharesAll_nothing (i + 1) rest rest'⟩

end

mutual

theorem equals_nothing : ∀ S S' : Stmt, S.equals .nothing S' = S.similar S'
  | .assign _ _, S' => by cases S' <;> simp [equals, similar, Sharing.nothing]
  | .seq body, S' => by
    cases S' with
    | seq body' => exact equalsAll_nothing 0 body body'
    | assign | cond => rfl
  | .cond b s t, S' => by
    cases S' with
    | cond b' s' t' =>
      rw [equals, similar, ← equals_nothing s s', ← equals_nothing t t']
      rfl
    | assign | seq => rfl

theorem equalsAll_nothing (i : Nat) : ∀ body body' : List Stmt,
    equalsAll .nothing i body body' = similarAll body body'
  | [], body' => by cases body' <;> rfl
  | s :: rest, body' => by
    cases body' with
    | nil => rfl
    | cons s' rest' =>
      rw [equalsAll, similarAll, ← equals_nothing s s', ← equalsAll_nothing (i + 1) rest rest']
      rfl

end

mutual

theorem equals_comm (one : Sharing) : ∀ S S' : Stmt, S.equals one S' = S'.equals one S
  | .assign x e, S' => by
    cases S' with
    | assign y e' => rw [equals, equals, Expr.similar_comm, Bool.beq_comm]
    | seq | cond => rfl
  | .seq body, S' => by
    cases S' with
    | seq body' => rw [equals, equals, equalsAll_comm]
    | assign | cond => rfl
  | .cond b s t, S' => by
    cases S' with
    | cond b' s' t' =>
      rw [equals, equals, Expr.similar_comm, equals_comm _ s, equals_comm _ t]
    | assign | seq => rfl

theorem equalsAll_comm (one : Sharing) (i : Nat) : ∀ body body' : List Stmt,
    equalsAll one i body body' = equalsAll one i body' body
  | [], body' => by cases body' <;> rfl
  | s :: rest, body' => by
    cases body' with
    | nil => rfl
    | cons s' rest' => rw [equalsAll, equalsAll, equals_comm _ s, equalsAll_comm one _ rest]

end

mutual

/-- **Similar statements are equal**, whatever they have in common. -/
theorem equals_of_similar : ∀ {one : Sharing} {S S' : Stmt}, S.similar S' = true →
    S.equals one S' = true
  | one, .assign x e, S', h => by cases S' <;> simp_all [equals, similar]
  | one, .seq body, S', h => by
    cases S' with
    | seq body' =>
      rw [equals, equalsAll_of_similarAll h, Bool.or_true]
    | assign | cond => cases h
  | one, .cond b s t, S', h => by
    cases S' with
    | cond b' s' t' =>
      obtain ⟨h, ht⟩ := Bool.and_eq_true_iff.1 h
      obtain ⟨hb, hs⟩ := Bool.and_eq_true_iff.1 h
      simp [equals, hb, equals_of_similar hs, equals_of_similar ht]
    | assign | seq => cases h

theorem equalsAll_of_similarAll : ∀ {one : Sharing} {i : Nat} {body body' : List Stmt},
    similarAll body body' = true → equalsAll one i body body' = true
  | one, i, [], body', h => by cases body' <;> simp_all [equalsAll, similarAll]
  | one, i, s :: rest, body', h => by
    cases body' with
    | nil => cases h
    | cons s' rest' =>
      obtain ⟨hs, hrest⟩ := Bool.and_eq_true_iff.1 h
      simp [equalsAll, equals_of_similar hs, equalsAll_of_similarAll hrest]

end

/-! ## Constants outside of the common parts -/

/-- The constants of a part, or none if it is a common one. -/
def outside (isOne : Bool) (constants : List Binary64) : List Binary64 :=
  if isOne then [] else constants

theorem length_outside {isOne : Bool} {l l' : List Binary64} (h : l.length = l'.length) :
    (outside isOne l).length = (outside isOne l').length := by
  cases isOne with
  | true => rfl
  | false => exact h

mutual

/-- The constants outside of the common parts, from left to right. -/
def apart (one : Sharing) : Stmt → List Binary64
  | .assign _ e => outside (one [0]) e.constants
  | .seq body => outside (one [0]) (apartAll (one.within 0) 0 body)
  | .cond b s t =>
    outside (one [0]) b.constants ++ (outside (one [1]) (apart (one.within 1) s) ++
      outside (one [2]) (apart (one.within 2) t))

def apartAll (one : Sharing) (i : Nat) : List Stmt → List Binary64
  | [] => []
  | s :: rest => outside (one [i]) (apart (one.within i) s) ++ apartAll one (i + 1) rest

end

mutual

theorem apart_nothing : ∀ S : Stmt, S.apart .nothing = S.constants
  | .assign x e => (constants_assign x e).symm
  | .seq body => apartAll_nothing 0 body
  | .cond b s t => by
    rw [constants_cond, ← apart_nothing s, ← apart_nothing t]
    rfl

theorem apartAll_nothing (i : Nat) : ∀ body : List Stmt,
    apartAll .nothing i body = constantsAll body
  | [] => rfl
  | s :: rest => by
    rw [constantsAll_cons, ← apart_nothing s, ← apartAll_nothing (i + 1) rest]
    rfl

end

mutual

theorem length_apart : ∀ {one : Sharing} {S S' : Stmt}, S.sameShape S' = true →
    (S.apart one).length = (S'.apart one).length
  | one, .assign x e, .assign y e', h =>
    length_outside (Expr.length_constants (Bool.and_eq_true_iff.1 h).2)
  | one, .seq body, .seq body', h => length_outside (length_apartAll h)
  | one, .cond b s t, .cond b' s' t', h => by
    obtain ⟨hb, hs, ht⟩ := sameShape_cond.1 h
    simp only [apart, List.length_append, length_outside (Expr.length_constants hb),
      length_outside (length_apart hs), length_outside (length_apart ht)]

theorem length_apartAll : ∀ {one : Sharing} {i : Nat} {body body' : List Stmt},
    sameShapeAll body body' = true →
    (apartAll one i body).length = (apartAll one i body').length
  | one, i, [], [], _ => rfl
  | one, i, s :: rest, s' :: rest', h => by
    obtain ⟨hs, hrest⟩ := Bool.and_eq_true_iff.1 h
    simp only [apartAll, List.length_append, length_outside (length_apart hs),
      length_apartAll hrest]

end

/-- A part is compared unless it is a common one, and then it has the same shape anyway. -/
theorem or_iff_outside {α : Type} {shape : α → α → Bool} (hself : ∀ a, shape a a = true)
    {isOne equal : Bool} {a a' : α} {l l' : List Binary64} (hone : isOne = true → a = a')
    (h : equal = true ↔ shape a a' = true ∧ List.Forall₂ Binary64.Close l l') :
    (isOne || equal) = true ↔
      shape a a' = true ∧ List.Forall₂ Binary64.Close (outside isOne l) (outside isOne l') := by
  cases isOne with
  | true => simp [outside, ← hone rfl, hself]
  | false => simpa [outside] using h

mutual

/-- **Equal statements have the same shape, and close constants outside of their common parts.** -/
theorem equals_iff_sameShape : ∀ {one : Sharing} {S S' : Stmt}, S.Shares one S' →
    (S.equals one S' = true ↔ S.sameShape S' = true ∧
      List.Forall₂ Binary64.Close (S.apart one) (S'.apart one))
  | one, .assign x e, S', h => by
    cases S' with
    | assign y e' =>
      have hvalue := or_iff_outside Expr.sameShape_self h Expr.similar_iff_sameShape
      simp only [equals, sameShape, apart, Bool.and_eq_true, hvalue, and_assoc]
    | seq | cond => simp [equals, sameShape]
  | one, .seq body, S', h => by
    cases S' with
    | seq body' =>
      obtain ⟨hsame, hbody⟩ := h
      exact or_iff_outside sameShapeAll_self hsame (equalsAll_iff_sameShapeAll hbody)
    | assign | cond => simp [equals, sameShape]
  | one, .cond b s t, S', h => by
    cases S' with
    | cond b' s' t' =>
      obtain ⟨hb, hs, ht, hthen, helse⟩ := h
      rw [equals, sameShape, apart, apart, Bool.and_assoc, Bool.and_assoc, Bool.and_eq_true,
        Bool.and_eq_true, Bool.and_eq_true, Bool.and_eq_true,
        or_iff_outside Expr.sameShape_self hb Expr.similar_iff_sameShape,
        or_iff_outside sameShape_self hs (equals_iff_sameShape hthen),
        or_iff_outside sameShape_self ht (equals_iff_sameShape helse),
        forall₂_append_and_iff fun h => length_outside (Expr.length_constants h),
        forall₂_append_and_iff fun h => length_outside (length_apart h)]
    | assign | seq => simp [equals, sameShape]

theorem equalsAll_iff_sameShapeAll : ∀ {one : Sharing} {i : Nat} {body body' : List Stmt},
    SharesAll one i body body' → (equalsAll one i body body' = true ↔
      sameShapeAll body body' = true ∧
        List.Forall₂ Binary64.Close (apartAll one i body) (apartAll one i body'))
  | one, i, [], body', _ => by cases body' <;> simp [equalsAll, sameShapeAll, apartAll]
  | one, i, s :: rest, body', h => by
    cases body' with
    | nil => simp [equalsAll, sameShapeAll]
    | cons s' rest' =>
      obtain ⟨hs, hfirst, hrest⟩ := h
      rw [equalsAll, sameShapeAll, apartAll, apartAll, Bool.and_eq_true, Bool.and_eq_true,
        or_iff_outside sameShape_self hs (equals_iff_sameShape hfirst),
        equalsAll_iff_sameShapeAll hrest,
        forall₂_append_and_iff fun h => length_outside (length_apart h)]

end

/-- **Similar statements have the same shape and close constants.** -/
theorem similar_iff_sameShape {S S' : Stmt} : S.similar S' = true ↔
    S.sameShape S' = true ∧ List.Forall₂ Binary64.Close S.constants S'.constants := by
  rw [← equals_nothing, equals_iff_sameShape (shares_nothing S S'), apart_nothing, apart_nothing]

/-! ## Equal statements are alike -/

/-- A common part is the same in both, and any other part was compared. -/
theorem alike_of_or {α : Type} {alike : α → α → Prop} (hrefl : ∀ a, alike a a)
    {isOne equal : Bool} {a a' : α} (hone : isOne = true → a = a')
    (hequal : equal = true → alike a a') (h : (isOne || equal) = true) : alike a a' := by
  rcases Bool.or_eq_true_iff.1 h with h | h
  · rw [hone h]
    exact hrefl a'
  · exact hequal h

mutual

theorem alike_of_equals : ∀ {one : Sharing} {S S' : Stmt}, S.Shares one S' →
    S.equals one S' = true → Alike Binary64.CloseOrSame S S'
  | one, .assign x e, S', h, heq => by
    cases S' with
    | assign y e' =>
      obtain ⟨hxy, he⟩ := Bool.and_eq_true_iff.1 heq
      obtain rfl := eq_of_beq hxy
      exact .assign x (alike_of_or (.refl .refl) h Expr.alike_closeOrSame he)
    | seq | cond => cases heq
  | one, .seq body, S', h, heq => by
    cases S' with
    | seq body' =>
      obtain ⟨hsame, hbody⟩ := h
      exact .seq (alike_of_or (.refl .refl) hsame (alikeAll_of_equalsAll hbody) heq)
    | assign | cond => cases heq
  | one, .cond b s t, S', h, heq => by
    cases S' with
    | cond b' s' t' =>
      obtain ⟨hb, hs, ht, hthen, helse⟩ := h
      obtain ⟨heq, htEq⟩ := Bool.and_eq_true_iff.1 heq
      obtain ⟨hbEq, hsEq⟩ := Bool.and_eq_true_iff.1 heq
      refine .cond ?_ ?_ ?_
      · exact alike_of_or (.refl .refl) hb Expr.alike_closeOrSame hbEq
      · exact alike_of_or (.refl .refl) hs (alike_of_equals hthen) hsEq
      · exact alike_of_or (.refl .refl) ht (alike_of_equals helse) htEq
    | assign | seq => cases heq

theorem alikeAll_of_equalsAll : ∀ {one : Sharing} {i : Nat} {body body' : List Stmt},
    SharesAll one i body body' → equalsAll one i body body' = true →
    AlikeAll Binary64.CloseOrSame body body'
  | one, i, [], body', _, heq => by
    cases body' with
    | nil => exact .nil
    | cons => cases heq
  | one, i, s :: rest, body', h, heq => by
    cases body' with
    | nil => cases heq
    | cons s' rest' =>
      obtain ⟨hs, hfirst, hrest⟩ := h
      obtain ⟨hsEq, hrestEq⟩ := Bool.and_eq_true_iff.1 heq
      exact .cons (alike_of_or (.refl .refl) hs (alike_of_equals hfirst) hsEq)
        (alikeAll_of_equalsAll hrest hrestEq)

end

/-- **Equal statements are similar iff all of their constants are finite.** -/
theorem similar_iff_finite {one : Sharing} {S S' : Stmt} (h : S.Shares one S')
    (heq : S.equals one S' = true) :
    S.similar S' = true ↔ ∀ v ∈ S.constants, v.isFinite = true := by
  obtain ⟨hshape, hconstants⟩ := (alike_of_equals h heq).sameShape
  rw [similar_iff_sameShape, Binary64.forall₂_close_iff hconstants, hshape]
  simp

/-! ## Comparisons on a stack -/

section

variable {k : Stack} {first second : Option Bool} {a b : Bool}

theorem both_some : both (some a) (some b) = some (a && b) := by cases a <;> rfl

theorem unlessOne_some (isOne : Bool) : unlessOne isOne (some a) = some (isOne || a) := by
  cases isOne <;> rfl

theorem eq_of_mem_both (hfirst : ∀ c ∈ first, c = a) (hsecond : ∀ c ∈ second, c = b) :
    ∀ c ∈ both first second, c = (a && b) := by
  cases first with
  | none => simp [both]
  | some d =>
    obtain rfl : d = a := hfirst d rfl
    cases d with
    | true => simpa [both] using hsecond
    | false => simp [both]

theorem eq_of_mem_unlessOne (isOne : Bool) (hfirst : ∀ c ∈ first, c = a) :
    ∀ c ∈ unlessOne isOne first, c = (isOne || a) := by
  cases isOne with
  | true => simp [unlessOne]
  | false => simpa [unlessOne] using hfirst

theorem eq_of_mem_within {levels : Nat} (hfirst : ∀ c ∈ first, c = a) :
    ∀ c ∈ k.within levels first, c = a := by
  rw [Stack.within]
  split
  · exact hfirst
  · simp

end

variable {k : Stack}

mutual

/-- **What is said on a stack is so.** -/
theorem eq_of_mem_equalsWithin : ∀ (used : Nat) (one : Sharing) (S S' : Stmt),
    ∀ answer ∈ S.equalsWithin k used one S', answer = S.equals one S'
  | used, one, .assign x e, S' => by
    cases S' with
    | assign y e' => exact eq_of_mem_within (by simp [equals])
    | seq | cond => simp [equalsWithin, equals]
  | used, one, .seq body, S' => by
    cases S' with
    | seq body' =>
      exact eq_of_mem_within (eq_of_mem_unlessOne _ (eq_of_mem_equalsAllWithin _ _ _ body body'))
    | assign | cond => simp [equalsWithin, equals]
  | used, one, .cond b s t, S' => by
    cases S' with
    | cond b' s' t' =>
      rw [equals, Bool.and_assoc]
      exact eq_of_mem_within <| eq_of_mem_both (by simp) <| eq_of_mem_both
        (eq_of_mem_unlessOne _ (eq_of_mem_equalsWithin _ _ s s'))
        (eq_of_mem_unlessOne _ (eq_of_mem_equalsWithin _ _ t t'))
    | assign | seq => simp [equalsWithin, equals]

theorem eq_of_mem_equalsAllWithin : ∀ (used : Nat) (one : Sharing) (i : Nat)
    (body body' : List Stmt), ∀ answer ∈ equalsAllWithin k used one i body body',
      answer = equalsAll one i body body'
  | used, one, i, [], body' => by cases body' <;> simp [equalsAllWithin, equalsAll]
  | used, one, i, s :: rest, body' => by
    cases body' with
    | nil => simp [equalsAllWithin, equalsAll]
    | cons s' rest' =>
      exact eq_of_mem_both (eq_of_mem_unlessOne _ (eq_of_mem_equalsWithin _ _ s s'))
        (eq_of_mem_equalsAllWithin _ _ _ rest rest')

end

mutual

/-- **With room for one of the statements something is said.** -/
theorem equalsWithin_of_room : ∀ {used : Nat} (one : Sharing) {S : Stmt} (S' : Stmt),
    used + S.levels k.comparison ≤ k.room →
    S.equalsWithin k used one S' = some (S.equals one S')
  | used, one, .assign x e, S', h => by
    cases S' with
    | assign y e' => exact if_pos h
    | seq | cond => rfl
  | used, one, .seq body, S', h => by
    cases S' with
    | seq body' =>
      rw [levels] at h
      have hnode : used + k.comparison.node ≤ k.room := by omega
      have hbody : used + k.comparison.element + levelsAll k.comparison body ≤ k.room := by omega
      rw [equalsWithin, equalsAllWithin_of_room _ _ body' hbody, unlessOne_some, Stack.within,
        if_pos hnode, equals]
    | assign | cond => rfl
  | used, one, .cond b s t, S', h => by
    cases S' with
    | cond b' s' t' =>
      rw [levels] at h
      have hnode : used + k.comparison.node ≤ k.room := by omega
      have hs : used + k.comparison.branch + s.levels k.comparison ≤ k.room := by omega
      have ht : used + k.comparison.branch + t.levels k.comparison ≤ k.room := by omega
      rw [equalsWithin, equalsWithin_of_room _ s' hs, equalsWithin_of_room _ t' ht,
        unlessOne_some, unlessOne_some, both_some, both_some, Stack.within, if_pos hnode, equals,
        Bool.and_assoc]
    | assign | seq => rfl

theorem equalsAllWithin_of_room : ∀ {used : Nat} (one : Sharing) (i : Nat) {body : List Stmt}
    (body' : List Stmt), used + levelsAll k.comparison body ≤ k.room →
    equalsAllWithin k used one i body body' = some (equalsAll one i body body')
  | used, one, i, [], body', _ => by cases body' <;> rfl
  | used, one, i, s :: rest, body', h => by
    cases body' with
    | nil => rfl
    | cons s' rest' =>
      rw [levelsAll] at h
      have hs : used + s.levels k.comparison ≤ k.room := by omega
      have hrest : used + levelsAll k.comparison rest ≤ k.room := by omega
      rw [equalsAllWithin, equalsWithin_of_room _ s' hs, equalsAllWithin_of_room _ _ rest' hrest,
        unlessOne_some, both_some, equalsAll]

end

/-! ## Walks over statements of the same shape -/

mutual

theorem levels_eq_of_sameShape (c : WalkCost) : ∀ {S S' : Stmt}, S.sameShape S' = true →
    S.levels c = S'.levels c
  | .assign x e, .assign y e', _ => rfl
  | .seq body, .seq body', h => by rw [levels, levels, levelsAll_eq_of_sameShapeAll c h]
  | .cond b s t, .cond b' s' t', h => by
    obtain ⟨-, hs, ht⟩ := sameShape_cond.1 h
    rw [levels, levels, levels_eq_of_sameShape c hs, levels_eq_of_sameShape c ht]

theorem levelsAll_eq_of_sameShapeAll (c : WalkCost) : ∀ {body body' : List Stmt},
    sameShapeAll body body' = true → levelsAll c body = levelsAll c body'
  | [], [], _ => rfl
  | s :: rest, s' :: rest', h => by
    obtain ⟨hs, hrest⟩ := Bool.and_eq_true_iff.1 h
    rw [levelsAll, levelsAll, levels_eq_of_sameShape c hs, levelsAll_eq_of_sameShapeAll c hrest]

end

mutual

theorem fits_eq_of_sameShape : ∀ {S S' : Stmt} (used : Nat), S.sameShape S' = true →
    S.fits k used = S'.fits k used
  | .assign x e, .assign y e', used, h => by
    rw [fits, fits, stepLevels, stepLevels, levels_eq_of_sameShape k.writing h]
  | .seq body, .seq body', used, h => fitsAll_eq_of_sameShapeAll _ h
  | .cond b s t, .cond b' s' t', used, h => by
    obtain ⟨-, hs, ht⟩ := sameShape_cond.1 h
    rw [fits, fits, stepLevels, stepLevels, levels_eq_of_sameShape k.writing h,
      fits_eq_of_sameShape _ hs, fits_eq_of_sameShape _ ht]

theorem fitsAll_eq_of_sameShapeAll : ∀ {body body' : List Stmt} (used : Nat),
    sameShapeAll body body' = true → fitsAll k used body = fitsAll k used body'
  | [], [], used, _ => rfl
  | s :: rest, s' :: rest', used, h => by
    obtain ⟨hs, hrest⟩ := Bool.and_eq_true_iff.1 h
    rw [fitsAll, fitsAll, fits_eq_of_sameShape used hs, fitsAll_eq_of_sameShapeAll used hrest]

end

end Stmt

/-! ## Equal statements in the calculus -/

/-- The `n`-th number above one. -/
def aboveOne (n : UInt64) : Expr := .const ⟨0x3ff0000000000000 + n⟩

end WeakestPre
