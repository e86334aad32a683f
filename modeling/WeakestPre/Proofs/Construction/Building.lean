import WeakestPre.Construction.Part
import WeakestPre.Proofs.Expr.Leaves
import WeakestPre.Proofs.Stmt.Proper

/-!
# Well-formed trees and the builders

A tree is well-formed if its names have no blanks around them and its sequences have elements
(`Expr.WellFormed`, `Stmt.WellFormed`). The builders check their parts anew each time, and
well-formed trees are what they are about:

**Well-formed nodes are accepted.** A node of a well-formed tree, built again from its own parts, is
not refused and comes out as it was.

**Everything built is well-formed.** From well-formed parts a builder makes a well-formed tree, or
it refuses them. So the well-formed trees are those that can be built (`Construction.built_iff`).
-/

namespace WeakestPre

/-! ## Names -/

namespace Text

/-- Nothing is stripped off a text that neither starts nor ends with a blank. -/
theorem strip_eq_self {s : String} (hfirst : ∀ c ∈ s.toList.head?, isBlank c = false)
    (hlast : ∀ c ∈ s.toList.getLast?, isBlank c = false) : strip s = s := by
  have hlast' : ∀ c ∈ s.toList.reverse.head?, isBlank c = false := by simpa using hlast
  rw [strip, List.dropWhile_eq_self_iff.2 (not_get_zero hfirst),
    List.dropWhile_eq_self_iff.2 (not_get_zero hlast')]
  simp

theorem strip_strip (s : String) : strip (strip s) = strip s := by
  refine strip_eq_self (fun c hc => ?_) fun c hc => ?_
  · -- What is left after blanks are dropped at the end is a front of what was there before.
    have hsuffix := List.dropWhile_suffix isBlank (l := (s.toList.dropWhile isBlank).reverse)
    obtain ⟨tail, htail⟩ := List.reverse_prefix.2 hsuffix
    rw [List.reverse_reverse] at htail
    rw [strip, String.toList_ofList] at hc
    have hhead : c ∈ (s.toList.dropWhile isBlank).head? := by
      rw [← htail, List.head?_append, Option.mem_def.1 hc]
      rfl
    exact of_mem_head?_dropWhile c hhead
  · rw [strip, String.toList_ofList, List.getLast?_reverse] at hc
    exact of_mem_head?_dropWhile c hc

theorem nearest_wide (s : String) : nearest (wide s) = s := by
  simp [nearest, wide, Function.comp_def, CodePoint.nearest]

end Text

/-- A name is a text with no blanks around it. -/
structure IsName (x : String) : Prop where
  stripped : Text.strip x = x
  ne_empty : x ≠ ""

theorem isName_strip {s : String} (h : Text.strip s ≠ "") : IsName (Text.strip s) :=
  ⟨Text.strip_strip s, h⟩

theorem isName_of_isLexeme {x : String} (h : IsLexeme .identifier x.toList) : IsName x := by
  have hword : ∀ c ∈ x.toList, Text.isBlank c = false := by
    generalize x.toList = v at h
    cases h with
    | @word c v hc hv =>
      rw [List.forall_mem_cons]
      refine ⟨?_, fun d hd => ?_⟩
      · exact Bool.eq_false_iff.2 fun hblank =>
          absurd (hc.symm.trans (Text.isWordStart_of_isBlank hblank)) (by simp)
      · exact Bool.eq_false_iff.2 fun hblank =>
          absurd ((hv d hd).symm.trans (Text.isWordPart_of_isBlank hblank)) (by simp)
  refine ⟨Text.strip_eq_self (fun c hc => hword c (List.mem_of_mem_head? hc))
    fun c hc => hword c (List.mem_of_getLast? hc), ?_⟩
  rintro rfl
  exact h.ne_nil rfl

/-! ## Well-formed trees -/

/-- A variable has a name. -/
def Expr.Named : Expr → Prop
  | .var x => IsName x
  | _ => True

def Expr.WellFormed (e : Expr) : Prop := e.AllLeaves Expr.Named

structure Stmt.WellFormed (S : Stmt) : Prop where
  proper : S.isProper = true
  named : S.AllLeaves Expr.Named

theorem Stmt.wellFormed_assign {x : String} {e : Expr} :
    (Stmt.assign x e).WellFormed ↔ IsName x ∧ e.WellFormed :=
  ⟨fun h => Stmt.allLeaves_assign.1 h.named, fun h => ⟨rfl, Stmt.allLeaves_assign.2 h⟩⟩

theorem Stmt.wellFormed_seq {body : List Stmt} :
    (Stmt.seq body).WellFormed ↔ body ≠ [] ∧ ∀ s ∈ body, s.WellFormed := by
  constructor
  · intro h
    obtain ⟨hne, hproper⟩ := Stmt.isProper_seq.1 h.proper
    exact ⟨hne, fun s hs => ⟨Stmt.isProperAll_iff.1 hproper s hs,
      Stmt.allLeaves_seq.1 h.named s hs⟩⟩
  · rintro ⟨hne, h⟩
    exact ⟨Stmt.isProper_seq.2 ⟨hne, Stmt.isProperAll_iff.2 fun s hs => (h s hs).proper⟩,
      Stmt.allLeaves_seq.2 fun s hs => (h s hs).named⟩

theorem Stmt.wellFormed_cond {b : Expr} {s t : Stmt} :
    (Stmt.cond b s t).WellFormed ↔ b.WellFormed ∧ s.WellFormed ∧ t.WellFormed := by
  constructor
  · intro h
    obtain ⟨hs, ht⟩ := Stmt.isProper_cond.1 h.proper
    obtain ⟨hb, hs', ht'⟩ := Stmt.allLeaves_cond.1 h.named
    exact ⟨hb, ⟨hs, hs'⟩, ⟨ht, ht'⟩⟩
  · rintro ⟨hb, hs, ht⟩
    exact ⟨Stmt.isProper_cond.2 ⟨hs.proper, ht.proper⟩,
      Stmt.allLeaves_cond.2 ⟨hb, hs.named, ht.named⟩⟩

/-- Trees among the parts are well-formed. -/
def Part.WellFormed : Part → Prop
  | .expr e => e.WellFormed
  | .stmt S => S.WellFormed
  | _ => True

namespace Construction

variable {op : Document} {e l r : Expr} {S T : Stmt}

/-! ## Well-formed nodes are accepted -/

theorem variableOf_name {x : String} (h : IsName x) : variableOf (.text x) = .ok (.var x) := by
  simp only [variableOf, Document.display, Text.nearest_wide, h.stripped, if_neg h.ne_empty]

theorem constant_zero : constant (.int 0) = .ok .zero := by
  have hzero : Binary64.ofInt? 0 = some Binary64.zero := by decide +kernel
  rw [constant, numberOf, hzero]
  rfl

theorem unary_symbol (o : UnaryOp) (e : Expr) :
    unary (.text o.symbol) (.expr e) = .ok (.unary o e) := by
  cases o <;> rfl

theorem binary_symbol (o : BinaryOp) (l r : Expr) :
    binary (.text o.symbol) (.expr l) (.expr r) = .ok (.binary o l r) := by
  cases o <;> rfl

theorem assignment_name {x : String} (h : IsName x) (e : Expr) :
    assignment (.text x) (.expr e) = .ok (.assign x e) := by
  simp only [assignment, targetName, h.stripped, if_neg h.ne_empty]
  rfl

theorem elements_stmts (index : Nat) (body : List Stmt) :
    elements index (body.map .stmt) = .ok body := by
  induction body generalizing index with
  | nil => rfl
  | cons s body ih =>
    simp [elements, componentStmt, ih, bind, Except.bind, pure, Except.pure]

theorem sequence_stmts {body : List Stmt} (h : body ≠ []) :
    sequence (some (body.map .stmt)) = .ok (.seq body) := by
  cases body with
  | nil => exact absurd rfl h
  | cons s body =>
    show (elements 0 ((s :: body).map .stmt)).map Stmt.seq = _
    rw [elements_stmts]
    rfl

theorem conditional_parts (b : Expr) (S T : Stmt) :
    conditional (.expr b) (.stmt S) (.stmt T) = .ok (.cond b S T) := rfl

/-! ## Everything built is well-formed -/

theorem wellFormed_constant {value : Document} (h : constant value = .ok e) : e.WellFormed := by
  rw [constant] at h
  cases hvalue : numberOf value with
  | error error => simp [hvalue, Except.map] at h
  | ok v =>
    obtain rfl : Expr.const v = e := by simpa [hvalue, Except.map] using h
    exact Expr.allLeaves_const.2 trivial

theorem wellFormed_variableOf {name : Document} (h : variableOf name = .ok e) : e.WellFormed := by
  unfold variableOf at h
  split at h
  · cases h
  · dsimp only at h
    split at h
    · cases h
    · rename_i hne
      obtain rfl := Except.ok.inj h
      exact Expr.allLeaves_var.2 (isName_strip hne)

theorem ok_bind {ε α β : Type} (a : α) (f : α → Except ε β) : (Except.ok a >>= f) = f a := rfl

theorem bind_eq_ok {ε α β : Type} {x : Except ε α} {f : α → Except ε β} {b : β}
    (h : (x >>= f) = .ok b) : ∃ a, x = .ok a ∧ f a = .ok b := by
  cases x with
  | error e => cases h
  | ok a => exact ⟨a, rfl, h⟩

theorem operand_eq_ok {symbol : String} {role : OperandRole} {p : Part}
    (h : operand symbol role p = .ok e) : p = .expr e := by
  cases p with
  | expr e' => rw [Except.ok.inj h]
  | missing | plain | stmt => cases h

theorem componentExpr_eq_ok {role : ComponentRole} {p : Part}
    (h : componentExpr role p = .ok e) : p = .expr e := by
  cases p with
  | expr e' => rw [Except.ok.inj h]
  | missing | plain | stmt => cases h

theorem componentStmt_eq_ok {role : ComponentRole} {p : Part}
    (h : componentStmt role p = .ok S) : p = .stmt S := by
  cases p with
  | stmt s => rw [Except.ok.inj h]
  | missing | plain | expr => cases h

theorem wellFormed_unary {x : Part} (hx : x.WellFormed) (h : unary op x = .ok e) :
    e.WellFormed := by
  obtain ⟨o, -, h⟩ := bind_eq_ok h
  obtain ⟨d, hd, h⟩ := bind_eq_ok h
  obtain rfl := operand_eq_ok hd
  obtain rfl := Except.ok.inj h
  exact Expr.allLeaves_unary.2 hx

theorem wellFormed_binary {x y : Part} (hx : x.WellFormed) (hy : y.WellFormed)
    (h : binary op x y = .ok e) : e.WellFormed := by
  obtain ⟨o, -, h⟩ := bind_eq_ok h
  obtain ⟨l, hl, h⟩ := bind_eq_ok h
  obtain ⟨r, hr, h⟩ := bind_eq_ok h
  obtain rfl := operand_eq_ok hl
  obtain rfl := operand_eq_ok hr
  obtain rfl := Except.ok.inj h
  exact Expr.allLeaves_binary.2 ⟨hx, hy⟩

theorem isName_targetName {target : Document} {x : String} (h : targetName target = .ok x) :
    IsName x := by
  unfold targetName at h
  split at h
  · cases h
  · dsimp only at h
    split at h
    · cases h
    · rename_i hne
      obtain rfl := Except.ok.inj h
      exact isName_strip hne
  · cases h

theorem wellFormed_assignment {target : Document} {x : Part} (hx : x.WellFormed)
    (h : assignment target x = .ok S) : S.WellFormed := by
  obtain ⟨name, hname, h⟩ := bind_eq_ok h
  obtain ⟨e, he, h⟩ := bind_eq_ok h
  obtain rfl := componentExpr_eq_ok he
  obtain rfl := Except.ok.inj h
  exact Stmt.wellFormed_assign.2 ⟨isName_targetName hname, hx⟩

theorem elements_eq_ok {index : Nat} {parts : List Part} {body : List Stmt}
    (h : elements index parts = .ok body) : parts = body.map .stmt := by
  induction parts generalizing index body with
  | nil =>
    obtain rfl := Except.ok.inj h
    rfl
  | cons p parts ih =>
    cases p with
    | missing => cases h
    | plain | expr => cases h
    | stmt s =>
      obtain ⟨rest, hrest, h⟩ := bind_eq_ok (x := elements (index + 1) parts) h
      obtain rfl := Except.ok.inj h
      rw [ih hrest]
      rfl

theorem wellFormed_sequence {parts : List Part} (hparts : ∀ p ∈ parts, p.WellFormed)
    (h : sequence (some parts) = .ok S) : S.WellFormed := by
  cases parts with
  | nil => cases h
  | cons p parts =>
    have hseq : (elements 0 (p :: parts)).map Stmt.seq = .ok S := h
    cases hbody : elements 0 (p :: parts) with
    | error e => simp [hbody, Except.map] at hseq
    | ok body =>
      obtain rfl : Stmt.seq body = S := by simpa [hbody, Except.map] using hseq
      have hmap := elements_eq_ok hbody
      refine Stmt.wellFormed_seq.2 ⟨?_, fun s hs => ?_⟩
      · rintro rfl
        simp at hmap
      · exact hparts (.stmt s) (hmap ▸ List.mem_map_of_mem hs)

theorem wellFormed_conditional {guard p q : Part} (hguard : guard.WellFormed) (hp : p.WellFormed)
    (hq : q.WellFormed) (h : conditional guard p q = .ok S) : S.WellFormed := by
  obtain ⟨b, hb, h⟩ := bind_eq_ok h
  obtain ⟨s, hs, h⟩ := bind_eq_ok h
  obtain ⟨t, ht, h⟩ := bind_eq_ok h
  obtain rfl := componentExpr_eq_ok hb
  obtain rfl := componentStmt_eq_ok hs
  obtain rfl := componentStmt_eq_ok ht
  obtain rfl := Except.ok.inj h
  exact Stmt.wellFormed_cond.2 ⟨hguard, hp, hq⟩

/-- Plain values, and what the builders make of parts that are built. -/
inductive Built : Part → Prop
  | missing : Built .missing
  | plain (value : Document) : Built (.plain value)
  | constant {value : Document} {e : Expr} (h : constant value = .ok e) : Built (.expr e)
  | variableOf {name : Document} {e : Expr} (h : variableOf name = .ok e) : Built (.expr e)
  | unary {op : Document} {x : Part} {e : Expr} (hx : Built x) (h : unary op x = .ok e) :
      Built (.expr e)
  | binary {op : Document} {x y : Part} {e : Expr} (hx : Built x) (hy : Built y)
      (h : binary op x y = .ok e) : Built (.expr e)
  | assignment {target : Document} {x : Part} {S : Stmt} (hx : Built x)
      (h : assignment target x = .ok S) : Built (.stmt S)
  | sequence {parts : List Part} {S : Stmt} (hparts : ∀ p ∈ parts, Built p)
      (h : sequence (some parts) = .ok S) : Built (.stmt S)
  | conditional {guard p q : Part} {S : Stmt} (hguard : Built guard) (hp : Built p) (hq : Built q)
      (h : conditional guard p q = .ok S) : Built (.stmt S)

theorem Built.wellFormed {p : Part} (h : Built p) : p.WellFormed := by
  induction h with
  | missing | plain => trivial
  | constant h => exact wellFormed_constant h
  | variableOf h => exact wellFormed_variableOf h
  | unary _ h ih => exact wellFormed_unary ih h
  | binary _ _ h ih ih' => exact wellFormed_binary ih ih' h
  | assignment _ h ih => exact wellFormed_assignment ih h
  | sequence _ h ih => exact wellFormed_sequence ih h
  | conditional _ _ _ h ihguard ihp ihq => exact wellFormed_conditional ihguard ihp ihq h

theorem built_expr (h : e.WellFormed) : Built (.expr e) := by
  induction e with
  | const v => exact .constant (show constant (.real v) = .ok _ from rfl)
  | var x => exact .variableOf (variableOf_name (Expr.allLeaves_var.1 h))
  | unary o e ih => exact .unary (ih (Expr.allLeaves_unary.1 h)) (unary_symbol o e)
  | binary o l r ihl ihr =>
    obtain ⟨hl, hr⟩ := Expr.allLeaves_binary.1 h
    exact .binary (ihl hl) (ihr hr) (binary_symbol o l r)

mutual

theorem built_stmt : ∀ {S : Stmt}, S.WellFormed → Built (.stmt S)
  | .assign x e, h => by
    obtain ⟨hx, he⟩ := Stmt.wellFormed_assign.1 h
    exact .assignment (built_expr he) (assignment_name hx e)
  | .seq body, h => by
    obtain ⟨hne, hbody⟩ := Stmt.wellFormed_seq.1 h
    exact .sequence (built_stmts hbody) (sequence_stmts hne)
  | .cond b s t, h => by
    obtain ⟨hb, hs, ht⟩ := Stmt.wellFormed_cond.1 h
    exact .conditional (built_expr hb) (built_stmt hs) (built_stmt ht) (conditional_parts b s t)

theorem built_stmts : ∀ {body : List Stmt}, (∀ s ∈ body, s.WellFormed) →
    ∀ p ∈ body.map Part.stmt, Built p
  | [], _ => by simp
  | s :: body, h => by
    obtain ⟨hs, hbody⟩ := List.forall_mem_cons.1 h
    exact List.forall_mem_cons.2 ⟨built_stmt hs, built_stmts hbody⟩

end

/-- **The well-formed trees are those that can be built.** -/
theorem built_iff {p : Part} : Built p ↔ p.WellFormed := by
  refine ⟨Built.wellFormed, fun h => ?_⟩
  cases p with
  | missing => exact .missing
  | plain value => exact .plain value
  | expr e => exact built_expr h
  | stmt S => exact built_stmt h

end Construction

end WeakestPre
