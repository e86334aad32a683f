import WeakestPre.Proofs.CommandLine.Run
import WeakestPre.Proofs.Grammar.Origin

/-!
# Texts on one line

Names have no line breaks in them, because a line break ends every word. So there is none in the
text of an expression or of a statement whose names come from a program (`Expr.oneLine_text`,
`Stmt.oneLine_render`). A derivation moves names and brings no new ones, so this goes on to all its
steps (`Stmt.Reaches.allLeaves`) and to the lines of its report (`Report.oneLine_textLines`).
-/

namespace WeakestPre

/-- There is no line break in the text. -/
def OneLine (s : String) : Prop := '\n' ∉ s.toList

instance (s : String) : Decidable (OneLine s) := inferInstanceAs (Decidable ('\n' ∉ s.toList))

variable {s t : String}

theorem oneLine_append : OneLine (s ++ t) ↔ OneLine s ∧ OneLine t := by
  simp [OneLine]

theorem oneLine_ofList {cs : List Char} : OneLine (String.ofList cs) ↔ '\n' ∉ cs := by
  simp [OneLine]

theorem oneLine_intercalate {texts : List String} (hs : OneLine s) (h : ∀ t ∈ texts, OneLine t) :
    OneLine (s.intercalate texts) := by
  induction texts with
  | nil => simp [OneLine]
  | cons t texts ih =>
    obtain ⟨ht, htexts⟩ := List.forall_mem_cons.1 h
    by_cases hnil : texts = []
    · subst hnil
      rwa [String.intercalate_singleton]
    · rw [String.intercalate_cons_of_ne_nil hnil, oneLine_append, oneLine_append]
      exact ⟨⟨ht, hs⟩, ih htexts⟩

/-! ## Numbers -/

theorem newline_notMem_toDigits (n : Nat) : '\n' ∉ Nat.toDigits 10 n := by
  intro h
  have hdigit := Nat.isDigit_of_mem_toDigits (by decide) (by decide) h
  revert hdigit
  decide

theorem oneLine_toString_nat (n : Nat) : OneLine (toString n) := by
  rw [OneLine, Nat.toString_eq_ofList_toDigits, String.toList_ofList]
  exact newline_notMem_toDigits n

theorem oneLine_toString_int (i : Int) : OneLine (toString i) := by
  cases i with
  | ofNat m => exact oneLine_toString_nat m
  | negSucc m => exact oneLine_append.2 ⟨by decide, oneLine_toString_nat (m + 1)⟩

namespace Binary64

theorem oneLine_layout (d : Decimal) : OneLine (layout d) := by
  have hdigits := newline_notMem_toDigits d.digits
  have htail : '\n' ∉ (Nat.toDigits 10 d.digits).tail := fun h => hdigits (List.mem_of_mem_tail h)
  have htake : ∀ k, '\n' ∉ (Nat.toDigits 10 d.digits).take k := fun k h =>
    hdigits (List.mem_of_mem_take h)
  have hdrop : ∀ k, '\n' ∉ (Nat.toDigits 10 d.digits).drop k := fun k h =>
    hdigits (List.mem_of_mem_drop h)
  simp only [layout]
  split
  · have hfraction : '\n' ∉ (if (Nat.toDigits 10 d.digits).tail = [] then []
        else '.' :: (Nat.toDigits 10 d.digits).tail) := by
      split <;> simp [htail]
    have hexponent : ∀ n, '\n' ∉ (if (Nat.toDigits 10 n).length < 2 then '0' :: Nat.toDigits 10 n
        else Nat.toDigits 10 n) := by
      intro n
      split <;> simp [newline_notMem_toDigits]
    have hsign : ∀ e : Int, '\n' ≠ if e < 0 then '-' else '+' := by
      intro e
      split <;> decide
    apply oneLine_ofList.2
    simp only [List.mem_append, List.mem_cons, htake, hfraction, hexponent, hsign, or_false]
    decide
  split
  · apply oneLine_ofList.2
    simp [hdigits]
  split
  · apply oneLine_ofList.2
    simp [htake, hdrop]
  · apply oneLine_ofList.2
    simp [hdigits]

theorem oneLine_signed {x : Binary64} (h : OneLine s) : OneLine (x.signed s) := by
  rw [signed]
  split
  · exact oneLine_append.2 ⟨by decide, h⟩
  · exact h

theorem oneLine_text (x : Binary64) : OneLine x.text := by
  rw [text]
  split
  · exact oneLine_toString_int _
  rw [plain]
  split
  · decide
  split
  · exact oneLine_signed (by decide)
  split
  · exact oneLine_signed (by decide)
  · exact oneLine_signed (oneLine_layout _)

end Binary64

/-! ## Expressions and statements -/

namespace Expr

/-- A variable has a name on one line. -/
def HasLineName : Expr → Prop
  | .var x => OneLine x
  | _ => True

theorem IsTextLeaf.hasLineName {d : Expr} (h : d.IsTextLeaf) : d.HasLineName := by
  cases d with
  | var x =>
    obtain ⟨-, htoken, -⟩ := h
    have hlexeme : IsLexeme .identifier x.toList := isLexeme_iff.2 (isToken_iff.1 htoken)
    intro hnewline
    have hblank : Text.isBlank '\n' = true := by decide
    generalize x.toList = v at hlexeme hnewline
    cases hlexeme with
    | word hc hv =>
      rcases List.mem_cons.1 hnewline with rfl | hmem
      · simp [Text.isWordStart_of_isBlank hblank] at hc
      · have hpart := hv _ hmem
        simp [Text.isWordPart_of_isBlank hblank] at hpart
  | const | unary | binary => trivial

theorem oneLine_text {e : Expr} (h : e.AllLeaves HasLineName) : OneLine e.text := by
  rw [text_eq_render]
  induction e with
  | const v => exact v.oneLine_text
  | var x => exact allLeaves_var.1 h
  | unary op e ih =>
    have hop : OneLine op.symbol := by cases op <;> decide
    simp only [render, oneLine_append, hop, ih (allLeaves_unary.1 h), true_and, and_true]
    decide
  | binary op l r ihl ihr =>
    have hop : OneLine op.symbol := by cases op <;> decide
    obtain ⟨hl, hr⟩ := allLeaves_binary.1 h
    rw [render]
    split <;> simp only [oneLine_append, hop, ihl hl, ihr hr, true_and, and_true] <;> decide

end Expr

namespace Stmt

mutual

theorem oneLine_render : ∀ {S : Stmt}, S.AllLeaves Expr.HasLineName → OneLine S.render
  | .assign x e, h => by
    obtain ⟨hx, he⟩ := allLeaves_assign.1 h
    have hname : OneLine x := hx
    simp only [render, oneLine_append, hname, Expr.oneLine_text he, true_and, and_true]
    decide
  | .seq body, h => oneLine_intercalate (by decide) (oneLine_renderAll (allLeaves_seq.1 h))
  | .cond b s t, h => by
    obtain ⟨hb, hs, ht⟩ := allLeaves_cond.1 h
    simp only [render, oneLine_append, Expr.oneLine_text hb, oneLine_render hs, oneLine_render ht,
      and_true]
    decide

theorem oneLine_renderAll : ∀ {body : List Stmt}, (∀ s ∈ body, s.AllLeaves Expr.HasLineName) →
    ∀ text ∈ renderAll body, OneLine text
  | [], _ => by simp [renderAll]
  | s :: rest, h => by
    obtain ⟨hs, hrest⟩ := List.forall_mem_cons.1 h
    exact List.forall_mem_cons.2 ⟨oneLine_render hs, oneLine_renderAll hrest⟩

end

/-! ## Derivations -/

/-- Every node of a derivation has its leaves from the statement and the postcondition, and so has
the postcondition that reaches it. -/
theorem Reaches.allLeaves {P : Expr → Prop} (hzero : P Expr.zero) {S n : Stmt} {R Q : Expr}
    {a : List Nat} (h : Reaches S R a n Q) (hS : S.AllLeaves P) (hR : R.AllLeaves P) :
    n.AllLeaves P ∧ Q.AllLeaves P := by
  induction h with
  | here => exact ⟨hS, hR⟩
  | @element body i s _ _ _ _ hs _ ih =>
    have hbody := allLeaves_seq.1 hS
    have hrest : ∀ s ∈ body.drop (i + 1), s.AllLeaves P := fun s hs =>
      hbody s (List.mem_of_mem_drop hs)
    exact ih (hbody s (List.mem_of_getElem? hs)) (AllLeaves.wpAll hzero hrest hR)
  | thenBranch _ ih => exact ih (allLeaves_cond.1 hS).2.1 hR
  | elseBranch _ ih => exact ih (allLeaves_cond.1 hS).2.2 hR

theorem oneLine_subject {S : Stmt} (h : S.AllLeaves Expr.HasLineName) :
    OneLine (Step.subject S) := by
  cases S with
  | assign x e => exact oneLine_render h
  | seq body => exact oneLine_render h
  | cond b s t =>
    obtain ⟨hb, hs, ht⟩ := allLeaves_cond.1 h
    simp only [Step.subject, oneLine_append, Expr.oneLine_text hb, oneLine_render hs,
      oneLine_render ht, and_true]
    decide

theorem oneLine_description {S : Stmt} {R : Expr} (hS : S.AllLeaves Expr.HasLineName)
    (hR : R.AllLeaves Expr.HasLineName) : ∀ step ∈ (S.derive R).2, OneLine step.description := by
  intro step hstep
  rw [derive_eq] at hstep
  obtain ⟨v, hv, rfl⟩ := List.mem_map.1 hstep
  obtain ⟨-, hreaches⟩ := (mem_visits_iff S R v).1 hv
  obtain ⟨hnode, hpost⟩ := hreaches.allLeaves trivial hS hR
  have hresult : (v.node.wp v.post).AllLeaves Expr.HasLineName := AllLeaves.wp trivial hnode hpost
  simp only [Step.description, Visit.step, Visit.result, oneLine_append, oneLine_subject hnode,
    Expr.oneLine_text hpost, Expr.oneLine_text hresult, and_true]
  decide

end Stmt

theorem StepLog.oneLine_numbered {descriptions : List String} (h : ∀ d ∈ descriptions, OneLine d)
    (n : Nat) : ∀ line ∈ numbered n descriptions, OneLine line := by
  induction descriptions generalizing n with
  | nil => simp [numbered]
  | cons d descriptions ih =>
    obtain ⟨hd, hrest⟩ := List.forall_mem_cons.1 h
    refine List.forall_mem_cons.2 ⟨?_, ih hrest (n + 1)⟩
    simp only [oneLine_append, oneLine_toString_nat, hd, true_and, and_true]
    decide

/-- **Every line of a report is one line.** -/
theorem Report.oneLine_textLines {S : Stmt} {R : Expr} (hS : S.AllLeaves Expr.HasLineName)
    (hR : R.AllLeaves Expr.HasLineName) (showSteps : Bool) :
    ∀ line ∈ (Report.ofTrees S R).textLines showSteps, OneLine line := by
  have hsteps : ∀ line ∈ (Report.ofTrees S R).steps, OneLine line := by
    refine StepLog.oneLine_numbered (fun d hd => ?_) 1
    obtain ⟨step, hstep, rfl⟩ := List.mem_map.1 hd
    exact Stmt.oneLine_description hS hR step hstep
  have hresult : (S.derive R).1.AllLeaves Expr.HasLineName := by
    rw [Stmt.derive_eq]
    exact Stmt.AllLeaves.wp trivial hS hR
  intro line hline
  rw [textLines, List.mem_append] at hline
  rcases hline with hline | hline
  · cases showSteps with
    | false => simp at hline
    | true =>
      simp only [if_true, List.mem_cons, List.mem_map] at hline
      rcases hline with rfl | ⟨step, hstep, rfl⟩
      · decide
      · exact oneLine_append.2 ⟨by decide, hsteps step hstep⟩
  · obtain rfl := List.mem_singleton.1 hline
    exact oneLine_append.2 ⟨by decide, Expr.oneLine_text hresult⟩

end WeakestPre
