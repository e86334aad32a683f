import WeakestPre.Proofs.Grammar.Reading

/-!
# Proper and collapsed statements

A statement is proper if each of its sequences has an element, and collapsed if each has two or
more. Statements that are read from a text are collapsed (`isCollapsed_of_ofText`), since a list
with one statement stands for that statement.
-/

namespace WeakestPre

namespace Stmt

mutual

/-- Every sequence in the statement has an element. -/
def isProper : Stmt → Bool
  | .assign _ _ => true
  | .seq body => !body.isEmpty && isProperAll body
  | .cond _ s t => isProper s && isProper t

def isProperAll : List Stmt → Bool
  | [] => true
  | s :: rest => isProper s && isProperAll rest

end

theorem isProper_seq {body : List Stmt} :
    (Stmt.seq body).isProper = true ↔ body ≠ [] ∧ isProperAll body = true := by
  simp [isProper]

theorem isProper_cond {b : Expr} {s t : Stmt} :
    (Stmt.cond b s t).isProper = true ↔ s.isProper = true ∧ t.isProper = true := by
  simp [isProper]

theorem isProperAll_cons {s : Stmt} {rest : List Stmt} :
    isProperAll (s :: rest) = true ↔ s.isProper = true ∧ isProperAll rest = true := by
  simp [isProperAll]

theorem isProperAll_iff {body : List Stmt} :
    isProperAll body = true ↔ ∀ s ∈ body, s.isProper = true := by
  induction body with
  | nil => simp [isProperAll]
  | cons s body ih => rw [isProperAll_cons, ih, List.forall_mem_cons]

mutual

/-- Every sequence in the statement has at least two elements. -/
def isCollapsed : Stmt → Bool
  | .assign _ _ => true
  | .seq body => decide (2 ≤ body.length) && isCollapsedAll body
  | .cond _ s t => isCollapsed s && isCollapsed t

def isCollapsedAll : List Stmt → Bool
  | [] => true
  | s :: rest => isCollapsed s && isCollapsedAll rest

end

theorem isCollapsed_seq {body : List Stmt} :
    (Stmt.seq body).isCollapsed = true ↔ 2 ≤ body.length ∧ isCollapsedAll body = true := by
  simp [isCollapsed]

theorem isCollapsed_cond {b : Expr} {s t : Stmt} :
    (Stmt.cond b s t).isCollapsed = true ↔ s.isCollapsed = true ∧ t.isCollapsed = true := by
  simp [isCollapsed]

theorem isCollapsedAll_cons {s : Stmt} {rest : List Stmt} :
    isCollapsedAll (s :: rest) = true ↔ s.isCollapsed = true ∧ isCollapsedAll rest = true := by
  simp [isCollapsedAll]

theorem isCollapsed_ofList {body : List Stmt} (hne : body ≠ []) (h : isCollapsedAll body = true) :
    (ofList body).isCollapsed = true := by
  match body with
  | [s] => exact (isCollapsedAll_cons.1 h).1
  | s :: t :: rest => exact isCollapsed_seq.2 ⟨by simp, h⟩

mutual

theorem isProper_of_isCollapsed : ∀ {S : Stmt}, S.isCollapsed = true → S.isProper = true
  | .assign _ _, _ => rfl
  | .seq body, h => by
    obtain ⟨hlength, hbody⟩ := isCollapsed_seq.1 h
    refine isProper_seq.2 ⟨?_, isProperAll_of_isCollapsedAll hbody⟩
    rintro rfl
    simp at hlength
  | .cond _ _ _, h => isProper_cond.2 ⟨isProper_of_isCollapsed (isCollapsed_cond.1 h).1,
      isProper_of_isCollapsed (isCollapsed_cond.1 h).2⟩

theorem isProperAll_of_isCollapsedAll : ∀ {body : List Stmt}, isCollapsedAll body = true →
    isProperAll body = true
  | [], _ => rfl
  | _ :: _, h => isProperAll_cons.2 ⟨isProper_of_isCollapsed (isCollapsedAll_cons.1 h).1,
      isProperAll_of_isCollapsedAll (isCollapsedAll_cons.1 h).2⟩

end

end Stmt

/-! ## Statements that are read -/

namespace Grammar

open Stmt

variable {ends : Bool → List Token → Prop}

mutual

theorem StatementAt.isCollapsed : ∀ {s r : List Token} {t : Stmt}, StatementAt ends s t r →
    t.isCollapsed = true
  | _, _, _, .assignment _ _ _ _ => rfl
  | _, _, _, .block _ hbody hne _ => isCollapsed_ofList hne hbody.isCollapsed
  | _, _, _, .conditional _ _ _ _ hthen _ _ helse _ => isCollapsed_cond.2
    ⟨isCollapsed_ofList hthen.isCollapsed.1 hthen.isCollapsed.2,
      isCollapsed_ofList helse.isCollapsed.1 helse.isCollapsed.2⟩

theorem ListAt.isCollapsed : ∀ {s r : List Token} {body : List Stmt} {trailing : Bool},
    ListAt ends s body trailing r → body ≠ [] ∧ isCollapsedAll body = true
  | _, _, _, _, .mk ht hmore =>
    ⟨List.cons_ne_nil _ _, isCollapsedAll_cons.2 ⟨ht.isCollapsed, hmore.isCollapsed⟩⟩

theorem MoreAt.isCollapsed : ∀ {s r : List Token} {body : List Stmt} {trailing : Bool},
    MoreAt ends s body trailing r → isCollapsedAll body = true
  | _, _, _, _, .stop => rfl
  | _, _, _, _, .trailing _ => rfl
  | _, _, _, _, .more _ ht hmore => isCollapsedAll_cons.2 ⟨ht.isCollapsed, hmore.isCollapsed⟩

theorem ItemsAt.isCollapsed : ∀ {s r : List Token} {body : List Stmt}, ItemsAt ends s body r →
    isCollapsedAll body = true
  | _, _, _, .nil => rfl
  | _, _, _, .cons ht _ hrest => isCollapsedAll_cons.2 ⟨ht.isCollapsed, hrest.isCollapsed⟩

end

end Grammar

/-- A text that is read has tokens. -/
theorem exists_tokenize_of_readText {α : Type} {rule : Rule α} {source text : String} {a : α}
    (h : (readText rule source text).result = .ok a) :
    ∃ tokens, tokenize source text = .ok tokens := by
  rw [readText] at h
  split at h
  · cases h
  · split at h
    · cases h
    · exact ⟨_, ‹_›⟩

/-- What a text is read as is derived from its tokens. -/
theorem Stmt.inputAt_of_ofText {limit : Nat} {source text : String} {t : Stmt}
    (h : (Stmt.ofText limit source text).result = .ok t) :
    ∃ tokens, tokenize source text = .ok tokens ∧ Grammar.InputAt Grammar.Exhausted tokens t := by
  obtain ⟨tokens, htokens⟩ := exists_tokenize_of_readText h
  obtain ⟨s, r, rfl, hdone, hend⟩ := exists_done_of_readText htokens h
  exact ⟨_, htokens, Grammar.inputAt_of_statementList (endsOnce_of_tokenize htokens) hdone hend⟩

theorem Stmt.isCollapsed_of_ofText {limit : Nat} {source text : String} {t : Stmt}
    (h : (Stmt.ofText limit source text).result = .ok t) : t.isCollapsed = true := by
  obtain ⟨tokens, -, body, trailing, mark, hlist, -, rfl⟩ := Stmt.inputAt_of_ofText h
  exact isCollapsed_ofList hlist.isCollapsed.1 hlist.isCollapsed.2

end WeakestPre
