import WeakestPre.Proofs.Grammar.Block
import WeakestPre.Proofs.Grammar.Placement
import WeakestPre.Proofs.Stmt.Flattening

/-!
# Program text in sequence

**Texts** (`Stmt.ofText_blockThen`). A program within braces, a semicolon and a second program make
a program again. The braces keep the two apart: a conditional at the end of the first program cannot
take the statements of the second. Those stand beside the block, in the list that starts with it.

**Theorem** (`calculate_blockThen`). The precondition of the whole is the precondition of the first
program for that of the second, and the steps of the second are recorded before those of the first.
-/

namespace WeakestPre

open Grammar

variable {limit : Nat} {source p q : String} {S T : Stmt}

/-! ## Tokens -/

/-- The first text as a block, and the second one behind it. -/
def blockThen (p q : String) : String := "\x7b" ++ p ++ "\x7d; " ++ q

theorem layout_blockThen {ls ls' : List (TokenKind × List Char)} (hp : Layout [] p.toList ls)
    (hq : Layout [] q.toList ls') : Layout [] (blockThen p q).toList
      ((.punctuation, ['\x7b']) ::
        (ls ++ (.punctuation, ['\x7d']) :: (.punctuation, [';']) :: ls')) := by
  have hchars : (blockThen p q).toList =
      '\x7b' :: (p.toList ++ '\x7d' :: ';' :: ' ' :: q.toList) := by
    simp [blockThen]
  rw [hchars]
  refine .mark_cons (by decide) (hp.append_delimiter (by decide) ?_)
  exact .mark_cons (by decide) (.mark_cons (by decide) hq.blank_cons)

theorem endsOnce_of_layout {w : List Token} {mark : Token} {cs : List Char}
    (h : Layout [] cs (w.map Token.lexeme)) (hmark : mark.lexeme = (.endOfInput, [])) :
    EndsOnce (w ++ [mark]) := by
  refine ⟨w, mark, rfl, Token.isEnd_of_lexeme hmark, fun t ht => ?_⟩
  have hkind : t.kind ≠ .endOfInput := h.kind_ne t.lexeme (List.mem_map_of_mem ht)
  simpa [Token.isEnd] using hkind

/-- **What is read from a text is read from any tokens with its lexemes**, up to their end. -/
theorem Rule.Blind.exists_done_of_readText {α : Type} {rule : Rule α} (hrule : rule.Blind) {a : α}
    (h : (readText rule source p).result = .ok a) :
    ∃ ls, Layout [] p.toList ls ∧ ∀ (w : List Token) (mark : Token), w.map Token.lexeme = ls →
      mark.lexeme = (.endOfInput, []) → ∃ s r, s.toList = w ++ [mark] ∧ EndsOnce s.toList ∧
        rule s = .done a r ∧ r.current.isEnd = true := by
  obtain ⟨tokens, htokens⟩ := exists_tokenize_of_readText h
  obtain ⟨s, r, rfl, hdone, hend⟩ := WeakestPre.exists_done_of_readText htokens h
  obtain ⟨lexemes, mark, hs, hmark, hlayout⟩ := exists_layout_of_tokenize htokens
  refine ⟨_, hlayout, fun w mark' hw hmark' => ?_⟩
  obtain ⟨s', hs'⟩ := TokenStream.exists_toList_eq (l := w ++ [mark']) (by simp)
  have hlexemes : s.toList.map Token.lexeme = s'.toList.map Token.lexeme := by
    simp [hs, hs', hw, hmark, hmark']
  obtain ⟨r', hdone', hr'⟩ := hrule.exists_done hlexemes hdone
  refine ⟨s', r', hs', ?_, hdone', ?_⟩
  · rw [hs']
    exact endsOnce_of_layout (hw ▸ hlayout) hmark'
  · have hcurrent : r'.current.unplaced = r.current.unplaced := congrArg TokenStream.current hr'
    show r'.current.unplaced.isEnd = true
    rw [hcurrent]
    exact hend

/-- **What is read from a text is derived from any tokens with its lexemes.** -/
theorem Stmt.exists_layout_of_ofText (h : (Stmt.ofText limit source p).result = .ok S) :
    ∃ ls, Layout [] p.toList ls ∧ ∀ (w : List Token) (mark : Token), w.map Token.lexeme = ls →
      mark.lexeme = (.endOfInput, []) → InputAt Exhausted (w ++ [mark]) S := by
  obtain ⟨ls, hlayout, hread⟩ := (statement_blind limit).2.exists_done_of_readText h
  refine ⟨ls, hlayout, fun w mark hw hmark => ?_⟩
  obtain ⟨s, r, hs, hends, hdone, hend⟩ := hread w mark hw hmark
  exact hs ▸ inputAt_of_statementList hends hdone hend

/-! ## Reading the whole -/

/-- **A block in front of a program makes a program**, unless rules are nested too deeply. -/
theorem Stmt.ofText_blockThen {source' source'' : String}
    (hp : (Stmt.ofText limit source p).result = .ok S)
    (hq : (Stmt.ofText limit source' q).result = .ok T)
    (hdepth : ∀ t, (Stmt.ofText limit source'' (blockThen p q)).result ≠ .error (.tooDeep t)) :
    ∃ body, T = .ofList body ∧
      (Stmt.ofText limit source'' (blockThen p q)).result = .ok (.ofList (S :: body)) := by
  obtain ⟨ls, hlayout, hS⟩ := Stmt.exists_layout_of_ofText hp
  obtain ⟨ls', hlayout', hT⟩ := Stmt.exists_layout_of_ofText hq
  obtain ⟨tokens, htokens, hlexemes⟩ :=
    (@tokenize_eq_ok_iff _ source'' _).2 (layout_blockThen hlayout hlayout')
  obtain ⟨o, w, c, m, w', mark, rfl, ho, hw, hc, hm, hw', hmark⟩ :
      ∃ o w c m w' mark, tokens = o :: (w ++ c :: m :: (w' ++ [mark])) ∧
        o.lexeme = (.punctuation, ['\x7b']) ∧ w.map Token.lexeme = ls ∧
        c.lexeme = (.punctuation, ['\x7d']) ∧ m.lexeme = (.punctuation, [';']) ∧
        w'.map Token.lexeme = ls' ∧ mark.lexeme = (.endOfInput, []) := by
    simp only [List.cons_append, List.append_assoc, List.map_eq_cons_iff, List.map_eq_append_iff,
      List.map_eq_nil_iff] at hlexemes
    obtain ⟨o, _, rfl, ho, w, _, rfl, hw, c, _, rfl, hc, m, _, rfl, hm, w', _, rfl, hw', mark, _,
      rfl, hmark, rfl⟩ := hlexemes
    exact ⟨o, w, c, m, w', mark, rfl, ho, hw, hc, hm, hw', hmark⟩
  obtain ⟨body, hbody, hinput⟩ := (hS w mark hw hmark).block_append (hT w' mark hw' hmark)
    (Token.isPunctuation_of_lexeme ho) (Token.isPunctuation_of_lexeme hc)
    (Token.isPunctuation_of_lexeme hm)
  obtain ⟨_, rfl, hread⟩ := exists_readText_eq_ok htokens hinput.one_lt_length hdepth
    fun s hs => statementList_of_exhausted (hs ▸ hinput)
  exact ⟨body, hbody, hread⟩

/-- The name of the source does not matter for what a program is read as. -/
theorem Stmt.ofText_source (h : (Stmt.ofText limit source p).result = .ok S) (source' : String) :
    (Stmt.ofText limit source' p).result = .ok S := by
  obtain ⟨tokens, htokens⟩ := exists_tokenize_of_readText h
  obtain ⟨lexemes, mark, rfl, hmark, hlayout⟩ := exists_layout_of_tokenize htokens
  obtain ⟨tokens', htokens', hlexemes⟩ := (@tokenize_eq_ok_iff _ source' _).2 hlayout
  refine readText_eq_ok_of_lexemes (statement_blind limit).2 htokens htokens' ?_ h
  rw [hlexemes, List.map_append, List.map_singleton, hmark]

/-! ## Calculations -/

theorem calculate_text (h : (Stmt.ofText limit source p).result = .ok S) (R : Expr)
    (log : StepLog) :
    let log' : StepLog := ⟨log.descriptions ++ (S.account R).2⟩
    calculate limit (.text p) (.tree R) log = .ok (⟨S, R, (S.account R).1, log'.lines⟩, log') := by
  have hprogram : (Input.text p : Input Stmt).program limit = .ok S := Stmt.ofText_source h _
  have hpost : (Input.tree R).postcondition limit = .ok R := rfl
  exact calculate_eq_ok hprogram hpost log

/-- **Program text composes as the rule for sequences says.** -/
theorem calculate_blockThen {source' : String} (hp : (Stmt.ofText limit source p).result = .ok S)
    (hq : (Stmt.ofText limit source' q).result = .ok T)
    (hdepth : ∀ t, (Stmt.ofText limit "<program>" (blockThen p q)).result ≠ .error (.tooDeep t))
    (R : Expr) (log : StepLog) :
    ∃ first second whole : Report × StepLog,
      calculate limit (.text q) (.tree R) = .ok second ∧
      calculate limit (.text p) (.tree second.1.precondition) = .ok first ∧
      calculate limit (.text (blockThen p q)) (.tree R) log = .ok whole ∧
      (∀ source, (Stmt.ofText limit source (blockThen p q)).result = .ok whole.1.statement) ∧
      whole.1.precondition = first.1.precondition ∧
      whole.2.descriptions =
        log.descriptions ++ second.2.descriptions ++ first.2.descriptions := by
  obtain ⟨body, rfl, hwhole⟩ := Stmt.ofText_blockThen hp hq hdepth
  refine ⟨_, _, _, calculate_text hq R .empty, calculate_text hp _ .empty,
    calculate_text hwhole R log, Stmt.ofText_source hwhole, ?_, ?_⟩
  · rw [Stmt.account_ofList, Stmt.accountAll_cons, Stmt.account_ofList]
  · rw [Stmt.account_ofList, Stmt.accountAll_cons, Stmt.account_ofList]
    simp [StepLog.empty]

/-- Without braces its second branch would take all that follows. -/
def openBranch : String := "if (x > 0) y := x else y := 1 / x;"

/-- A list whose last statement is a conditional. -/
def listWithBranch : String := "x := y; z := x; if (z) \x7b y := z \x7d else y := 0"

theorem calculate_openBranch : ∃ S T : Stmt, (Stmt.ofText 100 "" openBranch).result = .ok S ∧
    (Stmt.ofText 100 "" listWithBranch).result = .ok T ∧
    (∀ t, (Stmt.ofText 100 "<program>" (blockThen openBranch listWithBranch)).result ≠
      .error (.tooDeep t)) ∧
    ∃ first second whole : Report × StepLog,
      calculate 100 (.text listWithBranch) (.tree (.var "y")) = .ok second ∧
      calculate 100 (.text openBranch) (.tree second.1.precondition) = .ok first ∧
      calculate 100 (.text (blockThen openBranch listWithBranch)) (.tree (.var "y")) = .ok whole ∧
      whole.1.precondition = first.1.precondition ∧
      whole.2.descriptions = second.2.descriptions ++ first.2.descriptions := by
  have hread : ∀ text ∈ [openBranch, listWithBranch, blockThen openBranch listWithBranch],
      (Stmt.ofText 100 "" text).result.isOk = true := by decide +kernel
  obtain ⟨S, hS⟩ := exists_ok_of_isOk (hread openBranch (by simp))
  obtain ⟨T, hT⟩ := exists_ok_of_isOk (hread listWithBranch (by simp))
  obtain ⟨U, hU⟩ :=
    exists_ok_of_isOk (hread (blockThen openBranch listWithBranch) (by simp))
  have hdepth : ∀ t, (Stmt.ofText 100 "<program>" (blockThen openBranch listWithBranch)).result ≠
      .error (.tooDeep t) := by
    intro t
    simp [Stmt.ofText_source hU "<program>"]
  refine ⟨S, T, hS, hT, hdepth, ?_⟩
  obtain ⟨first, second, whole, hsecond, hfirst, hwhole, -, hprecondition, hlog⟩ :=
    calculate_blockThen hS hT hdepth (.var "y") .empty
  exact ⟨first, second, whole, hsecond, hfirst, hwhole, hprecondition, hlog⟩

end WeakestPre
