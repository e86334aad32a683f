import WeakestPre.Proofs.Construction.Building
import WeakestPre.Proofs.Grammar.Printed

/-!
# Reading with checks

The rules put trees together freely. Here is a reader that takes nothing for granted: every node
goes through its builder, the precedence of an operator is looked up in a table, a numeral is
converted by the builder of constants, and each character of a lexeme must be there when it is read.
Each of these may be refused, and such a fault (`Fault`) is no syntax error.

**Agreement** (`Agrees`). On tokens whose identifiers are names the checked rules do what the rules
do, and no check fails, whether the text is read or refused in the end. The combinators keep this,
so a proof mirrors its rule.

**No text leads to a fault** (`Checked.ofText_eq`). The tokens of a text are such tokens.
-/

namespace WeakestPre

namespace Checked

/-- What a check may come upon, other than a syntax error. -/
inductive Fault where
  /-- A builder refuses a part. -/
  | construction (e : ConstructionError)
  /-- An operator is not in the table of precedences. -/
  | noPrecedence (symbol : String)
  /-- A character or a token behind the last one is asked for. -/
  | pastEnd
  deriving Repr

/-! ## Tokens -/

/-- Reads some characters, one after another. -/
def takeChars : Nat → Cursor → Except Fault (List Char × Cursor)
  | 0, c => return ([], c)
  | n + 1, c => match c.advance? with
    | none => throw .pastEnd
    | some ahead => do
      let taken ← takeChars n ahead.2
      return (ahead.1 :: taken.1, taken.2)

theorem length_rest_of_takeChars {n : Nat} {c : Cursor} {taken : List Char × Cursor}
    (h : takeChars n c = .ok taken) : taken.2.rest.length + n = c.rest.length := by
  induction n generalizing c taken with
  | zero =>
    obtain rfl := Except.ok.inj h
    rfl
  | succ n ih =>
    rw [takeChars] at h
    split at h
    · cases h
    · rename_i ahead hahead
      obtain ⟨t, ht, h⟩ := Construction.bind_eq_ok h
      obtain rfl := Except.ok.inj h
      obtain ⟨ch, hch, rfl⟩ := Option.map_eq_some_iff.1 hahead
      cases hrest : c.rest with
      | nil => simp [hrest] at hch
      | cons d rest =>
        have hmoved : (c.moveOver [ch]).rest = rest := by simp [Cursor.moveOver, hrest]
        have hlength := ih ht
        rw [hmoved] at hlength
        rw [List.length_cons]
        show t.2.rest.length + (n + 1) = _
        omega

/-- The lexemes from the cursor on, read character by character. -/
def scan (c : Cursor) : Except Fault (List Token × Cursor) :=
  match _hlexeme : lexeme? c.skipBlanks.rest with
  | none => return ([], c.skipBlanks)
  | some lexeme =>
    match _htaken : takeChars lexeme.2.length c.skipBlanks with
    | .error fault => throw fault
    | .ok taken => do
      let further ← scan taken.2
      return (c.skipBlanks.tokenHere lexeme.1 taken.1 :: further.1, further.2)
termination_by c.rest.length
decreasing_by
  have hlength := length_rest_of_takeChars _htaken
  have hpos := List.length_pos_iff.2 (lexeme?_ne_nil _hlexeme)
  have := Cursor.length_rest_skipBlanks_le c
  omega

/-- The tokens of a scan that came to the end of the text. -/
def tokensOf (scanned : List Token × Cursor) : Except UnknownCharacter (List Token) :=
  match scanned.2.rest with
  | [] => .ok (scanned.1 ++ [scanned.2.tokenHere .endOfInput []])
  | ch :: _ => .error ⟨ch, scanned.2.location⟩

def tokenize (source text : String) : Except Fault (Except UnknownCharacter (List Token)) :=
  (scan (Cursor.ofText source text)).map tokensOf

/-! ## Rules -/

/-- A rule that may come upon a fault. -/
def CheckedRule (α : Type) := TokenStream → Except Fault (Outcome α)

namespace CheckedRule

variable {α β : Type}

def pure (a : α) : CheckedRule α := fun s => .ok (.done a s)

def bind (c : CheckedRule α) (f : α → CheckedRule β) : CheckedRule β := fun s =>
  match c s with
  | .ok (.done a rest) => f a rest
  | .ok (.failed e rest) => .ok (.failed e rest)
  | .error fault => .error fault

instance : Monad CheckedRule where
  pure := CheckedRule.pure
  bind := CheckedRule.bind

/-- A rule that checks nothing. -/
instance : MonadLift Rule CheckedRule where
  monadLift r := fun s => .ok (r s)

def fault (f : Fault) : CheckedRule α := fun _ => .error f

/-- A node that a builder makes. -/
def build : Except ConstructionError α → CheckedRule α
  | .ok a => pure a
  | .error e => fault (.construction e)

end CheckedRule

open Rule CheckedRule

/-- How tightly the operators bind, prefix operators included. -/
def precedences : List (String × Nat) :=
  [("||", 1), ("&&", 2), ("==", 3), ("!=", 3), (">", 4), (">=", 4), ("<", 4), ("<=", 4), ("+", 5),
    ("-", 5), ("*", 6), ("/", 6), ("!", 7), ("abs", 7)]

def climb (operand : Int → CheckedRule Expr) (least : Int) : Nat → Expr → CheckedRule Expr
  | 0, left => return left
  | fuel + 1, left => do
    let t ← current
    if t.kind = .operator ∧ t.text ∈ BinaryOp.all.map BinaryOp.symbol then
      match precedences.lookup t.text with
      | none => fault (.noPrecedence t.text)
      | some precedence =>
        if precedence < least then return left
        else
          let _ ← next
          let right ← operand (precedence + 1)
          let e ← build (Construction.binary (.text t.text) (.expr left) (.expr right))
          climb operand least fuel e
    else return left

/-- A numeral. That it may write no number is the only refusal that the reader expects. -/
def number : CheckedRule Expr := do
  let t ← next
  match Construction.numberOf (.text t.text) with
  | .ok v => build (Construction.constant (.real v))
  | .error (.badNumeral _) => fail (.badNumber t)
  | .error e => fault (.construction e)

mutual

def primary : Nat → CheckedRule Expr
  | 0 => tooDeep
  | depth + 1 => do
    let t ← current
    if t.kind = .number then number
    else if t.isWord "abs" then
      let _ ← next
      expectMark "(" .openAfterAbs
      let e ← expression depth 0
      expectMark ")" .closeAbs
      build (Construction.unary (.text "abs") (.expr e))
    else if t.kind = .identifier then
      if reservedWords.contains t.text then fail (.unexpected .expression t)
      else
        let _ ← next
        build (Construction.variableOf (.text t.text))
    else if t.isOperator "!" then
      let _ ← next
      let e ← primary depth
      build (Construction.unary (.text t.text) (.expr e))
    else if t.isOperator "-" then
      let _ ← next
      let e ← primary depth
      build (Construction.unary (.text t.text) (.expr e))
    else if t.isPunctuation "(" then
      let _ ← next
      let e ← expression depth 0
      expectMark ")" .closeGroup
      return e
    else fail (.unexpected .expression t)

def expression : Nat → Int → CheckedRule Expr
  | 0, _ => tooDeep
  | depth + 1, least => do
    let left ← primary depth
    fun s => climb (expression depth) least s.remaining left s

end

/-- A list of statements as one, where only a sequence has to be built. -/
def ofList : List Stmt → CheckedRule Stmt
  | [s] => return s
  | body => build (Construction.sequence (some (body.map .stmt)))

def assignment (depth : Nat) : CheckedRule Stmt := do
  let target ← current
  if target.kind = .identifier ∧ !reservedWords.contains target.text then
    let _ ← next
    let sign ← current
    if sign.isOperator ":=" then
      let _ ← next
      let value ← expression depth 0
      build (Construction.assignment (.text target.text) (.expr value))
    else fail (.unexpected .assignment sign)
  else fail (.unexpected .variableName target)

def moreStatements (statement : CheckedRule Stmt) : Nat → CheckedRule (List Stmt)
  | 0 => return []
  | fuel + 1 => do
    if ← acceptMark ";" then
      if Grammar.startsStatement (← current) then
        let s ← statement
        let rest ← moreStatements statement fuel
        return s :: rest
      else return []
    else return []

def blockStatements (statement : CheckedRule Stmt) : Nat → CheckedRule (List Stmt)
  | 0 => return []
  | fuel + 1 => do
    let t ← current
    if t.isPunctuation "\x7d" then return []
    else if t.isEnd then fail (.unexpected .closeBlock t)
    else
      let s ← statement
      let _ ← acceptMark ";"
      let rest ← blockStatements statement fuel
      return s :: rest

def block (statement : CheckedRule Stmt) : CheckedRule Stmt := do
  expectMark "\x7b" .openBlock
  let body ← fun s => blockStatements statement (s.remaining + 1) s
  let close ← next
  if body.isEmpty then fail (.emptyBlock close) else ofList body

def conditional (guard : CheckedRule Expr) (list : CheckedRule Stmt) : CheckedRule Stmt := do
  let _ ← next
  expectMark "(" .openAfterIf
  let b ← guard
  expectMark ")" .closeCondition
  let s ← list
  let t ← current
  if t.isWord "else" then
    let _ ← next
    let s' ← list
    build (Construction.conditional (.expr b) (.stmt s) (.stmt s'))
  else fail (.missingElse t)

mutual

def statement : Nat → CheckedRule Stmt
  | 0 => tooDeep
  | depth + 1 => do
    let t ← current
    if t.isPunctuation "\x7b" then block (statement depth)
    else if t.isWord "if" then conditional (expression depth 0) (statementList depth)
    else assignment depth

def statementList : Nat → CheckedRule Stmt
  | 0 => tooDeep
  | depth + 1 => do
    let s ← statement depth
    let rest ← fun stream => moreStatements (statement depth) stream.remaining stream
    ofList (s :: rest)

end

/-! ## Texts -/

/-- Reads all of a text by one rule. -/
def readText {α : Type} (rule : CheckedRule α) (source text : String) :
    Except Fault (Except SyntaxError α) :=
  if Text.isBlankText text then return .error .blankInput
  else do
    match ← tokenize source text with
    | .error u => return .error (.unknownCharacter u)
    | .ok tokens =>
      let whole : CheckedRule α := do
        let a ← rule
        expectEnd
        return a
      match TokenStream.ofList? tokens with
      | none => throw .pastEnd
      | some stream => do
        let outcome ← whole stream
        return outcome.toExcept

def readExpr (limit : Nat) (source text : String) : Except Fault (Except SyntaxError Expr) :=
  readText (expression limit 0) source text

def readStmt (limit : Nat) (source text : String) : Except Fault (Except SyntaxError Stmt) :=
  readText (statementList limit) source text

/-! ## Agreement -/

/-- Every identifier in the stream is a name. -/
def NamesOnly (s : TokenStream) : Prop := ∀ t ∈ s.toList, t.kind = .identifier → IsName t.text

/-- Where identifiers are names, the checked rule does what the rule does. -/
def Agrees {α : Type} (c : CheckedRule α) (r : Rule α) : Prop :=
  ∀ s, NamesOnly s → c s = .ok (r s) ∧ (r s).Satisfies (fun _ s' => NamesOnly s') AnyError

theorem advance_subset {s : TokenStream} : s.advance.toList ⊆ s.toList := by
  obtain ⟨t, _ | ⟨u, rest⟩⟩ := s
  · exact List.Subset.refl _
  · exact List.subset_cons_self _ _

namespace Agrees

variable {α β : Type} {c c' : CheckedRule α} {r r' : Rule α}

theorem pure (a : α) : Agrees (Pure.pure a : CheckedRule α) (Pure.pure a) :=
  fun _ hs => ⟨rfl, hs⟩

theorem build {x : Except ConstructionError α} {a : α} (h : x = .ok a) :
    Agrees (CheckedRule.build x) (Pure.pure a) := by
  subst h
  exact pure a

theorem bind {f : α → CheckedRule β} {g : α → Rule β} (h : Agrees c r)
    (hf : ∀ a, Agrees (f a) (g a)) : Agrees (c >>= f) (r >>= g) := by
  intro s hs
  obtain ⟨hc, hr⟩ := h s hs
  show CheckedRule.bind c f s = .ok (Rule.bind r g s) ∧ (Rule.bind r g s).Satisfies _ _
  rw [CheckedRule.bind, Rule.bind, hc]
  cases hrs : r s with
  | failed e rest => exact ⟨rfl, trivial⟩
  | done a rest =>
    rw [hrs] at hr
    exact hf a rest hr

/-- A rule that checks nothing and leaves only tokens that were there. -/
theorem lift (h : ∀ s, (r s).rest.toList ⊆ s.toList) : Agrees (liftM r) r := by
  intro s hs
  refine ⟨rfl, ?_⟩
  have hrest := h s
  cases hrs : r s with
  | failed e rest => trivial
  | done a rest =>
    rw [hrs] at hrest
    exact fun t ht => hs t (hrest ht)

theorem ite {p : Prop} [Decidable p] (h : p → Agrees c r) (h' : ¬ p → Agrees c' r') :
    Agrees (if p then c else c') (if p then r else r') := by
  by_cases hp : p
  · rw [if_pos hp, if_pos hp]
    exact h hp
  · rw [if_neg hp, if_neg hp]
    exact h' hp

theorem remaining {f : Nat → CheckedRule α} {g : Nat → Rule α} (h : ∀ n, Agrees (f n) (g n)) :
    Agrees (fun s => f s.remaining s) fun s => g s.remaining s :=
  fun s hs => h s.remaining s hs

theorem current_bind {f : Token → CheckedRule α} {g : Token → Rule α}
    (h : ∀ t, (t.kind = .identifier → IsName t.text) → Agrees (f t) (g t)) :
    Agrees (liftM current >>= f) (current >>= g) :=
  fun s hs => h s.current (hs s.current List.mem_cons_self) s hs

theorem next : Agrees (liftM Rule.next) Rule.next := lift fun _ => advance_subset

theorem fail (e : SyntaxError) : Agrees (liftM (Rule.fail e : Rule α)) (Rule.fail e) :=
  lift fun _ => List.Subset.refl _

theorem tooDeep : Agrees (liftM (Rule.tooDeep : Rule α)) Rule.tooDeep :=
  lift fun _ => List.Subset.refl _

theorem expectMark (mark : String) (x : Expectation) :
    Agrees (liftM (Rule.expectMark mark x)) (Rule.expectMark mark x) := by
  refine lift fun s => ?_
  rw [Rule.expectMark, Rule.current_bind, Rule.ite_run]
  split
  · exact advance_subset
  · exact List.Subset.refl _

theorem acceptMark (mark : String) :
    Agrees (liftM (Rule.acceptMark mark)) (Rule.acceptMark mark) := by
  refine lift fun s => ?_
  rw [Rule.acceptMark, Rule.current_bind, Rule.ite_run]
  split
  · exact advance_subset
  · exact List.Subset.refl _

theorem expectEnd : Agrees (liftM Rule.expectEnd) Rule.expectEnd := by
  refine lift fun s => ?_
  rw [Rule.expectEnd, Rule.current_bind, Rule.ite_run]
  split
  · exact List.Subset.refl _
  · exact List.Subset.refl _

end Agrees

/-! ## All rules agree -/

theorem binaryOp?_eq_none_iff {t : Token} : Grammar.binaryOp? t = none ↔
    ¬ (t.kind = .operator ∧ t.text ∈ BinaryOp.all.map BinaryOp.symbol) := by
  by_cases hkind : t.kind = .operator
  · simp [Grammar.binaryOp?, hkind, BinaryOp.ofSymbol?]
  · simp [Grammar.binaryOp?, hkind]

theorem text_of_binaryOp? {t : Token} {op : BinaryOp} (h : Grammar.binaryOp? t = some op) :
    t.text = op.symbol := by
  rw [Grammar.binaryOp?, if_pos (Grammar.kind_of_binaryOp? h)] at h
  have hfound := List.find?_some (p := fun o : BinaryOp => o.symbol == t.text) h
  exact (beq_iff_eq.1 hfound).symm

/-- Every binary operator is in the table. -/
theorem lookup_symbol (op : BinaryOp) : precedences.lookup op.symbol = some op.precedence := by
  cases op <;> decide

theorem climb_agrees {operand : Int → CheckedRule Expr} {operand' : Int → Rule Expr}
    (h : ∀ k, Agrees (operand k) (operand' k)) (least : Int) :
    ∀ (fuel : Nat) (left : Expr),
      Agrees (climb operand least fuel left) (Grammar.climb operand' least fuel left)
  | 0, left => .pure left
  | fuel + 1, left => by
    refine .current_bind fun t _ => ?_
    cases hop : Grammar.binaryOp? t with
    | none =>
      rw [if_neg (binaryOp?_eq_none_iff.1 hop)]
      exact .pure left
    | some op =>
      have hkind := Grammar.kind_of_binaryOp? hop
      have hmem : op.symbol ∈ BinaryOp.all.map BinaryOp.symbol :=
        List.mem_map_of_mem (by cases op <;> decide)
      rw [text_of_binaryOp? hop, if_pos ⟨hkind, hmem⟩, lookup_symbol]
      refine .ite (fun _ => .pure left) fun _ => ?_
      refine .bind .next fun _ => (h _).bind fun right => ?_
      rw [Construction.binary_symbol]
      exact climb_agrees h least fuel (.binary op left right)

theorem number_agrees : Agrees number Grammar.number := by
  refine .bind .next fun t => ?_
  rw [Construction.numberOf]
  cases Binary64.ofNumeral? t.text with
  | some v => exact .pure (Expr.const v)
  | none => exact .fail (.badNumber t)

/-- **The checked rules for expressions agree with the rules.** -/
theorem expression_agrees (d : Nat) : Agrees (primary d) (Grammar.primary d) ∧
    ∀ least, Agrees (expression d least) (Grammar.expression d least) := by
  induction d with
  | zero => exact ⟨.tooDeep, fun _ => .tooDeep⟩
  | succ d ih =>
    obtain ⟨hprimary, hexpression⟩ := ih
    refine ⟨?_, fun least => ?_⟩
    · rw [primary, Grammar.primary]
      refine .current_bind fun t hname => .ite (fun _ => number_agrees) fun _ => ?_
      refine .ite (fun _ => ?_) fun _ => ?_
      · refine .bind .next fun _ => .bind (.expectMark _ _) fun _ => ?_
        refine (hexpression 0).bind fun e => .bind (.expectMark _ _) fun _ => ?_
        exact .build (Construction.unary_symbol .abs e)
      refine .ite (fun hkind => .ite (fun _ => .fail _) fun _ => ?_) fun _ => ?_
      · exact .bind .next fun _ => .build (Construction.variableOf_name (hname hkind))
      refine .ite (fun hnot => ?_) fun _ => ?_
      · rw [(Token.isOperator_iff.1 hnot).2]
        exact .bind .next fun _ => hprimary.bind fun e => .build (Construction.unary_symbol .not e)
      refine .ite (fun hneg => ?_) fun _ => ?_
      · rw [(Token.isOperator_iff.1 hneg).2]
        exact .bind .next fun _ => hprimary.bind fun e => .build (Construction.unary_symbol .neg e)
      refine .ite (fun _ => ?_) fun _ => .fail _
      exact .bind .next fun _ => (hexpression 0).bind fun e =>
        .bind (.expectMark _ _) fun _ => .pure e
    · rw [expression, Grammar.expression]
      exact hprimary.bind fun left => .remaining fun n => climb_agrees hexpression least n left

theorem ofList_agrees {body : List Stmt} (h : body ≠ []) :
    Agrees (ofList body) (Pure.pure (Stmt.ofList body)) := by
  match body with
  | [s] => exact .pure s
  | s :: t :: rest => exact .build (Construction.sequence_stmts (List.cons_ne_nil _ _))

theorem assignment_agrees (d : Nat) : Agrees (assignment d) (Grammar.assignment d) := by
  refine .current_bind fun target hname => .ite (fun htarget => ?_) fun _ => .fail _
  refine .bind .next fun _ => .current_bind fun sign _ => .ite (fun _ => ?_) fun _ => .fail _
  refine .bind .next fun _ => ((expression_agrees d).2 0).bind fun value => ?_
  exact .build (Construction.assignment_name (hname htarget.1) value)

section

variable {inner : CheckedRule Stmt} {inner' : Rule Stmt} (hinner : Agrees inner inner')

include hinner

theorem moreStatements_agrees : ∀ fuel : Nat,
    Agrees (moreStatements inner fuel) (Grammar.moreStatements inner' fuel)
  | 0 => .pure []
  | fuel + 1 => by
    refine .bind (.acceptMark _) fun accepted => .ite (fun _ => ?_) fun _ => .pure []
    refine .current_bind fun t _ => .ite (fun _ => ?_) fun _ => .pure []
    exact hinner.bind fun s => (moreStatements_agrees fuel).bind fun rest => .pure (s :: rest)

theorem blockStatements_agrees : ∀ fuel : Nat,
    Agrees (blockStatements inner fuel) (Grammar.blockStatements inner' fuel)
  | 0 => .pure []
  | fuel + 1 => by
    refine .current_bind fun t _ => .ite (fun _ => .pure []) fun _ => ?_
    refine .ite (fun _ => .fail _) fun _ => hinner.bind fun s => .bind (.acceptMark _) fun _ => ?_
    exact (blockStatements_agrees fuel).bind fun rest => .pure (s :: rest)

theorem block_agrees : Agrees (block inner) (Grammar.block inner') := by
  have hbody : Agrees (fun s => blockStatements inner (s.remaining + 1) s)
      fun s => Grammar.blockStatements inner' (s.remaining + 1) s :=
    .remaining fun n => blockStatements_agrees hinner (n + 1)
  refine .bind (.expectMark _ _) fun _ => hbody.bind fun body => .bind .next fun close => ?_
  exact .ite (fun _ => .fail _) fun hne => ofList_agrees (by simpa using hne)

end

theorem conditional_agrees {guard : CheckedRule Expr} {guard' : Rule Expr} {list : CheckedRule Stmt}
    {list' : Rule Stmt} (hguard : Agrees guard guard') (hlist : Agrees list list') :
    Agrees (conditional guard list) (Grammar.conditional guard' list') := by
  refine .bind .next fun _ => .bind (.expectMark _ _) fun _ => hguard.bind fun b => ?_
  refine .bind (.expectMark _ _) fun _ => hlist.bind fun s => .current_bind fun t _ => ?_
  refine .ite (fun _ => .bind .next fun _ => hlist.bind fun s' => ?_) fun _ => .fail _
  exact .build (Construction.conditional_parts b s s')

/-- **The checked rules for statements agree with the rules.** -/
theorem statement_agrees (d : Nat) : Agrees (statement d) (Grammar.statement d) ∧
    Agrees (statementList d) (Grammar.statementList d) := by
  induction d with
  | zero => exact ⟨.tooDeep, .tooDeep⟩
  | succ d ih =>
    obtain ⟨hstatement, hlist⟩ := ih
    refine ⟨?_, ?_⟩
    · rw [statement, Grammar.statement]
      refine .current_bind fun t _ => .ite (fun _ => block_agrees hstatement) fun _ => ?_
      refine .ite (fun _ => ?_) fun _ => assignment_agrees d
      exact conditional_agrees ((expression_agrees d).2 0) hlist
    · rw [statementList, Grammar.statementList]
      refine hstatement.bind fun s => .bind (.remaining (moreStatements_agrees hstatement)) ?_
      exact fun rest => ofList_agrees (List.cons_ne_nil _ _)

/-! ## No text leads to a fault -/

/-- Characters that are ahead can be read. -/
theorem takeChars_eq {v r : List Char} : ∀ {c : Cursor}, c.rest = v ++ r →
    takeChars v.length c = .ok (v, c.moveOver v) := by
  induction v with
  | nil => exact fun _ => rfl
  | cons ch v ih =>
    intro c hrest
    have hahead : c.advance? = some (ch, c.moveOver [ch]) := by
      simp [Cursor.advance?, hrest]
    have hmoved : (c.moveOver [ch]).rest = v ++ r := by
      simp [Cursor.moveOver, hrest]
    have hmove := c.moveOver_moveOver [ch] v
    simp only [List.length_cons, takeChars, hahead, ih hmoved, hmove]
    rfl

theorem scan_eq (c : Cursor) : scan c = .ok c.scan := by
  fun_induction Cursor.scan c with
  | case1 c hnone =>
    rw [scan]
    split
    · rfl
    · simp_all
  | case2 c kind v hsome tokens stop hscan ih =>
    obtain ⟨r, hrest, -, -⟩ := exists_of_lexeme? hsome
    rw [scan]
    split
    · simp_all
    · rename_i lexeme hlexeme
      obtain rfl := Option.some.inj (hlexeme.symm.trans hsome)
      have htake := takeChars_eq hrest
      split
      · rename_i hfault
        simp [htake] at hfault
      · rename_i taken htaken
        obtain rfl := Except.ok.inj (htaken.symm.trans htake)
        rw [ih, hscan]
        rfl

theorem tokenize_eq (source text : String) :
    tokenize source text = .ok (WeakestPre.tokenize source text) := by
  rw [tokenize, scan_eq]
  show Except.ok (tokensOf (Cursor.ofText source text).scan) = _
  rw [WeakestPre.tokenize, tokensOf]
  cases hrest : (Cursor.ofText source text).scan.2.rest with
  | nil => rw [Cursor.tokenize_of_nil hrest]
  | cons ch rest => rw [Cursor.tokenize_of_cons hrest]

/-- Identifiers among the tokens of a text are names. -/
theorem namesOnly_of_tokenize {source text : String} {s : TokenStream}
    (h : WeakestPre.tokenize source text = .ok s.toList) : NamesOnly s := by
  intro t ht hkind
  have hlexeme := isLexeme_of_mem_tokenize h ht (by simp [hkind])
  rw [hkind] at hlexeme
  exact isName_of_isLexeme hlexeme

/-- **Reading with checks is reading**, whatever the text is. -/
theorem readText_eq {α : Type} {c : CheckedRule α} {r : Rule α} (h : Agrees c r)
    (source text : String) :
    readText c source text = .ok (WeakestPre.readText r source text).result := by
  rw [readText, WeakestPre.readText, tokenize_eq]
  by_cases hblank : Text.isBlankText text = true
  · rw [if_pos hblank, if_pos hblank]
    rfl
  · rw [if_neg hblank, if_neg hblank]
    cases htokens : WeakestPre.tokenize source text with
    | error u => rfl
    | ok tokens =>
      cases tokens with
      | nil => exact absurd (endsOnce_of_tokenize htokens).ended id
      | cons t rest =>
        have hwhole := h.bind fun a => Agrees.bind .expectEnd fun _ => .pure a
        have hrun := (hwhole ⟨t, rest⟩ (namesOnly_of_tokenize htokens)).1
        simp only [TokenStream.ofList?]
        exact congrArg (fun x => x >>= fun outcome : Outcome α => return outcome.toExcept) hrun

/-- **No text leads to a fault.** -/
theorem ofText_eq (limit : Nat) (source text : String) :
    readExpr limit source text = .ok (Expr.ofText limit source text).result ∧
      readStmt limit source text = .ok (Stmt.ofText limit source text).result :=
  ⟨readText_eq ((expression_agrees _).2 0) source text,
    readText_eq (statement_agrees _).2 source text⟩

end Checked

end WeakestPre
