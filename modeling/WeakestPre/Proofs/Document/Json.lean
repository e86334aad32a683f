import WeakestPre.Proofs.Document.JsonString

/-!
# Documents in JSON text

**Portable documents** (`Portable`). Not every document comes back from its JSON text: moments
become text, and the names of members are text too. What comes back are documents of null,
booleans, integers that are not too long, text, lists, and mappings with distinct names.

**Taking** (`Takes`). A reader takes a text for a document if it reads the document and stops right
behind the text, whatever follows that is no part of a number. This is what the layout of
collections needs to know of their items.

**Theorem** (`read_write`). Portable documents are read from their JSON text.
-/

namespace WeakestPre.Json

open Text

variable {rest : List Char}

/-! ## Blanks and ends -/

theorem skipSpace_append {blanks : List Char} (h : ∀ c ∈ blanks, isSpace c = true)
    (cs : List Char) : skipSpace (blanks ++ cs) = skipSpace cs :=
  List.dropWhile_append_of_pos h

theorem skipSpace_cons {c : Char} (h : isSpace c = false) (cs : List Char) :
    skipSpace (c :: cs) = c :: cs := by
  simp [skipSpace, h]

/-- What follows is no part of a number. -/
def Stops (rest : List Char) : Prop :=
  ∀ c ∈ rest.head?, c.isDigit = false ∧ c ≠ '.' ∧ c ≠ 'e' ∧ c ≠ 'E'

theorem stops_nil : Stops [] := by simp [Stops]

theorem stops_cons {c : Char} (h : c ∈ [' ', '\t', '\n', '\r', ',', ']', '\x7d']) :
    Stops (c :: rest) := by
  have hends : [' ', '\t', '\n', '\r', ',', ']', '\x7d'].all fun c =>
      !c.isDigit && c != '.' && c != 'e' && c != 'E' := by decide
  intro d hd
  obtain rfl : c = d := by simpa using hd
  simpa [and_assoc] using List.all_eq_true.1 hends c h

theorem Stops.blanks_append {blanks : List Char} (h : ∀ c ∈ blanks, isSpace c = true)
    (hrest : Stops rest) : Stops (blanks ++ rest) := by
  cases blanks with
  | nil => exact hrest
  | cons c blanks =>
    have hc : isSpace c = true := h c List.mem_cons_self
    apply stops_cons
    simp only [isSpace, Bool.or_eq_true, beq_iff_eq] at hc
    rcases hc with ((rfl | rfl) | rfl) | rfl <;> simp

/-! ## Integers -/

theorem readDigits_toDigits (n : Nat) : Binary64.readDigits (Nat.toDigits 10 n) = n := by
  have h := Nat.ofDigitChars_ten_toDigits (n := n)
  rwa [Nat.ofDigitChars_eq_foldl] at h

theorem toDigits_ne_zero_cons {n : Nat} (h : 0 < n) (tail : List Char) :
    Nat.toDigits 10 n ≠ '0' :: tail := by
  induction n using Nat.strongRecOn generalizing tail with
  | ind n ih =>
    by_cases hn : n < 10
    · have hdigit : ∀ m < 10, 0 < m → m.digitChar ≠ '0' := by decide
      rw [Nat.toDigits_of_lt_base hn]
      simp [hdigit n hn h]
    · rw [Nat.toDigits_of_base_le (by decide) (Nat.not_lt.1 hn)]
      cases hhead : Nat.toDigits 10 (n / 10) with
      | nil => exact absurd hhead Nat.toDigits_ne_nil
      | cons c cs =>
        intro heq
        obtain rfl : c = '0' := by simpa using (List.cons.inj heq).1
        exact ih (n / 10) (by omega) (by omega) cs hhead

theorem wholePart_toDigits (n : Nat) (hrest : Stops rest) :
    wholePart (Nat.toDigits 10 n ++ rest) = (Nat.toDigits 10 n, rest) := by
  by_cases hn : n = 0
  · subst hn
    rw [Nat.toDigits_zero]
    rfl
  · have hdigits : ∀ c ∈ Nat.toDigits 10 n, c.isDigit = true := fun c hc =>
      Nat.isDigit_of_mem_toDigits (by decide) (by decide) hc
    have hend : rest.takeWhile Char.isDigit = [] ∧ rest.dropWhile Char.isDigit = rest := by
      cases rest with
      | nil => exact ⟨rfl, rfl⟩
      | cons c cs => simp [(hrest c rfl).1]
    rw [wholePart]
    · rw [List.takeWhile_append_of_pos hdigits, List.dropWhile_append_of_pos hdigits, hend.1,
        hend.2, List.append_nil]
    · intro tail htail
      cases hhead : Nat.toDigits 10 n with
      | nil => exact absurd hhead Nat.toDigits_ne_nil
      | cons c cs =>
        rw [hhead] at htail
        obtain rfl : c = '0' := by simpa using (List.cons.inj htail).1
        exact toDigits_ne_zero_cons (by omega) cs hhead

theorem fractionPart_of_stops (hrest : Stops rest) : fractionPart rest = ([], rest) := by
  rw [fractionPart]
  rintro tail rfl
  exact (hrest '.' rfl).2.1 rfl

theorem exponentPart_of_stops (hrest : Stops rest) : exponentPart rest = (none, rest) := by
  cases rest with
  | nil => rfl
  | cons c cs =>
    obtain ⟨-, -, he, hE⟩ := hrest c rfl
    rw [exponentPart]
    exact if_neg (by simp [he, hE])

theorem readNumber_toDigits {n : Nat} (h : n < Nat.pow 10 longestInteger) (negative : Bool)
    (hrest : Stops rest) : readNumber negative (Nat.toDigits 10 n ++ rest) =
      .ok (.int (if negative then -n else n), rest) := by
  have hshort : ¬ longestInteger < (Nat.toDigits 10 n).length := by
    have hpositive : 0 < longestInteger := by decide
    -- The power of the limit must not be evaluated.
    generalize longestInteger = limit at h hpositive ⊢
    exact Nat.not_lt.2 ((Nat.length_toDigits_le_iff (by decide) hpositive).2 h)
  simp only [readNumber, wholePart_toDigits n hrest, fractionPart_of_stops hrest,
    exponentPart_of_stops hrest, readDigits_toDigits, hshort, Nat.toDigits_ne_nil, if_false,
    and_self, if_true]

theorem readScalar_of_isDigit {c : Char} (h : c.isDigit = true) (cs : List Char) :
    readScalar (c :: cs) = readNumber false (c :: cs) ∧
      readScalar ('-' :: c :: cs) = readNumber true (c :: cs) := by
  have hne : ∀ d : Char, d.isDigit = false → c ≠ d := by
    rintro d hd rfl
    simp [h] at hd
  constructor
  · rw [readScalar] <;> simp [hne]
  · rw [readScalar]
    simp [hne]

theorem exists_toDigits_eq_cons (n : Nat) :
    ∃ c cs, Nat.toDigits 10 n = c :: cs ∧ c.isDigit = true := by
  obtain ⟨c, cs, hcs⟩ := List.exists_cons_of_ne_nil (Nat.toDigits_ne_nil (n := n) (b := 10))
  have hmem : c ∈ Nat.toDigits 10 n := by simp [hcs]
  exact ⟨c, cs, hcs, Nat.isDigit_of_mem_toDigits (by decide) (by decide) hmem⟩

theorem readScalar_toDigits {n : Nat} (h : n < Nat.pow 10 longestInteger) (hrest : Stops rest) :
    readScalar (Nat.toDigits 10 n ++ rest) = .ok (.int n, rest) ∧
      readScalar ('-' :: (Nat.toDigits 10 n ++ rest)) = .ok (.int (-n), rest) := by
  have hpositive := readNumber_toDigits h false hrest
  have hnegative := readNumber_toDigits h true hrest
  obtain ⟨c, cs, hcs, hc⟩ := exists_toDigits_eq_cons n
  rw [hcs, List.cons_append] at hpositive hnegative ⊢
  obtain ⟨hread, hread'⟩ := readScalar_of_isDigit hc (cs ++ rest)
  rw [hread, hread', hpositive, hnegative]
  exact ⟨rfl, rfl⟩

/-! ## Readers that take a text -/

/-- The text starts with no blank and closes no collection. -/
def StartsItem (text : List Char) : Prop :=
  ∃ c cs, text = c :: cs ∧ isSpace c = false ∧ c ≠ ']' ∧ c ≠ '\x7d'

/-- The reader takes the text for the document, whatever follows. -/
structure Takes (value : Reader Document) (text : List Char) (d : Document) : Prop where
  starts : StartsItem text
  reads : ∀ rest, Stops rest → value (text ++ rest) = .ok (d, rest)

theorem readValue_of_scalar {c : Char} (hlist : c ≠ '[') (hmap : c ≠ '\x7b') (depth : Nat)
    (cs : List Char) : readValue depth (c :: cs) = readScalar (c :: cs) := by
  cases depth <;> rw [readValue] <;> simp [hlist, hmap]

/-- A scalar is taken at every depth. -/
theorem takes_of_readScalar {c : Char} {cs : List Char} {d : Document}
    (hc : c.isDigit = true ∨ c ∈ ['"', 'n', 't', 'f', '-'])
    (h : ∀ rest, Stops rest → readScalar (c :: (cs ++ rest)) = .ok (d, rest)) (depth : Nat) :
    Takes (readValue depth) (c :: cs) d := by
  have hne : ∀ e ∈ [' ', '\t', '\n', '\r', '[', ']', '\x7b', '\x7d'], c ≠ e := by
    have hall : [' ', '\t', '\n', '\r', '[', ']', '\x7b', '\x7d'].all fun e =>
        !(e.isDigit || ['"', 'n', 't', 'f', '-'].contains e) := by decide
    rintro e he rfl
    have := List.all_eq_true.1 hall c he
    rcases hc with hc | hc
    · simp [hc] at this
    · simp [hc] at this
  simp only [List.forall_mem_cons] at hne
  obtain ⟨hspace, htab, hfeed, hreturn, hlist, hlist', hmap, hmap', -⟩ := hne
  refine ⟨⟨c, cs, rfl, ?_, hlist', hmap'⟩, fun rest hrest => ?_⟩
  · simp [isSpace, hspace, htab, hfeed, hreturn]
  · rw [List.cons_append, readValue_of_scalar hlist hmap]
    exact h rest hrest

theorem takes_int {i : Int} (h : i.natAbs < Nat.pow 10 longestInteger) (depth : Nat) :
    Takes (readValue depth) (toString i).toList (.int i) := by
  cases i with
  | ofNat m =>
    obtain ⟨c, cs, hcs, hc⟩ := exists_toDigits_eq_cons m
    have htext : (toString (Int.ofNat m)).toList = c :: cs := Nat.toList_repr.trans hcs
    rw [htext]
    refine takes_of_readScalar (.inl hc) (fun rest hrest => ?_) depth
    rw [← List.cons_append, ← hcs]
    exact (readScalar_toDigits h hrest).1
  | negSucc m =>
    have htext : (toString (Int.negSucc m)).toList = '-' :: Nat.toDigits 10 (m + 1) := by
      rw [← Nat.toList_repr]
      exact String.toList_append
    rw [htext]
    refine takes_of_readScalar (.inr (by simp)) (fun rest hrest => ?_) depth
    exact (readScalar_toDigits h hrest).2

theorem word_append (w : String) (d : Document) (rest : List Char) :
    word w d (w.toList ++ rest) = .ok (d, rest) := by
  rw [word, if_pos (List.isPrefixOf_iff_prefix.2 (List.prefix_append w.toList rest)),
    ← String.length_toList, List.drop_left]

theorem takes_word {w : String} {c : Char} {cs : List Char} {d : Document} (hw : w.toList = c :: cs)
    (hc : c ∈ ['"', 'n', 't', 'f', '-']) (h : ∀ rest, readScalar (c :: rest) = word w d (c :: rest))
    (depth : Nat) : Takes (readValue depth) w.toList d := by
  rw [hw]
  refine takes_of_readScalar (.inr hc) (fun rest _ => ?_) depth
  rw [h, ← List.cons_append, ← hw, word_append]

theorem takes_null (depth : Nat) : Takes (readValue depth) "null".toList .null :=
  takes_word (c := 'n') rfl (by simp) (fun _ => rfl) depth

theorem takes_bool (b : Bool) (depth : Nat) :
    Takes (readValue depth) (if b then "true" else "false").toList (.bool b) := by
  cases b with
  | false => exact takes_word (c := 'f') rfl (by simp) (fun _ => rfl) depth
  | true => exact takes_word (c := 't') rfl (by simp) (fun _ => rfl) depth

theorem toList_writeWide (w : Wide) :
    (writeWide w).toList = '"' :: (w.flatMap escapePoint ++ ['"']) := by
  rw [writeWide, String.toList_ofList, List.cons_append]

theorem takes_wide {w : Wide} (h : Unpaired w) (depth : Nat) :
    Takes (readValue depth) (writeWide w).toList (.ofWide w) := by
  rw [toList_writeWide]
  refine takes_of_readScalar (.inr (by simp)) (fun rest _ => ?_) depth
  rw [List.append_assoc, readScalar]
  simp only [List.singleton_append, readString_escapes h]

/-! ## Items -/

section Items

variable {α : Type} {items : List α} {f : α → List Char} (separator : List Char)

theorem startsItem_intercalate (hne : items ≠ []) (h : ∀ a ∈ items, StartsItem (f a)) :
    StartsItem (separator.intercalate (items.map f)) := by
  cases items with
  | nil => exact absurd rfl hne
  | cons a items =>
    obtain ⟨c, cs, hcs, hc⟩ := h a List.mem_cons_self
    cases items with
    | nil => exact ⟨c, cs, by simpa using hcs, hc⟩
    | cons b items =>
      rw [List.map_cons, List.map_cons, List.intercalate_cons_cons, hcs]
      exact ⟨c, _, rfl, hc⟩

theorem length_le_length_intercalate (h : ∀ a ∈ items, StartsItem (f a)) :
    items.length ≤ (separator.intercalate (items.map f)).length := by
  induction items with
  | nil => exact Nat.zero_le _
  | cons a items ih =>
    obtain ⟨c, cs, hcs, -⟩ := h a List.mem_cons_self
    have hitems := ih fun b hb => h b (List.mem_cons_of_mem a hb)
    cases items with
    | nil => simp [hcs]
    | cons b items =>
      rw [List.map_cons, List.map_cons, List.intercalate_cons_cons, ← List.map_cons, hcs]
      simp only [List.length_append, List.length_cons] at hitems ⊢
      omega

end Items

section Collections

variable {value : Reader Document} {write : Document → List Char} {blanks blanks' : List Char}

theorem readItems_last {fuel : Nat} {acc : List Document} {cs more : List Char} {d : Document}
    (hd : value cs = .ok (d, more)) (hmore : skipSpace more = ']' :: rest) :
    readItems value (fuel + 1) acc cs = .ok (.list (acc.reverse ++ [d]), rest) := by
  rw [readItems, hd]
  simp only [bind, Except.bind, hmore, List.reverse_cons]

theorem readItems_next {fuel : Nat} {acc : List Document} {cs more : List Char} {d : Document}
    (hd : value cs = .ok (d, more)) (hmore : skipSpace more = ',' :: rest) :
    readItems value (fuel + 1) acc cs = readItems value fuel (d :: acc) (skipSpace rest) := by
  rw [readItems, hd]
  simp only [bind, Except.bind, hmore]

theorem skipSpace_of_startsItem {text : List Char} (h : StartsItem text) (more : List Char) :
    skipSpace (text ++ more) = text ++ more := by
  obtain ⟨c, cs, rfl, hc, -⟩ := h
  exact skipSpace_cons hc _

/-- The items of a list are read one after another. -/
theorem readItems_intercalate (hblanks : ∀ c ∈ blanks, isSpace c = true)
    (hblanks' : ∀ c ∈ blanks', isSpace c = true) {items : List Document} (hne : items ≠ [])
    (h : ∀ d ∈ items, Takes value (write d) d) {fuel : Nat} (hfuel : items.length ≤ fuel)
    (acc : List Document) :
    readItems value fuel acc
        ((',' :: blanks).intercalate (items.map write) ++ (blanks' ++ ']' :: rest)) =
      .ok (.list (acc.reverse ++ items), rest) := by
  induction items generalizing fuel acc with
  | nil => exact absurd rfl hne
  | cons d items ih =>
    obtain ⟨hd, hitems⟩ := List.forall_mem_cons.1 h
    obtain ⟨fuel, rfl⟩ : ∃ k, fuel = k + 1 := Nat.exists_eq_add_one_of_ne_zero (by
      rintro rfl
      simp at hfuel)
    cases items with
    | nil =>
      have hstops : Stops (blanks' ++ ']' :: rest) := .blanks_append hblanks' (stops_cons (by simp))
      rw [List.map_singleton, List.intercalate_singleton]
      apply readItems_last (hd.reads _ hstops)
      rw [skipSpace_append hblanks', skipSpace_cons (by decide)]
    | cons d' items =>
      have hstart : StartsItem ((',' :: blanks).intercalate ((d' :: items).map write)) :=
        startsItem_intercalate _ (by simp) fun e he => (hitems e he).starts
      rw [List.map_cons, List.map_cons, List.intercalate_cons_cons, ← List.map_cons,
        List.append_assoc, List.append_assoc, List.cons_append,
        readItems_next (hd.reads _ (stops_cons (by simp))) (skipSpace_cons (by decide) _),
        skipSpace_append hblanks, skipSpace_of_startsItem hstart,
        ih (by simp) hitems (by simpa using hfuel), List.reverse_cons, List.append_assoc]
      rfl

/-- A member as it is written. -/
def member (write : Document → List Char) (field : String × Document) : List Char :=
  (writeWide (wide field.1)).toList ++ ':' :: ' ' :: write field.2

theorem startsItem_member (field : String × Document) : StartsItem (member write field) := by
  rw [member, toList_writeWide]
  exact ⟨'"', _, rfl, by decide⟩

theorem readName_member {field : String × Document} (h : StartsItem (write field.2))
    (rest : List Char) :
    readName (member write field ++ rest) = .ok (.text field.1, write field.2 ++ rest) := by
  have hspace : skipSpace (' ' :: (write field.2 ++ rest)) = write field.2 ++ rest :=
    (skipSpace_append (show ∀ c ∈ [' '], isSpace c = true by simp [isSpace]) _).trans
      (skipSpace_of_startsItem h rest)
  rw [member, toList_writeWide, List.cons_append, List.cons_append, readName]
  simp only [List.append_assoc, List.cons_append, List.nil_append,
    readString_escapes (unpaired_wide field.1), skipSpace_cons (c := ':') rfl, hspace,
    Document.ofWide_wide]

theorem readMembers_last {fuel : Nat} {acc : List (Document × Document)}
    {cs more more' : List Char} {name d : Document} (hname : readName cs = .ok (name, more))
    (hd : value more = .ok (d, more')) (hmore : skipSpace more' = '\x7d' :: rest) :
    readMembers value (fuel + 1) acc cs = .ok (.map (Document.setEntry name d acc), rest) := by
  rw [readMembers, hname]
  simp only [bind, Except.bind, hd, hmore]

theorem readMembers_next {fuel : Nat} {acc : List (Document × Document)}
    {cs more more' : List Char} {name d : Document} (hname : readName cs = .ok (name, more))
    (hd : value more = .ok (d, more')) (hmore : skipSpace more' = ',' :: rest) :
    readMembers value (fuel + 1) acc cs =
      readMembers value fuel (Document.setEntry name d acc) (skipSpace rest) := by
  rw [readMembers, hname]
  simp only [bind, Except.bind, hd, hmore]

/-- The entry of a field. -/
def entry (field : String × Document) : Document × Document := (.text field.1, field.2)

/-- A field with a new name goes behind the others. -/
theorem setEntry_text {field : String × Document} {fields : List (String × Document)}
    (h : field.1 ∉ fields.map Prod.fst) :
    Document.setEntry (.text field.1) field.2 (fields.map entry) =
      (fields ++ [field]).map entry := by
  induction fields with
  | nil => rfl
  | cons f fields ih =>
    rw [List.map_cons, List.mem_cons, not_or] at h
    have hname : Document.sameScalar (.text f.1) (.text field.1) = false := by
      simp [Document.sameScalar, Document.whole?, Ne.symm h.1]
    rw [List.map_cons, Document.setEntry, entry, hname, ih h.2]
    rfl

/-- The members of a mapping are read one after another. -/
theorem readMembers_intercalate (hblanks : ∀ c ∈ blanks, isSpace c = true)
    (hblanks' : ∀ c ∈ blanks', isSpace c = true) {fields : List (String × Document)}
    (hne : fields ≠ []) (h : ∀ f ∈ fields, Takes value (write f.2) f.2) {fuel : Nat}
    (hfuel : fields.length ≤ fuel) (before : List (String × Document))
    (hnames : ((before ++ fields).map Prod.fst).Nodup) :
    readMembers value fuel (before.map entry)
        ((',' :: blanks).intercalate (fields.map (member write)) ++ (blanks' ++ '\x7d' :: rest)) =
      .ok (.record (before ++ fields), rest) := by
  induction fields generalizing fuel before with
  | nil => exact absurd rfl hne
  | cons f fields ih =>
    obtain ⟨hf, hfields⟩ := List.forall_mem_cons.1 h
    obtain ⟨fuel, rfl⟩ : ∃ k, fuel = k + 1 := Nat.exists_eq_add_one_of_ne_zero (by
      rintro rfl
      simp at hfuel)
    have hnew : f.1 ∉ before.map Prod.fst := by
      intro hmem
      rw [List.map_append, List.map_cons] at hnames
      exact (List.nodup_append.1 hnames).2.2 _ hmem _ List.mem_cons_self rfl
    cases fields with
    | nil =>
      have hstops : Stops (blanks' ++ '\x7d' :: rest) :=
        .blanks_append hblanks' (stops_cons (by simp))
      rw [List.map_singleton, List.intercalate_singleton]
      have hend : skipSpace (blanks' ++ '\x7d' :: rest) = '\x7d' :: rest := by
        rw [skipSpace_append hblanks', skipSpace_cons (by decide)]
      rw [readMembers_last (readName_member hf.starts _) (hf.reads _ hstops) hend,
        setEntry_text hnew]
      rfl
    | cons f' fields =>
      have hstart : StartsItem ((',' :: blanks).intercalate ((f' :: fields).map (member write))) :=
        startsItem_intercalate _ (by simp) fun f _ => startsItem_member f
      rw [List.append_cons] at hnames
      rw [List.map_cons, List.map_cons, List.intercalate_cons_cons, ← List.map_cons,
        List.append_assoc, List.append_assoc, List.cons_append,
        readMembers_next (readName_member hf.starts _) (hf.reads _ (stops_cons (by simp)))
          (skipSpace_cons (by decide) _),
        setEntry_text hnew, skipSpace_append hblanks, skipSpace_of_startsItem hstart,
        ih (by simp) hfields (by simpa using hfuel) _ hnames, ← List.append_cons]

end Collections

/-! ## Brackets -/

theorem isSpace_of_mem_lineStart {indent : Option Nat} {depth : Nat} :
    ∀ c ∈ (lineStart indent depth).toList, isSpace c = true := by
  intro c hc
  cases indent with
  | none => simp [lineStart] at hc
  | some width =>
    simp only [lineStart, String.toList_append, String.toList_ofList, List.mem_append,
      List.mem_replicate] at hc
    rcases hc with hc | ⟨-, rfl⟩
    · obtain rfl : c = '\n' := by simpa using hc
      rfl
    · rfl

/-- The layout of items between brackets: there are commas between them, and blanks. -/
theorem toList_bracket {α : Type} {items : List α} {f : α → List Char} {texts : List String}
    (htexts : texts.map String.toList = items.map f) (hne : items ≠ []) (indent : Option Nat)
    (depth : Nat) (opening closing : String) : ∃ blanks blanks' blanks'',
      (∀ c ∈ blanks, isSpace c = true) ∧ (∀ c ∈ blanks', isSpace c = true) ∧
      (∀ c ∈ blanks'', isSpace c = true) ∧
      (bracket indent depth opening closing texts).toList = opening.toList ++ (blanks ++
        ((',' :: blanks').intercalate (items.map f) ++ (blanks'' ++ closing.toList))) := by
  have htexts_ne : texts ≠ [] := by
    rintro rfl
    simp [hne] at htexts
  have hseparator : ∃ blanks', (∀ c ∈ blanks', isSpace c = true) ∧
      ((if indent.isSome then "," else ", ") ++ lineStart indent (depth + 1)).toList =
        ',' :: blanks' := by
    cases indent with
    | none => exact ⟨[' '], by simp [isSpace], by simp [lineStart]⟩
    | some width =>
      exact ⟨(lineStart (some width) (depth + 1)).toList, isSpace_of_mem_lineStart, by simp⟩
  obtain ⟨blanks', hblanks', hseparator⟩ := hseparator
  refine ⟨(lineStart indent (depth + 1)).toList, blanks', (lineStart indent depth).toList,
    isSpace_of_mem_lineStart, hblanks', isSpace_of_mem_lineStart, ?_⟩
  rw [bracket, if_neg (by simpa using htexts_ne)]
  simp only [String.toList_append, String.toList_intercalate, List.append_assoc, ← hseparator,
    htexts]

/-! ## Documents -/

/-- A document that comes back from its JSON text, with collections nested at most so deep. -/
inductive Portable : Nat → Document → Prop
  | null {n : Nat} : Portable n .null
  | bool {n : Nat} {b : Bool} : Portable n (.bool b)
  | int {n : Nat} {i : Int} (h : i.natAbs < Nat.pow 10 longestInteger) : Portable n (.int i)
  | wide {n : Nat} {w : Wide} (h : Unpaired w) : Portable n (.ofWide w)
  | list {n : Nat} {items : List Document} (h : ∀ d ∈ items, Portable n d) :
      Portable (n + 1) (.list items)
  | record {n : Nat} {fields : List (String × Document)} (hnames : (fields.map Prod.fst).Nodup)
      (h : ∀ f ∈ fields, Portable n f.2) : Portable (n + 1) (.record fields)

theorem Portable.text {n : Nat} (s : String) : Portable n (.text s) :=
  Document.ofWide_wide s ▸ .wide (unpaired_wide s)

section Writing

variable (indent : Option Nat) (depth : Nat)

theorem writeItems_eq (items : List Document) :
    (writeItems indent depth items).map String.toList =
      items.map fun d => (writeAt indent depth d).toList := by
  induction items with
  | nil => rfl
  | cons d items ih => rw [writeItems, List.map_cons, ih, List.map_cons]

theorem writeMembers_eq (fields : List (String × Document)) :
    writeMembers indent depth (fields.map entry) =
      fields.map fun f => writeWide (wide f.1) ++ ": " ++ writeAt indent depth f.2 := by
  induction fields with
  | nil => rfl
  | cons f fields ih =>
    rw [List.map_cons, entry, writeMembers, ih, List.map_cons]
    rfl

theorem writeAt_record (fields : List (String × Document)) :
    writeAt indent depth (.record fields) = bracket indent depth "\x7b" "\x7d"
      (fields.map fun f => writeWide (wide f.1) ++ ": " ++ writeAt indent (depth + 1) f.2) := by
  rw [← writeMembers_eq]
  show writeAt indent depth (.map (fields.map entry)) = _
  rw [writeAt]

theorem writeAt_ofWide (w : Wide) : writeAt indent depth (.ofWide w) = writeWide w := by
  rw [Document.ofWide]
  cases hs : string? w with
  | none => rfl
  | some s =>
    have hescapes : w.flatMap escapePoint = s.toList.flatMap escapeChar := by
      rw [string?_eq_some_iff.1 hs, wide, List.flatMap_map]
      rfl
    rw [writeWide, hescapes]
    rfl

end Writing

section Brackets

variable {n : Nat} {blanks text : List Char}

theorem readValue_list (hblanks : ∀ c ∈ blanks, isSpace c = true) (htext : StartsItem text)
    (more : List Char) : readValue (n + 1) ('[' :: (blanks ++ (text ++ more))) =
      readItems (readValue n) (text ++ more).length [] (text ++ more) := by
  rw [readValue, skipSpace_append hblanks, skipSpace_of_startsItem htext]
  obtain ⟨c, cs, rfl, -, hc, -⟩ := htext
  split
  · next heq => exact absurd (List.cons.inj heq).1 hc
  · rfl

theorem readValue_map (hblanks : ∀ c ∈ blanks, isSpace c = true) (htext : StartsItem text)
    (more : List Char) : readValue (n + 1) ('\x7b' :: (blanks ++ (text ++ more))) =
      readMembers (readValue n) (text ++ more).length [] (text ++ more) := by
  rw [readValue, skipSpace_append hblanks, skipSpace_of_startsItem htext]
  obtain ⟨c, cs, rfl, -, -, hc⟩ := htext
  split
  · next heq => exact absurd (List.cons.inj heq).1 hc
  · rfl

/-- A list of items that are taken is taken. -/
theorem takes_list {items : List Document} {indent : Option Nat} {depth : Nat}
    (h : ∀ d ∈ items, Takes (readValue n) (writeAt indent (depth + 1) d).toList d) :
    Takes (readValue (n + 1)) (writeAt indent depth (.list items)).toList (.list items) := by
  rw [writeAt]
  by_cases hne : items = []
  · subst hne
    have htext : (bracket indent depth "[" "]" []).toList = ['[', ']'] := by simp [bracket]
    rw [writeItems, htext]
    exact ⟨⟨'[', _, rfl, by decide⟩, fun rest _ => rfl⟩
  obtain ⟨blanks, blanks', blanks'', hblanks, hblanks', hblanks'', htext⟩ :=
    toList_bracket (writeItems_eq indent (depth + 1) items) hne indent depth "[" "]"
  rw [htext]
  refine ⟨⟨'[', _, rfl, by decide⟩, fun rest _ => ?_⟩
  have hstarts : ∀ d ∈ items, StartsItem (writeAt indent (depth + 1) d).toList :=
    fun d hd => (h d hd).starts
  have hlength := length_le_length_intercalate (',' :: blanks') hstarts
  show readValue (n + 1) ('[' :: ((blanks ++ (_ ++ (blanks'' ++ [']']))) ++ rest)) = _
  rw [List.append_assoc, List.append_assoc, List.append_assoc, List.singleton_append,
    readValue_list hblanks (startsItem_intercalate _ hne hstarts)]
  apply readItems_intercalate hblanks' hblanks'' hne h
  rw [List.length_append]
  omega

/-- A mapping of members that are taken is taken. -/
theorem takes_record {fields : List (String × Document)} {indent : Option Nat} {depth : Nat}
    (hnames : (fields.map Prod.fst).Nodup)
    (h : ∀ f ∈ fields, Takes (readValue n) (writeAt indent (depth + 1) f.2).toList f.2) :
    Takes (readValue (n + 1)) (writeAt indent depth (.record fields)).toList (.record fields) := by
  rw [writeAt_record]
  by_cases hne : fields = []
  · subst hne
    have htext : (bracket indent depth "\x7b" "\x7d" []).toList = ['\x7b', '\x7d'] := by
      simp [bracket]
    rw [List.map_nil, htext]
    exact ⟨⟨'\x7b', _, rfl, by decide⟩, fun rest _ => rfl⟩
  have htexts : (fields.map fun f =>
      writeWide (wide f.1) ++ ": " ++ writeAt indent (depth + 1) f.2).map String.toList =
        fields.map (member fun d => (writeAt indent (depth + 1) d).toList) := by
    simp [member, Function.comp_def]
  obtain ⟨blanks, blanks', blanks'', hblanks, hblanks', hblanks'', htext⟩ :=
    toList_bracket htexts hne indent depth "\x7b" "\x7d"
  rw [htext]
  refine ⟨⟨'\x7b', _, rfl, by decide⟩, fun rest _ => ?_⟩
  have hstarts : ∀ f ∈ fields,
      StartsItem (member (fun d => (writeAt indent (depth + 1) d).toList) f) :=
    fun f _ => startsItem_member f
  have hlength := length_le_length_intercalate (',' :: blanks') hstarts
  show readValue (n + 1) ('\x7b' :: ((blanks ++ (_ ++ (blanks'' ++ ['\x7d']))) ++ rest)) = _
  rw [List.append_assoc, List.append_assoc, List.append_assoc, List.singleton_append,
    readValue_map hblanks (startsItem_intercalate _ hne hstarts)]
  apply readMembers_intercalate hblanks' hblanks'' hne h _ [] hnames
  rw [List.length_append]
  omega

end Brackets

/-- **A portable document is taken from its JSON text**, at every depth within a document. -/
theorem Portable.takes {n : Nat} {d : Document} (h : Portable n d) (indent : Option Nat)
    (depth : Nat) : Takes (readValue n) (writeAt indent depth d).toList d := by
  induction h generalizing depth with
  | null => exact takes_null _
  | bool => exact takes_bool _ _
  | int h => exact takes_int h _
  | wide h =>
    rw [writeAt_ofWide]
    exact takes_wide h _
  | list _ ih => exact takes_list fun d hd => ih d hd (depth + 1)
  | record hnames _ ih => exact takes_record hnames fun f hf => ih f hf (depth + 1)

/-- **Portable documents are read from their JSON text**, also with blanks behind it. -/
theorem read_write {d : Document} (h : Portable (2 * deepestNesting) d) (indent : Option Nat)
    {blanks : String} (hblanks : ∀ c ∈ blanks.toList, isSpace c = true) :
    read (write indent d ++ blanks) = .ok d := by
  obtain ⟨hstart, hreads⟩ := h.takes indent 0
  have hstops : Stops blanks.toList := by
    simpa using Stops.blanks_append hblanks stops_nil
  have hend : skipSpace blanks.toList = [] := by
    rw [← List.append_nil blanks.toList, skipSpace_append hblanks]
    rfl
  rw [read, write, String.toList_append, skipSpace_of_startsItem hstart, hreads _ hstops]
  simp only [bind, Except.bind, hend, if_true]
  rfl

theorem read_write_line {d : Document} (h : Portable (2 * deepestNesting) d)
    (indent : Option Nat) : read (write indent d ++ "\n") = .ok d :=
  read_write h indent (by simp [isSpace])

end WeakestPre.Json
