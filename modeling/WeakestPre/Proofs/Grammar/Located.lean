import WeakestPre.Proofs.Grammar.Fault
import WeakestPre.Proofs.Token.Position

/-!
# Errors have their place in the text

An error is about one of the tokens of the text, or about the character behind the last token that
there is. Each of them stands at some offset of the text. So the location of an error, if it has
one, is a place in the text (`exists_inText_of_readText`), and its numbers are bounded by the length
of the text (`Location.inText_le`).
-/

namespace WeakestPre

variable {source text : String}

theorem Location.inText_le (source text : String) (offset : Nat) :
    (inText source text offset).line.natAbs ≤ text.length + 1 ∧
      (inText source text offset).column.natAbs ≤ text.length + 1 := by
  have htake : (text.toList.take offset).length ≤ text.length := by
    rw [List.length_take, String.length_toList]
    exact Nat.min_le_right _ _
  have hline : (text.toList.take offset).count '\n' ≤ (text.toList.take offset).length :=
    List.count_le_length
  have hcolumn : ((text.toList.take offset).reverse.takeWhile (· != '\n')).length ≤
      (text.toList.take offset).length :=
    Nat.le_trans (List.takeWhile_prefix _).length_le (Nat.le_of_eq List.length_reverse)
  simp only [inText, Position.behind]
  omega

theorem Row.exists_standsAt {o o' : Nat} {ts : List Token} (h : Row source text o ts o') :
    ∀ t ∈ ts, ∃ offset, t.StandsAt source text offset := by
  induction h with
  | blanks => simp
  | token _ _ _ ht _ ih => exact List.forall_mem_cons.2 ⟨⟨_, ht⟩, ih⟩

/-- Every token of a text stands in it. -/
theorem exists_standsAt_of_tokenize {tokens : List Token} (h : tokenize source text = .ok tokens) :
    ∀ t ∈ tokens, ∃ offset, t.StandsAt source text offset := by
  have hholds := (Cursor.standsIn_ofText source text).tokenize.holds
  rw [tokenize] at h
  rw [Cursor.Call.run, h] at hholds
  obtain ⟨lexemes, mark, rfl, hrow, -, hmark⟩ := hholds
  intro t ht
  rcases List.mem_append.1 ht with ht | ht
  · exact hrow.exists_standsAt t ht
  · obtain rfl := List.mem_singleton.1 ht
    exact ⟨_, hmark⟩

theorem exists_inText_of_unknown {u : UnknownCharacter} (h : tokenize source text = .error u) :
    ∃ offset, u.location = Location.inText source text offset := by
  have hholds := (Cursor.standsIn_ofText source text).tokenize.holds
  rw [tokenize] at h
  rw [Cursor.Call.run, h] at hholds
  exact ⟨_, hholds.2⟩

/-- **The location of an error is a place in the text.** -/
theorem exists_inText_of_readText {α : Type} {rule : Rule α}
    (hrule : ∀ s : TokenStream, EndsOnce s.toList → rule.LocalAt s) {e : SyntaxError}
    (he : (readText rule source text).result = .error e) :
    ∀ l ∈ e.location?, ∃ offset, l = Location.inText source text offset := by
  intro l hl
  cases hblank : Text.isBlankText text with
  | true =>
    obtain rfl : SyntaxError.blankInput = e := by simpa [readText, hblank] using he
    cases hl
  | false =>
    cases htokens : tokenize source text with
    | error u =>
      rw [readText, if_neg (by simp [hblank]), htokens] at he
      obtain rfl := Except.error.inj he
      obtain rfl : u.location = l := Option.some.inj hl
      exact exists_inText_of_unknown htokens
    | ok tokens =>
      have hstands := exists_standsAt_of_tokenize htokens
      obtain ⟨s, rfl, hresult⟩ := readText_result rule htokens hblank
      have hlocal := hrule s (endsOnce_of_tokenize htokens)
      rw [hresult] at he
      rw [Rule.LocalAt] at hlocal
      -- The token that the error is about is one of the text.
      obtain ⟨t, ht, htoken⟩ : ∃ t ∈ s.toList, e.location? = some t.location := by
        cases hs : rule s with
        | done a r =>
          simp only [hs] at he hlocal
          obtain ⟨w, hw, -⟩ := hlocal
          split at he
          · cases he
          · obtain rfl := Except.error.inj he
            refine ⟨r.current, ?_, rfl⟩
            rw [hw, TokenStream.toList]
            simp
        | failed e' r =>
          simp only [hs] at he hlocal
          obtain rfl := Except.error.inj he
          obtain ⟨w, t, u, hw, hrefuses, -⟩ := hlocal
          exact ⟨t, by simp [hw], hrefuses.isAbout.location⟩
      obtain ⟨offset, hoffset⟩ := hstands t ht
      obtain rfl : t.location = l := Option.some.inj (htoken.symm.trans hl)
      exact ⟨offset, hoffset.location_eq⟩

end WeakestPre
