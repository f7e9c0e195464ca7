import BooleanSearch.Match.Session
import BooleanSearch.Proofs.Query.Rendering

/-!
# Parts of keys

Digests and the texts of numbers hold no colon.  So the parts of a key can be told apart, if at most
one of its parts is an arbitrary text.
-/

namespace BooleanSearch

/-! ## Parts without colons -/

theorem colon_not_mem_toString (number : Int) : ':' ∉ (toString number).toList := by
  intro member
  exact absurd (Query.inNumber_of_mem_toString ':' member) (by decide)

theorem colon_not_mem_hexDigits (width value : Nat) : ':' ∉ Text.hexDigits width value := by
  have digit : ∀ value < 16, Text.hexDigit value ≠ ':' := by decide +kernel
  intro member
  obtain ⟨place, -, same⟩ := List.mem_map.mp member
  exact digit _ (Nat.mod_lt _ (by decide)) same

theorem colon_not_mem_contentKey (content : Text) : ':' ∉ (contentKey content).toList := by
  unfold contentKey contentDigest Sha256.hexDigest
  simp only [String.toList_ofList]
  intro member
  obtain ⟨word, -, digit⟩ := List.mem_flatMap.mp (List.mem_of_mem_take member)
  exact colon_not_mem_hexDigits _ _ digit

theorem colon_not_mem_boolText (value : Bool) : ':' ∉ (Value.boolText value).toList := by
  cases value <;> decide

namespace Decimal

theorem colon_not_mem_padDigits (width value : Nat) : ':' ∉ (padDigits width value).toList := by
  have digits : ':' ∉ (toString value).toList := colon_not_mem_toString value
  unfold padDigits
  simp only [String.toList_append, String.toList_ofList, List.mem_append, List.mem_replicate]
  rintro (⟨-, zero⟩ | digit)
  · exact absurd zero (by decide)
  · exact digits digit

theorem colon_not_mem_text (number : Digits) : ':' ∉ number.text.toList := by
  have digits := colon_not_mem_padDigits number.count number.digits
  have exponent := colon_not_mem_padDigits 2 (number.point - 1).natAbs
  have zeros : ∀ count, ':' ∉ List.replicate count '0' := by
    intro count member
    exact absurd (List.eq_of_mem_replicate member) (by decide)
  unfold Digits.text
  dsimp only
  generalize padDigits number.count number.digits = text at digits ⊢
  split
  · split
    · simp [digits, zeros]
    · split
      · simp [digits, zeros]
      · have before : ':' ∉ text.toList.take number.point.toNat :=
          fun member => digits (List.mem_of_mem_take member)
        have after : ':' ∉ text.toList.drop number.point.toNat :=
          fun member => digits (List.mem_of_mem_drop member)
        simp [before, after]
  · have sign : ':' ∉ (if number.point - 1 < 0 then "-" else "+").toList := by
      split <;> decide
    simp only [String.toList_append, List.mem_append, not_or]
    refine ⟨⟨⟨?_, by decide⟩, sign⟩, exponent⟩
    generalize text.toList = chars at digits ⊢
    match chars with
    | [] => decide
    | [first] => simpa using digits
    | first :: second :: rest => simpa using digits

theorem colon_not_mem_shortest (value : Float) : ':' ∉ (shortest value).toList := by
  unfold shortest
  split
  · decide
  · split <;> decide
  · next number _ =>
      have sign : ':' ∉ (if number.negative then "-" else "").toList := by
        split <;> decide
      dsimp only
      split
      · rw [String.toList_append, List.mem_append]
        exact not_or.mpr ⟨sign, by decide⟩
      · rw [String.toList_append, List.mem_append]
        exact not_or.mpr ⟨sign, colon_not_mem_text _⟩

end Decimal

theorem Number.colon_not_mem_text (number : Number) : ':' ∉ number.text.toList := by
  cases number with
  | whole value => exact colon_not_mem_toString value
  | real value => exact Decimal.colon_not_mem_shortest value

/-! ## Telling parts apart -/

/-- What stands before the first colon is known if it holds none itself. -/
theorem firstPart_inj {first other rest otherRest : List Char} (plain : ':' ∉ first)
    (otherPlain : ':' ∉ other) (same : first ++ ':' :: rest = other ++ ':' :: otherRest) :
    first = other ∧ rest = otherRest := by
  have inside : ∀ part : List Char, ':' ∉ part → ∀ char ∈ part, (char != ':') = true := by
    intro part noColon char member
    rw [bne_iff_ne]
    rintro rfl
    exact noColon member
  obtain ⟨parts, rests⟩ := Query.word_inj (inside first plain) (inside other otherPlain)
    ⟨':', rest, rfl, rfl⟩ ⟨':', otherRest, rfl, rfl⟩ same
  exact ⟨parts, List.tail_eq_of_cons_eq rests⟩

/-- What stands after the last colon is known if it holds none itself. -/
theorem lastPart_inj {front otherFront last other : List Char} (plain : ':' ∉ last)
    (otherPlain : ':' ∉ other) (same : front ++ ':' :: last = otherFront ++ ':' :: other) :
    front = otherFront ∧ last = other := by
  have reversed := congrArg List.reverse same
  simp only [List.reverse_append, List.reverse_cons, List.append_assoc, List.cons_append,
    List.nil_append] at reversed
  obtain ⟨lasts, fronts⟩ := firstPart_inj (fun member => plain (List.mem_reverse.mp member))
    (fun member => otherPlain (List.mem_reverse.mp member)) reversed
  exact ⟨List.reverse_injective fronts, List.reverse_injective lasts⟩

theorem boolText_inj {first second : Bool}
    (same : Value.boolText first = Value.boolText second) : first = second := by
  revert first second
  decide

theorem toList_fuzzyKey (term : String) (caseSensitive wholeWord : Bool) (cutoff : Number)
    (content : Text) :
    (Search.fuzzyKey term caseSensitive wholeWord cutoff content).toList =
      (contentKey content).toList ++ ':' :: (((term.toList ++ ':' ::
        (Value.boolText caseSensitive).toList) ++ ':' :: (Value.boolText wholeWord).toList) ++
          ':' :: cutoff.text.toList) := by
  have shown : keyPart cutoff.toValue = cutoff.text := by
    cases cutoff <;> rfl
  simp [Search.fuzzyKey, makeKey, keyPart, Value.display, Value.literal, joinWith, ← shown]

/-- The parts of the key of a fuzzy search can be read from it: only the term may hold colons. -/
theorem parts_of_fuzzyKey_eq {term otherTerm : String}
    {caseSensitive wholeWord otherCaseSensitive otherWholeWord : Bool}
    {cutoff otherCutoff : Number} {content otherContent : Text}
    (same : Search.fuzzyKey term caseSensitive wholeWord cutoff content =
      Search.fuzzyKey otherTerm otherCaseSensitive otherWholeWord otherCutoff otherContent) :
    contentKey content = contentKey otherContent ∧ term = otherTerm ∧
      caseSensitive = otherCaseSensitive ∧ wholeWord = otherWholeWord ∧
      cutoff.text = otherCutoff.text := by
  have texts := congrArg String.toList same
  rw [toList_fuzzyKey, toList_fuzzyKey] at texts
  obtain ⟨contents, rest⟩ :=
    firstPart_inj (colon_not_mem_contentKey _) (colon_not_mem_contentKey _) texts
  obtain ⟨rest, cutoffs⟩ :=
    lastPart_inj (Number.colon_not_mem_text _) (Number.colon_not_mem_text _) rest
  obtain ⟨rest, wholeWords⟩ :=
    lastPart_inj (colon_not_mem_boolText _) (colon_not_mem_boolText _) rest
  obtain ⟨terms, caseSensitives⟩ :=
    lastPart_inj (colon_not_mem_boolText _) (colon_not_mem_boolText _) rest
  exact ⟨String.toList_injective contents, String.toList_injective terms,
    boolText_inj (String.toList_injective caseSensitives),
    boolText_inj (String.toList_injective wholeWords), String.toList_injective cutoffs⟩

end BooleanSearch
