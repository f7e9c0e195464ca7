import BooleanSearch.Proofs.Match.PlainTerms
import BooleanSearch.Proofs.Pattern.LiteralPatterns
import BooleanSearch.Proofs.Text.LoweredTexts

/-!
# Texts found without regard to case

Where case is ignored, the content and the text that is looked for are both put into lower case, unless
that changes their lengths.  An occurrence stays one except for sigmas that end a word in one of the two
but not in the other.
-/

namespace BooleanSearch

namespace Text

variable {content part : Text} {offset : Nat}

/-- An occurrence stays one in lower case exactly if its sigmas are as final as those of the part. -/
theorem occursAt_lowerArray_iff (shortContent : dottedI ∉ content.toList)
    (shortPart : dottedI ∉ part.toList) (here : occursAt content part offset = true) :
    occursAt (lowerArray content) (lowerArray part) offset = true ↔
      ∀ index, part.toList[index]? = some capitalSigma →
        finalAt content.toList (offset + index) = finalAt part.toList index := by
  obtain ⟨within, same⟩ := occursAt_iff_getElem?.mp here
  rw [occursAt_iff_getElem?, size_lowerArray_eq_iff.mpr shortContent,
    size_lowerArray_eq_iff.mpr shortPart, and_iff_right within]
  simp only [getElem?_lowerArray shortContent, getElem?_lowerArray shortPart]
  constructor
  · intro agree index sigma
    rw [Array.getElem?_toList] at sigma
    have inside : index < part.size := (Array.getElem?_eq_some_iff.mp sigma).1
    have lowered := agree index inside
    rw [same index inside, sigma] at lowered
    exact lowerChar_eq_iff.mp (Option.some.inj lowered) rfl
  · intro final index inside
    rw [same index inside, Array.getElem?_eq_getElem inside]
    refine congrArg some (lowerChar_eq_iff.mpr fun sigma => final index ?_)
    rw [Array.getElem?_toList, Array.getElem?_eq_getElem inside, sigma]

end Text

/-! ## Positions -/

section

variable {content : Text} {term : String} {offset : Nat} (some_ : term ≠ "")

include some_

theorem mem_substringPositions_exact_iff :
    offset ∈ substringPositions content term true ↔
      Text.occursAt content (Text.ofString term) offset = true := by
  rw [substringPositions_exact content some_, Text.mem_occurrences_iff]

theorem mem_substringPositions_lowered_iff (shortContent : Text.dottedI ∉ content.toList)
    (shortTerm : Text.dottedI ∉ (Text.ofString term).toList) :
    offset ∈ substringPositions content term false ↔
      Text.occursAt (Text.lowerArray content) (Text.lowerArray (Text.ofString term)) offset =
        true := by
  have sizes : ((Text.lowerArray content).size == content.size &&
      (Text.lowerArray (Text.ofString term)).size == (Text.ofString term).size) = true := by
    rw [Bool.and_eq_true, beq_iff_eq, beq_iff_eq]
    exact ⟨Text.size_lowerArray_eq_iff.mpr shortContent, Text.size_lowerArray_eq_iff.mpr shortTerm⟩
  unfold substringPositions
  dsimp only
  rw [if_neg (Text.not_isEmpty_ofString some_), if_neg Bool.false_ne_true, if_pos sizes,
    Text.mem_occurrences_iff]

/-- Where lower case would change a length, no occurrence is lost. -/
theorem mem_substringPositions_ahead
    (longer : Text.dottedI ∈ content.toList ∨ Text.dottedI ∈ (Text.ofString term).toList)
    (here : Text.occursAt content (Text.ofString term) offset = true) :
    offset ∈ substringPositions content term false := by
  have sizes : ¬ ((Text.lowerArray content).size == content.size &&
      (Text.lowerArray (Text.ofString term)).size == (Text.ofString term).size) = true := by
    rw [Bool.and_eq_true, beq_iff_eq, beq_iff_eq, Text.size_lowerArray_eq_iff,
      Text.size_lowerArray_eq_iff, not_and_or, not_not, not_not]
    exact longer
  have found := Text.occursAt_iff.mp here
  unfold substringPositions
  dsimp only
  rw [if_neg (Text.not_isEmpty_ofString some_), if_neg Bool.false_ne_true, if_neg sizes,
    Pattern.map_fst_spansOf_ahead rfl rfl, List.mem_filter, List.mem_range]
  exact ⟨by omega, Pattern.passesText_of_prefix found.2⟩

end

/-- Ignoring case loses an offset exactly if lower case keeps the lengths and a sigma of the term there
ends a word in the content but not in the term, or the other way around. -/
theorem ignoredCase_superset_iff (content : Text) (term : String) :
    (∀ offset ∈ substringPositions content term true,
        offset ∈ substringPositions content term false) ↔
      Text.dottedI ∈ content.toList ∨ Text.dottedI ∈ term.toList ∨
        ∀ offset ∈ substringPositions content term true, ∀ index,
          term.toList[index]? = some Text.capitalSigma →
            Text.finalAt content.toList (offset + index) = Text.finalAt term.toList index := by
  by_cases some_ : term = ""
  · rw [some_]
    exact iff_of_true nofun (Or.inr (Or.inr nofun))
  -- The two ways to ignore case are told apart by the lengths alone.
  by_cases longer : Text.dottedI ∈ content.toList ∨ Text.dottedI ∈ term.toList
  · refine iff_of_true (fun offset here => ?_) (or_assoc.mp (Or.inl longer))
    rw [mem_substringPositions_exact_iff some_] at here
    exact mem_substringPositions_ahead some_ longer here
  · have kept := not_or.mp longer
    rw [← or_assoc, or_iff_right longer]
    refine forall₂_congr fun offset here => ?_
    rw [mem_substringPositions_exact_iff some_] at here
    rw [mem_substringPositions_lowered_iff some_ kept.1 kept.2]
    exact Text.occursAt_lowerArray_iff kept.1 kept.2 here

/-- A sigma that is final in the content is not found as a sigma on its own. -/
theorem ignoredCase_not_superset_of_finalSigma :
    ¬ ∀ offset ∈ substringPositions (Text.ofString "ΑΣ") "Σ" true,
      offset ∈ substringPositions (Text.ofString "ΑΣ") "Σ" false := by
  intro superset
  have found : 1 ∈ substringPositions (Text.ofString "ΑΣ") "Σ" true := by decide +kernel
  have lost : 1 ∉ substringPositions (Text.ofString "ΑΣ") "Σ" false := by decide +kernel
  exact lost (superset 1 found)

end BooleanSearch
