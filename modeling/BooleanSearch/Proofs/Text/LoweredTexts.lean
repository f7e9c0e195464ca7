import BooleanSearch.Text.Lettercase
import Mathlib.Data.List.Basic

/-!
# Texts in lower case

In lower case a text keeps its length unless it has a capital I with a dot.  Otherwise each character
becomes one, which depends on the characters around it only for the capital sigma.
-/

namespace BooleanSearch.Text

/-- The capital I with a dot, whose lower case takes two characters. -/
def dottedI : Char := Char.ofNat 0x130

/-- The capital sigma, whose lower case depends on the characters around it. -/
def capitalSigma : Char := Char.ofNat 0x3A3

/-- Whether a sigma at an index of a text would be at the end of a word. -/
def finalAt (text : List Char) (index : Nat) : Bool :=
  nextIsCased (text.take index).reverse && !nextIsCased (text.drop (index + 1))

/-- The lower case of a character that keeps its length. -/
def lowerChar (final : Bool) (char : Char) : Char :=
  if char = capitalSigma then Char.ofNat (if final then 0x3C2 else 0x3C3)
  else Char.ofNat (lowerCode char.toNat)

/-- Only the form of a sigma depends on where it stands. -/
theorem lowerChar_eq_iff {final other : Bool} {char : Char} :
    lowerChar final char = lowerChar other char ↔ (char = capitalSigma → final = other) := by
  unfold lowerChar
  by_cases sigma : char = capitalSigma
  · rw [if_pos sigma, if_pos sigma, forall_prop_of_true sigma]
    cases final <;> cases other <;> decide
  · rw [if_neg sigma, if_neg sigma]
    exact iff_of_true rfl fun same => absurd same sigma

/-! ## Lower case, character by character -/

theorem lowerAt_eq {char : Char} (before after : List Char) :
    lowerAt before char after =
      if char = dottedI then ['i', Char.ofNat 0x307]
      else [lowerChar (nextIsCased before && !nextIsCased after) char] := by
  have sigma : (char.toNat == 0x3A3) = decide (char = capitalSigma) := by
    rw [Bool.eq_iff_iff, beq_iff_eq, decide_eq_true_iff, ← Char.toNat_inj]
    rfl
  have dotted : (char.toNat == 0x130) = decide (char = dottedI) := by
    rw [Bool.eq_iff_iff, beq_iff_eq, decide_eq_true_iff, ← Char.toNat_inj]
    rfl
  unfold lowerAt lowerChar
  rw [sigma, dotted]
  by_cases isSigma : char = capitalSigma
  · have noDot : char ≠ dottedI := by
      rw [isSigma]
      decide
    rw [decide_eq_true isSigma, if_pos rfl, if_neg noDot, if_pos isSigma]
    split <;> rfl
  · rw [decide_eq_false isSigma, if_neg Bool.false_ne_true, if_neg isSigma]
    by_cases isDotted : char = dottedI
    · rw [decide_eq_true isDotted, if_pos rfl, if_pos isDotted]
    · rw [decide_eq_false isDotted, if_neg Bool.false_ne_true, if_neg isDotted]

/-- The lower case of the characters after those given in reverse. -/
def lowerRest (before : List Char) : List Char → List Char
  | [] => []
  | char :: after => lowerAt before char after ++ lowerRest (char :: before) after

theorem toList_lowerFrom (before : List Char) (done : Array Char) (chars : List Char) :
    (lowerFrom before done chars).toList = done.toList ++ lowerRest before chars := by
  induction chars generalizing before done with
  | nil => exact (List.append_nil _).symm
  | cons char after inductionHypothesis =>
      unfold lowerFrom lowerRest
      rw [inductionHypothesis, Array.toList_append, List.append_assoc]

/-- The lower case of ASCII letters is their lower case. -/
theorem lowerRest_of_ascii {before chars : List Char}
    (ascii : ∀ char ∈ chars, char.toNat < 128) :
    lowerRest before chars = chars.map fun char => Char.ofNat (asciiLowerCode char.toNat) := by
  induction chars generalizing before with
  | nil => rfl
  | cons char after inductionHypothesis =>
      rw [List.forall_mem_cons] at ascii
      have here : lowerAt before char after = [Char.ofNat (asciiLowerCode char.toNat)] := by
        have noSigma : (char.toNat == 0x3A3) = false := by
          rw [beq_eq_false_iff_ne]
          have := ascii.1
          omega
        have noDot : (char.toNat == 0x130) = false := by
          rw [beq_eq_false_iff_ne]
          have := ascii.1
          omega
        unfold lowerAt lowerCode
        rw [noSigma, noDot, if_neg Bool.false_ne_true, if_neg Bool.false_ne_true, if_pos ascii.1]
        rfl
      unfold lowerRest
      rw [here, inductionHypothesis ascii.2]
      rfl

theorem toList_lowerArray (text : Array Char) : (lowerArray text).toList = lowerRest [] text.toList := by
  unfold lowerArray
  split
  · next ascii =>
      rw [Array.toList_map, lowerRest_of_ascii]
      intro char member
      exact of_decide_eq_true (Array.all_eq_true_iff_forall_mem.mp ascii char
        (Array.mem_toList_iff.mp member))
  · exact toList_lowerFrom [] #[] text.toList

theorem length_lowerRest (before chars : List Char) :
    (lowerRest before chars).length = chars.length + chars.count dottedI := by
  induction chars generalizing before with
  | nil => rfl
  | cons char after inductionHypothesis =>
      unfold lowerRest
      rw [List.length_append, inductionHypothesis, lowerAt_eq, List.length_cons, List.count_cons]
      by_cases dotted : char = dottedI
      · rw [if_pos dotted, if_pos (beq_iff_eq.mpr dotted), List.length_cons, List.length_singleton]
        omega
      · rw [if_neg dotted, if_neg (by rwa [beq_iff_eq]), List.length_singleton]
        omega

/-- A text keeps its length in lower case exactly if it has no capital I with a dot. -/
theorem size_lowerArray_eq_iff {text : Array Char} :
    (lowerArray text).size = text.size ↔ dottedI ∉ text.toList := by
  rw [← Array.length_toList, toList_lowerArray, length_lowerRest, Array.length_toList,
    ← List.count_eq_zero]
  omega

theorem finalAt_append (before after : List Char) (char : Char) :
    finalAt (before.reverse ++ char :: after) before.length =
      (nextIsCased before && !nextIsCased after) := by
  have ahead : (before.reverse ++ char :: after).take before.length = before.reverse :=
    List.take_left' List.length_reverse
  have behind : (before.reverse ++ char :: after).drop (before.length + 1) = after := by
    rw [← List.drop_drop, List.drop_left' List.length_reverse]
    rfl
  unfold finalAt
  rw [ahead, behind, List.reverse_reverse]

theorem getElem?_lowerRest {before chars : List Char} (short : dottedI ∉ chars) (index : Nat) :
    (lowerRest before chars)[index]? =
      chars[index]?.map (lowerChar (finalAt (before.reverse ++ chars) (before.length + index))) := by
  induction chars generalizing before index with
  | nil => rfl
  | cons char after inductionHypothesis =>
      rw [List.mem_cons, not_or] at short
      unfold lowerRest
      rw [lowerAt_eq, if_neg (Ne.symm short.1), List.singleton_append]
      cases index with
      | zero =>
          rw [Nat.add_zero, finalAt_append]
          rfl
      | succ index =>
          rw [List.getElem?_cons_succ, List.getElem?_cons_succ, inductionHypothesis short.2]
          rw [List.reverse_cons, List.append_assoc, List.length_cons, Nat.add_right_comm]
          rfl

/-- Each character of a text in lower case is that of the character there. -/
theorem getElem?_lowerArray {text : Array Char} (short : dottedI ∉ text.toList) (index : Nat) :
    (lowerArray text)[index]? = text[index]?.map (lowerChar (finalAt text.toList index)) := by
  rw [← Array.getElem?_toList, toList_lowerArray, getElem?_lowerRest short, Array.getElem?_toList,
    List.length_nil, Nat.zero_add]
  rfl

end BooleanSearch.Text
