import BooleanSearch.Text.WholeNumber
import Mathlib.Data.Nat.Digits.Defs

/-!
# Written whole numbers

A number that is written with no more digits than are read at most is read back from what is
written for it, and a number that is read has no more digits than that.
-/

namespace BooleanSearch.Text

/-! ## Reading what is written -/

theorem decimalValue?_of_isDigit {char : Char} (digit : char.isDigit = true) :
    decimalValue? char = some (char.toNat - 48) := by
  have bounds : 48 ≤ char.toNat ∧ char.toNat ≤ 57 := by
    simp only [Char.isDigit, Bool.and_eq_true, decide_eq_true_eq] at digit
    exact ⟨digit.1, digit.2⟩
  unfold decimalValue?
  simp only [bounds, decide_true, Bool.and_self, if_true]
  rw [if_pos (by omega)]

theorem digitValues?_of_digits {chars : List Char} (some_ : chars ≠ [])
    (digits : ∀ char ∈ chars, char.isDigit = true) :
    digitValues? chars = some (chars.map fun char => char.toNat - 48) := by
  induction chars with
  | nil => exact absurd rfl some_
  | cons first rest inductionHypothesis =>
      rw [List.forall_mem_cons] at digits
      have value := decimalValue?_of_isDigit digits.1
      cases rest with
      | nil =>
          rw [digitValues?, value]
          rfl
      | cons second others =>
          have notUnderscore : second ≠ '_' := by
            rintro rfl
            exact absurd (digits.2 '_' List.mem_cons_self) (by decide)
          rw [digitValues?, value, inductionHypothesis (List.cons_ne_nil _ _) digits.2]
          · rfl
          · exact List.cons_ne_nil _ _
          · rintro _ same
            exact notUnderscore (List.cons.inj same).1

theorem numberOfDigits_eq_ofDigitChars (chars : List Char) :
    numberOfDigits (chars.map fun char => char.toNat - 48) = Nat.ofDigitChars 10 chars 0 := by
  rw [Nat.ofDigitChars_eq_foldl, numberOfDigits, List.foldl_map]
  rfl

theorem trimPadding_eq_self {chars : List Char} (tight : ∀ char ∈ chars, isPadding char = false) :
    trimPadding chars = chars := by
  have kept : ∀ {others : List Char}, (∀ char ∈ others, isPadding char = false) →
      others.dropWhile isPadding = others := by
    intro others all
    cases others with
    | nil => rfl
    | cons first rest =>
        have first_ := all first List.mem_cons_self
        exact List.dropWhile_cons_of_neg (by rw [first_]; exact Bool.false_ne_true)
  unfold trimPadding
  rw [kept tight, kept fun char member => tight char (List.mem_reverse.mp member),
    List.reverse_reverse]

theorem not_isPadding_of_isDigit {char : Char} (digit : char.isDigit = true) :
    isPadding char = false := by
  simp only [Char.isDigit, Bool.and_eq_true, decide_eq_true_eq] at digit
  have low : 48 ≤ char.toNat := digit.1
  have high : char.toNat ≤ 57 := digit.2
  have notBlank : isBlank char = false := by
    simp only [isBlank, isBlankCode, Bool.or_eq_false_iff, Bool.and_eq_false_iff,
      decide_eq_false_iff_not, beq_eq_false_iff_ne]
    omega
  unfold isPadding
  rw [notBlank, Bool.false_and]

section

variable {count : Nat}

theorem isDigit_of_mem_repr {char : Char} (member : char ∈ count.repr.toList) :
    char.isDigit = true := by
  rw [Nat.toList_repr] at member
  exact Nat.isDigit_of_mem_toDigits (by decide) (by decide) member

theorem readSigned_repr (negative : Bool) (short : count < 10 ^ digitLimit) :
    readSigned negative count.repr.toList =
      .ok (if negative then -(count : Int) else (count : Int)) := by
  have some_ : count.repr.toList ≠ [] := by
    rw [Nat.toList_repr]
    exact Nat.toDigits_ne_nil
  have length : ¬ digitLimit < (count.repr.toList.map fun char => char.toNat - 48).length := by
    rw [List.length_map, Nat.toList_repr, Nat.not_lt]
    exact (Nat.length_toDigits_le_iff (by decide) (by decide)).mpr short
  unfold readSigned
  rw [digitValues?_of_digits some_ fun char member => isDigit_of_mem_repr member]
  dsimp only
  rw [if_neg length, numberOfDigits_eq_ofDigitChars, Nat.toList_repr, Nat.ofDigitChars_ten_toDigits]

end

/-- A number with few enough digits is read back from what is written for it. -/
theorem readInt_repr {number : Int} (short : number.natAbs < 10 ^ digitLimit) :
    readInt number.repr = .ok number := by
  have tight : ∀ {count : Nat}, ∀ char ∈ count.repr.toList, isPadding char = false :=
    fun char member => not_isPadding_of_isDigit (isDigit_of_mem_repr member)
  unfold readInt
  rw [Int.repr_eq_if]
  by_cases sign : 0 ≤ number
  · obtain ⟨count, rfl⟩ := Int.eq_ofNat_of_zero_le sign
    rw [if_pos sign, trimPadding_eq_self tight]
    have read : readSigned false count.repr.toList = .ok (count : Int) := readSigned_repr false short
    have begins : ∀ first rest, (count : Int).toNat.repr.toList = first :: rest →
        first ≠ '-' ∧ first ≠ '+' := by
      intro first rest same
      have digit : first.isDigit = true := isDigit_of_mem_repr (same ▸ List.mem_cons_self)
      constructor
      · rintro rfl
        exact absurd digit (by decide)
      · rintro rfl
        exact absurd digit (by decide)
    split
    · next rest same => exact absurd rfl (begins _ _ same).1
    · next rest same => exact absurd rfl (begins _ _ same).2
    · exact read
  · have positive : ((-number).toNat : Int) = -number := Int.toNat_of_nonneg (by omega)
    have padded : ∀ char ∈ ("-" ++ (-number).toNat.repr).toList, isPadding char = false := by
      rw [String.toList_append, List.forall_mem_append]
      refine ⟨fun char member => ?_, tight⟩
      have minus : char = '-' := by simpa using member
      rw [minus]
      decide
    have read : readSigned true (-number).toNat.repr.toList = .ok number := by
      rw [readSigned_repr true (by omega), if_pos rfl, positive, Int.neg_neg]
    rw [if_neg sign, trimPadding_eq_self padded, String.toList_append]
    exact read

/-! ## What is read -/

theorem decimalValue?_lt {char : Char} {value : Nat} (given : decimalValue? char = some value) :
    value < 10 := by
  unfold decimalValue? at given
  dsimp only at given
  split_ifs at given with ascii digit
  · have bounds : 48 ≤ char.toNat ∧ char.toNat ≤ 57 := by simpa using digit
    cases given
    omega
  · obtain ⟨start, -, rfl⟩ := Option.map_eq_some_iff.mp given
    exact Nat.mod_lt _ (by decide)

theorem digitValues?_lt {chars : List Char} {values : List Nat}
    (given : digitValues? chars = some values) : ∀ value ∈ values, value < 10 := by
  fun_induction digitValues? chars generalizing values with
  | case1 => cases given
  | case2 last =>
      obtain ⟨value, read, rfl⟩ := Option.map_eq_some_iff.mp given
      rw [List.forall_mem_singleton]
      exact decimalValue?_lt read
  | case3 first rest value others readRest read inductionHypothesis =>
      cases given
      rw [List.forall_mem_cons]
      exact ⟨decimalValue?_lt read, inductionHypothesis readRest⟩
  | case4 => cases given
  | case5 first rest _ _ value others readRest read inductionHypothesis =>
      cases given
      rw [List.forall_mem_cons]
      exact ⟨decimalValue?_lt read, inductionHypothesis readRest⟩
  | case6 => cases given

theorem numberOfDigits_lt {digits : List Nat} (small : ∀ digit ∈ digits, digit < 10) :
    numberOfDigits digits < 10 ^ digits.length := by
  have general : ∀ start, digits.foldl (fun number digit => 10 * number + digit) start <
      (start + 1) * 10 ^ digits.length := by
    induction digits with
    | nil => intro start; simp
    | cons digit rest inductionHypothesis =>
        intro start
        rw [List.forall_mem_cons] at small
        have later := inductionHypothesis small.2 (10 * start + digit)
        have grown : (10 * start + digit + 1) * 10 ^ rest.length ≤
            (start + 1) * 10 * 10 ^ rest.length := Nat.mul_le_mul_right _ (by omega)
        rw [List.foldl_cons, List.length_cons, pow_succ', ← mul_assoc]
        omega
  simpa [numberOfDigits] using general 0

theorem natAbs_lt_of_readSigned {negative : Bool} {chars : List Char} {number : Int}
    (read : readSigned negative chars = .ok number) : number.natAbs < 10 ^ digitLimit := by
  unfold readSigned at read
  cases given : digitValues? chars with
  | none =>
      rw [given] at read
      cases read
  | some digits =>
      rw [given] at read
      dsimp only at read
      split at read
      · cases read
      · next short =>
          have below := numberOfDigits_lt (digitValues?_lt given)
          have fits : 10 ^ digits.length ≤ 10 ^ digitLimit :=
            Nat.pow_le_pow_right (by decide) (Nat.not_lt.mp short)
          have absolute : number.natAbs = numberOfDigits digits := by
            cases negative <;> cases read <;> simp
          rw [absolute]
          exact Nat.lt_of_lt_of_le below fits

/-- A number that is read has few enough digits. -/
theorem natAbs_lt_of_readInt {text : String} {number : Int} (read : readInt text = .ok number) :
    number.natAbs < 10 ^ digitLimit := by
  unfold readInt at read
  split at read
  · exact natAbs_lt_of_readSigned read
  · exact natAbs_lt_of_readSigned read
  · exact natAbs_lt_of_readSigned read

end BooleanSearch.Text
