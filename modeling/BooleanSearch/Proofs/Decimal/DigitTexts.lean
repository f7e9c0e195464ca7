import BooleanSearch.Proofs.Decimal.ReadBack
import BooleanSearch.Proofs.Text.WholeNumbers

/-!
# Texts of doubles tell doubles apart

The text of a double is read as a decimal number: what stands before an `e` are digits with a point among
them, and what follows it is an exponent.  Read this way, any text of digits gives the number that the
digits stand for.  That number reads back as the double, so no two doubles share a text.
-/

namespace BooleanSearch.Decimal

/-! ## Reading -/

/-- Digits with a point among them, as a number. -/
def readPlaces (chars : List Char) : ℚ :=
  Nat.ofDigitChars 10 (chars.filter (· != '.')) 0 / 10 ^ (chars.dropWhile (· != '.')).tail.length

/-- What follows the digits, as an exponent; there may be nothing. -/
def readExponent : List Char → Int
  | 'e' :: '-' :: digits => -(Nat.ofDigitChars 10 digits 0 : Int)
  | 'e' :: '+' :: digits => Nat.ofDigitChars 10 digits 0
  | _ => 0

/-- A decimal text without a sign, as a number. -/
def readDecimal (chars : List Char) : ℚ :=
  readPlaces (chars.takeWhile (· != 'e')) * 10 ^ readExponent (chars.dropWhile (· != 'e'))

theorem ne_of_isDigit {char other : Char} (digit : char.isDigit = true)
    (noDigit : other.isDigit = false) : char ≠ other := by
  rintro rfl
  rw [digit] at noDigit
  cases noDigit

/-- Digits without a point are a whole number. -/
theorem readPlaces_whole {digits : List Char} (all : ∀ char ∈ digits, char.isDigit = true) :
    readPlaces digits = Nat.ofDigitChars 10 digits 0 := by
  have plain : ∀ char ∈ digits, (char != '.') = true := fun char member =>
    bne_iff_ne.mpr (ne_of_isDigit (all char member) (by decide))
  have none : digits.dropWhile (· != '.') = [] := List.dropWhile_eq_nil_iff.mpr plain
  rw [readPlaces, List.filter_eq_self.mpr plain, none]
  simp

/-- A point divides by a power of ten for each digit behind it. -/
theorem readPlaces_point {whole places : List Char} (front : ∀ char ∈ whole, char.isDigit = true)
    (behind : ∀ char ∈ places, char.isDigit = true) :
    readPlaces (whole ++ '.' :: places) =
      Nat.ofDigitChars 10 (whole ++ places) 0 / 10 ^ places.length := by
  have plain : ∀ char : Char, char.isDigit = true → (char != '.') = true := fun char digit =>
    bne_iff_ne.mpr (ne_of_isDigit digit (by decide))
  have kept : (whole ++ '.' :: places).filter (· != '.') = whole ++ places := by
    rw [List.filter_append, List.filter_cons_of_neg (by decide),
      List.filter_eq_self.mpr fun char member => plain char (front char member),
      List.filter_eq_self.mpr fun char member => plain char (behind char member)]
  have rest : (whole ++ '.' :: places).dropWhile (· != '.') = '.' :: places := by
    rw [List.dropWhile_append_of_pos fun char member => plain char (front char member)]
    rfl
  rw [readPlaces, kept, rest, List.tail_cons]

/-- Without an exponent, digits with a point among them are all there is. -/
theorem readDecimal_of_no_exponent {chars : List Char} (none : 'e' ∉ chars) :
    readDecimal chars = readPlaces chars := by
  have plain : ∀ char ∈ chars, (char != 'e') = true := by
    intro char member
    rw [bne_iff_ne]
    rintro rfl
    exact none member
  rw [readDecimal, List.takeWhile_eq_self_iff.mpr plain, List.dropWhile_eq_nil_iff.mpr plain]
  simp [readExponent]

theorem readDecimal_of_exponent {chars : List Char} (none : 'e' ∉ chars) (rest : List Char) :
    readDecimal (chars ++ 'e' :: rest) = readPlaces chars * 10 ^ readExponent ('e' :: rest) := by
  have plain : ∀ char ∈ chars, (char != 'e') = true := by
    intro char member
    rw [bne_iff_ne]
    rintro rfl
    exact none member
  rw [readDecimal, List.takeWhile_append_of_pos plain, List.dropWhile_append_of_pos plain]
  simp

/-! ## Digits as text -/

/-- Padded digits are digits, as many as the width says if they fit, and stand for their number. -/
theorem padDigits_spec {width : Nat} (some : 1 ≤ width) (value : Nat) :
    (∀ char ∈ (padDigits width value).toList, char.isDigit = true) ∧
      Nat.ofDigitChars 10 (padDigits width value).toList 0 = value ∧
      (value < 10 ^ width → (padDigits width value).toList.length = width) := by
  have text : (padDigits width value).toList =
      List.replicate (width - (Nat.toDigits 10 value).length) '0' ++ Nat.toDigits 10 value := by
    have shown : (toString value).toList = Nat.toDigits 10 value := Nat.toList_repr
    unfold padDigits
    simp only [String.toList_append, String.toList_ofList, shown, ← String.length_toList]
  rw [text]
  refine ⟨?_, ?_, ?_⟩
  · intro char member
    rcases List.mem_append.mp member with zero | digit
    · rw [List.eq_of_mem_replicate zero]
      decide
    · exact Nat.isDigit_of_mem_toDigits (by decide) (by decide) digit
  · rw [Nat.ofDigitChars_append, Nat.ofDigitChars_replicate_zero, Nat.mul_zero,
      Nat.ofDigitChars_ten_toDigits]
  · intro fits
    have short := (Nat.length_toDigits_le_iff (b := 10) (by decide) some).mpr fits
    rw [List.length_append, List.length_replicate]
    omega

/-- The forms that digits are written in. -/
inductive Digits.Form (number : Digits) (digits : List Char) : List Char → Prop
  | small (low : number.point ≤ 0) :
      Form number digits ('0' :: '.' :: (List.replicate (-number.point).toNat '0' ++ digits))
  | whole (zeros : Nat) (wide : number.point = number.count + zeros) :
      Form number digits (digits ++ List.replicate zeros '0' ++ ['.', '0'])
  | places (front : Nat) (some : 1 ≤ front) (narrow : number.point = front)
      (more : front < number.count) :
      Form number digits (digits.take front ++ '.' :: digits.drop front)
  | single (first : Char) (only : digits = [first]) :
      Form number digits (first :: 'e' :: (if number.point - 1 < 0 then '-' else '+') ::
        (padDigits 2 (number.point - 1).natAbs).toList)
  | scientific (first : Char) (rest : List Char) (several : digits = first :: rest) :
      Form number digits (first :: '.' :: rest ++ 'e' ::
        (if number.point - 1 < 0 then '-' else '+') ::
          (padDigits 2 (number.point - 1).natAbs).toList)

theorem form_text {number : Digits} (one : 1 ≤ number.count)
    (few : number.digits < 10 ^ number.count) :
    number.Form (padDigits number.count number.digits).toList number.text.toList := by
  obtain ⟨-, -, length⟩ := padDigits_spec one number.digits
  have length := length few
  unfold Digits.text
  dsimp only
  generalize padDigits number.count number.digits = text at length ⊢
  split
  · split
    · next low =>
        have shape : number.Form text.toList _ := .small low
        simpa using shape
    · next high =>
        split
        · next wide =>
            have shape : number.Form text.toList _ := .whole
              (number.point.toNat - number.count) (by omega)
            simpa using shape
        · next narrow =>
            have shape : number.Form text.toList _ := .places number.point.toNat (by omega) (by omega) (by omega)
            simpa using shape
  · have sign : (if number.point - 1 < 0 then "-" else "+").toList =
        [if number.point - 1 < 0 then '-' else '+'] := by
      split <;> rfl
    simp only [String.toList_append, sign]
    generalize text.toList = digits at length ⊢
    match digits, length with
    | [], length => exact absurd length (by simp; omega)
    | [first], _ =>
        have shape : number.Form [first] _ := .single first rfl
        simpa using shape
    | first :: second :: rest, _ =>
        have shape : number.Form (first :: second :: rest) _ :=
          .scientific first (second :: rest) rfl
        simpa using shape

theorem e_not_mem_of_digits {chars : List Char} (all : ∀ char ∈ chars, char.isDigit = true) :
    'e' ∉ chars :=
  fun member => absurd (all 'e' member) (by decide)

theorem readExponent_padDigits (exponent : Int) :
    readExponent ('e' :: (if exponent < 0 then '-' else '+') ::
      (padDigits 2 exponent.natAbs).toList) = exponent := by
  obtain ⟨-, value, -⟩ := padDigits_spec (show 1 ≤ 2 by decide) exponent.natAbs
  split
  · rw [readExponent, value]
    omega
  · rw [readExponent, value]
    omega

theorem e_not_mem_of_point {whole places : List Char}
    (front : ∀ char ∈ whole, char.isDigit = true) (behind : ∀ char ∈ places, char.isDigit = true) :
    'e' ∉ whole ++ '.' :: places := by
  have left := e_not_mem_of_digits front
  have right := e_not_mem_of_digits behind
  simp [left, right]

theorem readDecimal_point {whole places : List Char}
    (front : ∀ char ∈ whole, char.isDigit = true) (behind : ∀ char ∈ places, char.isDigit = true) :
    readDecimal (whole ++ '.' :: places) =
      Nat.ofDigitChars 10 (whole ++ places) 0 * (10 : ℚ) ^ (-(places.length : Int)) := by
  rw [readDecimal_of_no_exponent (e_not_mem_of_point front behind), readPlaces_point front behind,
    zpow_neg, zpow_natCast, div_eq_mul_inv]

/-- In any form the text is read as the number that the digits stand for. -/
theorem readDecimal_of_form {number : Digits} {digits chars : List Char}
    (all : ∀ char ∈ digits, char.isDigit = true)
    (value : Nat.ofDigitChars 10 digits 0 = number.digits) (length : digits.length = number.count)
    (form : number.Form digits chars) :
    readDecimal chars = number.digits * (10 : ℚ) ^ (number.point - number.count) := by
  have zeros : ∀ count, ∀ char ∈ List.replicate count '0', char.isDigit = true := by
    intro count char member
    rw [List.eq_of_mem_replicate member]
    rfl
  have ten : (10 : ℚ) ≠ 0 := by norm_num
  cases form with
  | small low =>
      have behind : ∀ char ∈ List.replicate (-number.point).toNat '0' ++ digits,
          char.isDigit = true :=
        fun char member => (List.mem_append.mp member).elim (zeros _ char) (all char)
      have amount : Nat.ofDigitChars 10
          (['0'] ++ (List.replicate (-number.point).toNat '0' ++ digits)) 0 = number.digits := by
        have none : Nat.ofDigitChars 10 ['0'] 0 = 0 := rfl
        rw [Nat.ofDigitChars_append, Nat.ofDigitChars_append, none,
          Nat.ofDigitChars_replicate_zero, Nat.mul_zero, value]
      have places : -(((List.replicate (-number.point).toNat '0' ++ digits).length : Nat) : Int) =
          number.point - number.count := by
        rw [List.length_append, List.length_replicate, length]
        omega
      have read := readDecimal_point (zeros 1) behind
      rw [places] at read
      exact read.trans (congrArg (fun amount : Nat => (amount : ℚ) * _) amount)
  | whole count wide =>
      have front : ∀ char ∈ digits ++ List.replicate count '0', char.isDigit = true :=
        fun char member => (List.mem_append.mp member).elim (all char) (zeros _ char)
      have amount : Nat.ofDigitChars 10 (digits ++ List.replicate count '0' ++ ['0']) 0 =
          10 * (10 ^ count * number.digits) := by
        rw [Nat.ofDigitChars_append, Nat.ofDigitChars_append, value,
          Nat.ofDigitChars_replicate_zero]
        rfl
      have read := readDecimal_point front (zeros 1)
      have spread : number.point - number.count = count := by omega
      rw [spread, zpow_natCast]
      refine read.trans ?_
      have same : digits ++ List.replicate count '0' ++ List.replicate 1 '0' =
          digits ++ List.replicate count '0' ++ ['0'] := rfl
      rw [same, amount, List.length_replicate]
      push_cast
      rw [zpow_neg_one]
      field_simp
  | places front some narrow more =>
      have before : ∀ char ∈ digits.take front, char.isDigit = true :=
        fun char member => all char (List.mem_of_mem_take member)
      have behind : ∀ char ∈ digits.drop front, char.isDigit = true :=
        fun char member => all char (List.mem_of_mem_drop member)
      have count : -((digits.drop front).length : Int) = number.point - number.count := by
        rw [List.length_drop]
        omega
      rw [readDecimal_point before behind, List.take_append_drop, value, count]
  | single first only =>
      have alone : number.count = 1 := by rw [← length, only, List.length_singleton]
      have noExponent : 'e' ∉ digits := e_not_mem_of_digits all
      have read := readDecimal_of_exponent noExponent
        ((if number.point - 1 < 0 then '-' else '+') ::
          (padDigits 2 (number.point - 1).natAbs).toList)
      rw [readExponent_padDigits, readPlaces_whole all, value, only] at read
      rw [alone]
      exact read
  | scientific first rest several =>
      have head : ∀ char ∈ [first], char.isDigit = true := by
        intro char member
        exact all char (several ▸ List.mem_cons.mpr (Or.inl (List.mem_singleton.mp member)))
      have tail : ∀ char ∈ rest, char.isDigit = true :=
        fun char member => all char (several ▸ List.mem_cons_of_mem _ member)
      have read := readDecimal_of_exponent (e_not_mem_of_point head tail)
        ((if number.point - 1 < 0 then '-' else '+') ::
          (padDigits 2 (number.point - 1).natAbs).toList)
      have joined : [first] ++ rest = digits := several.symm
      have count : number.point - number.count = -(rest.length : Int) + (number.point - 1) := by
        rw [several, List.length_cons] at length
        omega
      rw [readExponent_padDigits, readPlaces_point head tail, joined, value] at read
      rw [count, zpow_add₀ ten, zpow_neg, zpow_natCast]
      refine read.trans ?_
      ring

/-- The text starts with a digit. -/
theorem exists_head_of_form {number : Digits} {digits chars : List Char}
    (all : ∀ char ∈ digits, char.isDigit = true) (length : digits.length = number.count)
    (one : 1 ≤ number.count) (form : number.Form digits chars) :
    ∃ first rest, chars = first :: rest ∧ first.isDigit = true := by
  have head : ∀ {first rest}, digits = first :: rest → first.isDigit = true :=
    fun {first rest} shape => all first (shape ▸ List.mem_cons_self)
  cases form with
  | small low => exact ⟨'0', _, rfl, rfl⟩
  | whole count wide =>
      cases shape : digits with
      | nil =>
          rw [shape, List.length_nil] at length
          omega
      | cons first rest => exact ⟨first, _, rfl, head shape⟩
  | places front some narrow more =>
      cases shape : digits with
      | nil =>
          rw [shape, List.length_nil] at length
          omega
      | cons first rest =>
          obtain ⟨less, rfl⟩ : ∃ less, front = less + 1 := ⟨front - 1, by omega⟩
          exact ⟨first, _, rfl, head shape⟩
  | single first only => exact ⟨first, _, rfl, head only⟩
  | scientific first rest several => exact ⟨first, _, rfl, head several⟩

/-- The characters of the text. -/
theorem mem_of_form {number : Digits} {digits chars : List Char}
    (all : ∀ char ∈ digits, char.isDigit = true) (form : number.Form digits chars) {char : Char}
    (member : char ∈ chars) : char.isDigit = true ∨ char ∈ ['.', 'e', '+', '-'] := by
  have exponent : ∀ {other}, other ∈ 'e' :: (if number.point - 1 < 0 then '-' else '+') ::
      (padDigits 2 (number.point - 1).natAbs).toList →
      other.isDigit = true ∨ other ∈ ['.', 'e', '+', '-'] := by
    intro other within
    rcases List.mem_cons.mp within with rfl | within
    · exact Or.inr (by decide)
    · rcases List.mem_cons.mp within with rfl | within
      · split <;> exact Or.inr (by decide)
      · exact Or.inl ((padDigits_spec (show 1 ≤ 2 by decide) _).1 other within)
  cases form with
  | small low =>
      simp only [List.mem_cons, List.mem_append, List.mem_replicate] at member
      rcases member with rfl | rfl | ⟨-, rfl⟩ | digit
      · exact Or.inl rfl
      · exact Or.inr (by decide)
      · exact Or.inl rfl
      · exact Or.inl (all char digit)
  | whole count wide =>
      simp only [List.mem_cons, List.mem_append, List.mem_replicate, List.not_mem_nil,
        or_false] at member
      rcases member with (digit | ⟨-, rfl⟩) | rfl | rfl
      · exact Or.inl (all char digit)
      · exact Or.inl rfl
      · exact Or.inr (by decide)
      · exact Or.inl rfl
  | places front some narrow more =>
      rcases List.mem_append.mp member with before | behind
      · exact Or.inl (all char (List.mem_of_mem_take before))
      · rcases List.mem_cons.mp behind with rfl | behind
        · exact Or.inr (by decide)
        · exact Or.inl (all char (List.mem_of_mem_drop behind))
  | single first only =>
      rcases List.mem_cons.mp member with rfl | rest
      · exact Or.inl (all char (only ▸ List.mem_singleton_self char))
      · exact exponent rest
  | scientific first rest several =>
      rcases List.mem_append.mp member with digits | power
      · rcases List.mem_cons.mp digits with rfl | behind
        · exact Or.inl (all char (several ▸ List.mem_cons_self))
        · rcases List.mem_cons.mp behind with rfl | behind
          · exact Or.inr (by decide)
          · exact Or.inl (all char (several ▸ List.mem_cons_of_mem _ behind))
      · exact exponent power

/-! ## Texts of doubles -/

/-- The text of a finite double without its sign. -/
def Dyadic.unsigned (value : Dyadic) : String :=
  if value.mantissa == 0 then "0.0" else (shortestDigits value).text

theorem shortest_of_finite {value : Float} {number : Dyadic}
    (kind : Kind.ofFloat value = .finite number) :
    shortest value = (if number.negative then "-" else "") ++ number.unsigned := by
  unfold shortest Dyadic.unsigned
  rw [kind]
  dsimp only
  split <;> rfl

/-- What is read from the text of a double reads back as the double. -/
theorem readDecimal_unsigned {value : Dyadic} (canonical : value.Canonical) :
    (value.mantissa = 0 → readDecimal value.unsigned.toList = 0) ∧
      (0 < value.mantissa → value.ReadsBack (readDecimal value.unsigned.toList)) := by
  constructor
  · intro zero
    rw [Dyadic.unsigned, if_pos (by simpa using zero)]
    have front : ∀ char ∈ List.replicate 1 '0', char.isDigit = true := by
      intro char member
      rw [List.eq_of_mem_replicate member]
      rfl
    refine (readDecimal_point front front).trans ?_
    have none : Nat.ofDigitChars 10 (List.replicate 1 '0' ++ List.replicate 1 '0') 0 = 0 := rfl
    rw [none, Nat.cast_zero, zero_mul]
  · intro positive
    rw [Dyadic.unsigned, if_neg (by simpa using positive.ne')]
    generalize shortest : shortestDigits value = number
    obtain ⟨one, few, reads⟩ := shortestDigits_spec canonical positive shortest
    obtain ⟨all, amount, length⟩ := padDigits_spec one number.digits
    rw [readDecimal_of_form all amount (length few) (form_text one few)]
    exact reads

/-- An unsigned text starts with a digit and holds none of the letters of `nan` and `inf`. -/
theorem unsigned_spec {value : Dyadic} (canonical : value.Canonical) :
    (∃ first rest, value.unsigned.toList = first :: rest ∧ first.isDigit = true) ∧
      'n' ∉ value.unsigned.toList := by
  unfold Dyadic.unsigned
  by_cases zero : value.mantissa = 0
  · rw [if_pos (by simpa using zero)]
    exact ⟨⟨'0', ['.', '0'], rfl, rfl⟩, by decide⟩
  · rw [if_neg (by simpa using zero)]
    generalize shortest : shortestDigits value = number
    obtain ⟨one, few, -⟩ := shortestDigits_spec canonical (Nat.pos_of_ne_zero zero) shortest
    obtain ⟨all, -, length⟩ := padDigits_spec one number.digits
    have form := form_text one few
    refine ⟨exists_head_of_form all (length few) one form, fun member => ?_⟩
    exact absurd (mem_of_form all form member) (by decide)

/-! ## Bits and kinds -/

theorem canonical_of_ofBits {bits : Nat} {number : Dyadic}
    (kind : Kind.ofBits bits = .finite number) : number.Canonical := by
  have fraction : bits % Nat.pow 2 52 < 2 ^ 52 := Nat.mod_lt _ (by decide)
  unfold Kind.ofBits at kind
  dsimp only at kind
  split at kind
  · split at kind <;> cases kind
  · next last =>
      have last : bits / Nat.pow 2 52 % 2048 ≠ 2047 := by simpa using last
      split at kind
      · cases kind
        exact ⟨Int.le_refl _, show (-1074 : Int) ≤ 971 by decide, fraction.trans (by decide),
          Or.inl rfl⟩
      · next first =>
          have first : bits / Nat.pow 2 52 % 2048 ≠ 0 := by simpa using first
          cases kind
          refine ⟨?_, ?_, ?_, Or.inr ?_⟩
          · dsimp only
            omega
          · dsimp only
            omega
          · simp only [Nat.pow_eq] at fraction ⊢
            omega
          · exact Nat.le_add_right _ _

/-- The bits of a double other than those that are no number. -/
def Kind.bits : Kind → Nat
  | .finite value =>
      (if value.negative then 2 ^ 63 else 0) +
        (if value.mantissa < 2 ^ 52 then value.mantissa
          else (value.exponent + 1075).toNat * 2 ^ 52 + (value.mantissa - 2 ^ 52))
  | .infinite negative => (if negative then 2 ^ 63 else 0) + 2047 * 2 ^ 52
  | .notANumber => 0

theorem bits_ofBits {bits : Nat} (bound : bits < 2 ^ 64) (known : Kind.ofBits bits ≠ .notANumber) :
    (Kind.ofBits bits).bits = bits := by
  have sign : (if (bits / 2 ^ 63 == 1) = true then 2 ^ 63 else 0) = bits / 2 ^ 63 * 2 ^ 63 := by
    by_cases negative : bits / 2 ^ 63 = 1
    · rw [if_pos (by simpa using negative), negative, Nat.one_mul]
    · rw [if_neg (by simpa using negative)]
      omega
  have fraction : bits % 2 ^ 52 < 2 ^ 52 := Nat.mod_lt _ (by decide)
  unfold Kind.ofBits at known ⊢
  simp only [Nat.pow_eq] at known ⊢
  by_cases last : bits / 2 ^ 52 % 2048 = 2047
  · rw [if_pos (by simpa using last)] at known ⊢
    by_cases none : bits % 2 ^ 52 = 0
    · rw [if_pos (by simpa using none), Kind.bits, sign]
      omega
    · rw [if_neg (by simpa using none)] at known
      exact absurd rfl known
  · rw [if_neg (by simpa using last)]
    by_cases first : bits / 2 ^ 52 % 2048 = 0
    · rw [if_pos (by simpa using first), Kind.bits, sign, if_pos fraction]
      dsimp only
      omega
    · have full : ¬2 ^ 52 + bits % 2 ^ 52 < 2 ^ 52 := by omega
      rw [if_neg (by simpa using first), Kind.bits, sign, if_neg full, Int.sub_add_cancel,
        Int.toNat_natCast, Nat.add_sub_cancel_left]
      omega

/-- The double that is no number is the only one of its kind. -/
theorem eq_packedNaN_of_kind {value : Float} (kind : Kind.ofFloat value = .notANumber) :
    value.toBits.toBitVec =
      Float.Model.UnpackedFloat.packedNaN Float.Model.Format.binary64 := by
  have valid := value.toModel.valid
  have parts : value.toBits.toBitVec.toNat / 2 ^ 52 % 2048 = 2047 ∧
      value.toBits.toBitVec.toNat % 2 ^ 52 ≠ 0 := by
    unfold Kind.ofFloat Kind.ofBits at kind
    simp only [Nat.pow_eq] at kind
    split at kind
    · next last =>
        split at kind
        · cases kind
        · next some => exact ⟨by simpa using last, by simpa using some⟩
    · split at kind <;> cases kind
  apply valid.eq_packedNaN
  · exact (unpackExponent_eq_iff _ (-1#11)).mpr parts.1
  · exact fun none => parts.2 ((unpackMantissa_eq_zero_iff _).mp none)

/-- A double is known from what it stands for. -/
theorem kind_injective : Function.Injective Kind.ofFloat := by
  intro first second same
  apply Float.toBits_inj.mp
  by_cases known : Kind.ofFloat first = .notANumber
  · have other : Kind.ofFloat second = .notANumber := same ▸ known
    apply UInt64.toBitVec_inj.mp
    rw [eq_packedNaN_of_kind known, eq_packedNaN_of_kind other]
  · have other : Kind.ofFloat second ≠ .notANumber := same ▸ known
    apply UInt64.toNat_inj.mp
    rw [← bits_ofBits first.toBits.toNat_lt known, ← bits_ofBits second.toBits.toNat_lt other]
    exact congrArg Kind.bits same

theorem n_mem_shortest_iff (value : Float) :
    'n' ∈ (shortest value).toList ↔ ∀ number, Kind.ofFloat value ≠ .finite number := by
  cases kind : Kind.ofFloat value with
  | finite number =>
      have free := (unsigned_spec (canonical_of_ofBits kind)).2
      refine iff_of_false ?_ fun none => none number rfl
      rw [shortest_of_finite kind, String.toList_append, List.mem_append]
      split
      · exact not_or.mpr ⟨by decide, free⟩
      · exact not_or.mpr ⟨by decide, free⟩
  | infinite negative =>
      refine iff_of_true ?_ fun _ => nofun
      unfold shortest
      rw [kind]
      cases negative <;> decide
  | notANumber =>
      refine iff_of_true ?_ fun _ => nofun
      unfold shortest
      rw [kind]
      decide

/-- A sign before a digit can be told. -/
theorem sign_inj {negative other : Bool} {first second : Char} {rest otherRest : List Char}
    (digit : first.isDigit = true) (otherDigit : second.isDigit = true)
    (same : (if negative then "-" else "").toList ++ first :: rest =
      (if other then "-" else "").toList ++ second :: otherRest) :
    negative = other ∧ first :: rest = second :: otherRest := by
  cases negative with
  | true =>
      cases other with
      | true => exact ⟨rfl, List.tail_eq_of_cons_eq same⟩
      | false =>
          rw [← List.head_eq_of_cons_eq same] at otherDigit
          exact absurd otherDigit (by decide)
  | false =>
      cases other with
      | true =>
          rw [List.head_eq_of_cons_eq same] at digit
          exact absurd digit (by decide)
      | false => exact ⟨rfl, same⟩

/-- Finite doubles with the same text are the same. -/
theorem eq_of_shortest_finite {first second : Float} {number other : Dyadic}
    (kind : Kind.ofFloat first = .finite number) (otherKind : Kind.ofFloat second = .finite other)
    (same : shortest first = shortest second) : number = other := by
  have canonical := canonical_of_ofBits kind
  have otherCanonical := canonical_of_ofBits otherKind
  obtain ⟨⟨head, rest, shape, digit⟩, -⟩ := unsigned_spec canonical
  obtain ⟨⟨otherHead, otherRest, otherShape, otherDigit⟩, -⟩ := unsigned_spec otherCanonical
  have texts := congrArg String.toList same
  rw [shortest_of_finite kind, shortest_of_finite otherKind, String.toList_append,
    String.toList_append, shape, otherShape] at texts
  obtain ⟨signs, bodies⟩ := sign_inj digit otherDigit texts
  rw [← shape, ← otherShape] at bodies
  obtain ⟨zero, positive⟩ := readDecimal_unsigned canonical
  obtain ⟨otherZero, otherPositive⟩ := readDecimal_unsigned otherCanonical
  rw [← bodies] at otherZero otherPositive
  have parts : number.mantissa = other.mantissa ∧ number.exponent = other.exponent := by
    rcases Nat.eq_zero_or_pos number.mantissa with none | some
    · rcases Nat.eq_zero_or_pos other.mantissa with otherNone | otherSome
      · have full := canonical.full
        have otherFull := otherCanonical.full
        omega
      · have least := Dyadic.pos_of_readsBack otherSome (otherPositive otherSome)
        exact absurd (zero none) least.ne'
    · rcases Nat.eq_zero_or_pos other.mantissa with otherNone | otherSome
      · have least := Dyadic.pos_of_readsBack some (positive some)
        exact absurd (otherZero otherNone) least.ne'
      · exact Dyadic.eq_of_readsBack canonical otherCanonical (positive some)
          (otherPositive otherSome)
  obtain ⟨mantissas, exponents⟩ := parts
  cases number
  cases other
  rw [Dyadic.mk.injEq]
  exact ⟨signs, mantissas, exponents⟩

/-- No two doubles have the same text. -/
theorem shortest_injective : Function.Injective shortest := by
  intro first second same
  apply kind_injective
  have alike := n_mem_shortest_iff first
  rw [same, n_mem_shortest_iff second] at alike
  by_cases finite : ∃ number, Kind.ofFloat first = .finite number
  · obtain ⟨number, kind⟩ := finite
    have finite : ∃ other, Kind.ofFloat second = .finite other := by
      by_contra none
      exact alike.mp (not_exists.mp none) number kind
    obtain ⟨other, otherKind⟩ := finite
    rw [kind, otherKind, eq_of_shortest_finite kind otherKind same]
  · have otherFinite := alike.mpr (not_exists.mp finite)
    have finite := not_exists.mp finite
    unfold shortest at same
    cases kind : Kind.ofFloat first with
    | finite number => exact absurd kind (finite number)
    | infinite negative =>
        cases otherKind : Kind.ofFloat second with
        | finite number => exact absurd otherKind (otherFinite number)
        | infinite other =>
            rw [kind, otherKind] at same
            cases negative <;> cases other <;> first | rfl | exact absurd same (by decide)
        | notANumber =>
            rw [kind, otherKind] at same
            cases negative <;> exact absurd same (by decide)
    | notANumber =>
        cases otherKind : Kind.ofFloat second with
        | finite number => exact absurd otherKind (otherFinite number)
        | infinite other =>
            rw [kind, otherKind] at same
            cases other <;> exact absurd same (by decide)
        | notANumber => rfl

end BooleanSearch.Decimal
