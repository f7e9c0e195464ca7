import BooleanSearch.Toml.Scalar
import Mathlib.Data.List.Infix

/-!
# Numbers with too many digits

A scalar is refused for its digits exactly where a whole decimal number with more digits than the
limit is written, which no fraction, exponent or further digit continues.
-/

namespace BooleanSearch.Toml

/-! ## Digits with separators -/

/-- Further digits of a number, each of them with or without an underscore before it, and how many
they are. -/
inductive MoreDigits : List Char → Nat → Prop
  | nil : MoreDigits [] 0
  | digit {char : Char} {rest : List Char} {count : Nat} : isDecimal char = true →
      MoreDigits rest count → MoreDigits (char :: rest) (count + 1)
  | parted {char : Char} {rest : List Char} {count : Nat} : isDecimal char = true →
      MoreDigits rest count → MoreDigits ('_' :: char :: rest) (count + 1)

/-- Characters that begin with a further digit. -/
inductive GoesOn : List Char → Prop
  | digit {char : Char} {rest : List Char} : isDecimal char = true → GoesOn (char :: rest)
  | parted {char : Char} {rest : List Char} : isDecimal char = true →
      GoesOn ('_' :: char :: rest)

/-- The signs that a number may have. -/
def signs : List (List Char) :=
  [[], ['+'], ['-']]

/-- Characters that go on with a whole number, or make it one with a fraction or an exponent. -/
inductive Continues : List Char → Prop
  | digits {chars : List Char} : GoesOn chars → Continues chars
  | fraction {char : Char} {rest : List Char} : isDecimal char = true →
      Continues ('.' :: char :: rest)
  | exponent {mark char : Char} {sign rest : List Char} : mark ∈ ['e', 'E'] → sign ∈ signs →
      isDecimal char = true → Continues (mark :: (sign ++ char :: rest))

/-- A whole decimal number that does not begin with zero, and how many digits it has, in front of
characters that do not continue it. -/
inductive WholeNumber : List Char → Nat → Prop
  | intro {sign digits after : List Char} {first : Char} {count : Nat} : sign ∈ signs →
      isDecimal first = true → first ≠ '0' → MoreDigits digits count → ¬ Continues after →
      WholeNumber (sign ++ first :: (digits ++ after)) (count + 1)

theorem isDecimal_underscore : isDecimal '_' = false := by decide

section

variable {isDigit : Char → Bool} {char : Char}

theorem more_cons_of_digit (digit : isDigit char = true) (taken rest : List Char) :
    digitRun?.more isDigit taken (char :: rest) =
      digitRun?.more isDigit (char :: taken) rest := by
  cases rest <;> simp [digitRun?.more, digit]

theorem more_cons_underscore (noDigit : isDigit '_' = false) (digit : isDigit char = true)
    (taken rest : List Char) :
    digitRun?.more isDigit taken ('_' :: char :: rest) =
      digitRun?.more isDigit (char :: '_' :: taken) rest := by
  simp [digitRun?.more, digit, noDigit]

/-- Digits end before a character that is none and parts none. -/
theorem more_cons_of_not (noDigit : isDigit char = false) {rest : List Char}
    (notParted : ∀ next others, rest = next :: others → char = '_' → isDigit next = false)
    (taken : List Char) :
    digitRun?.more isDigit taken (char :: rest) = (taken.reverse, char :: rest) := by
  cases rest with
  | nil => simp [digitRun?.more, noDigit]
  | cons next others =>
      have ends : (char == '_' && isDigit next) = false := by
        by_cases underscore : char = '_'
        · rw [notParted next others rfl underscore, Bool.and_false]
        · simp [underscore]
      rw [digitRun?.more, noDigit, ends]
      rfl

end

theorem more_of_not_goesOn {rest : List Char} (ends : ¬ GoesOn rest) (taken : List Char) :
    digitRun?.more isDecimal taken rest = (taken.reverse, rest) := by
  cases rest with
  | nil => rfl
  | cons char rest =>
      refine more_cons_of_not (Bool.eq_false_iff.mpr fun digit => ends (.digit digit)) ?_ taken
      rintro next others rfl rfl
      exact Bool.eq_false_iff.mpr fun digit => ends (.parted digit)

/-- All digits are taken. -/
theorem more_append {digits rest : List Char} {count : Nat} (written : MoreDigits digits count)
    (ends : ¬ GoesOn rest) (taken : List Char) :
    digitRun?.more isDecimal taken (digits ++ rest) = (taken.reverse ++ digits, rest) := by
  induction written generalizing taken with
  | nil => rw [List.nil_append, List.append_nil, more_of_not_goesOn ends]
  | digit isDigit written inductionHypothesis =>
      rw [List.cons_append, more_cons_of_digit isDigit, inductionHypothesis, List.reverse_cons,
        List.append_assoc, List.singleton_append]
  | parted isDigit written inductionHypothesis =>
      rw [List.cons_append, List.cons_append, more_cons_underscore isDecimal_underscore isDigit,
        inductionHypothesis]
      simp

theorem digitRun?_cons {first : Char} {digits rest : List Char} {count : Nat}
    (isDigit : isDecimal first = true) (written : MoreDigits digits count) (ends : ¬ GoesOn rest) :
    digitRun? isDecimal (first :: (digits ++ rest)) = some (first :: digits, rest) := by
  rw [digitRun?, if_pos isDigit, more_append written ends]
  rfl

theorem digitRun?_isSome_iff {chars : List Char} : (digitRun? isDecimal chars).isSome = true ↔
    ∃ first rest, chars = first :: rest ∧ isDecimal first = true := by
  cases chars with
  | nil => exact iff_of_false nofun nofun
  | cons first rest =>
      by_cases isDigit : isDecimal first = true
      · rw [digitRun?, if_pos isDigit]
        exact iff_of_true rfl ⟨first, rest, rfl, isDigit⟩
      · rw [digitRun?, if_neg isDigit]
        refine iff_of_false nofun ?_
        rintro ⟨_, _, ⟨⟩, digit⟩
        exact isDigit digit

/-- Characters begin with as many digits as there are. -/
theorem exists_digits (chars : List Char) :
    ∃ digits rest count, chars = digits ++ rest ∧ MoreDigits digits count ∧ ¬ GoesOn rest := by
  induction size : chars.length using Nat.strongRecOn generalizing chars with
  | ind size inductionHypothesis =>
      by_cases goesOn : GoesOn chars
      · cases goesOn with
        | @digit char rest isDigit =>
            obtain ⟨digits, others, count, rfl, written, ends⟩ :=
              inductionHypothesis rest.length (by simp at size; omega) rest rfl
            exact ⟨char :: digits, others, count + 1, rfl, .digit isDigit written, ends⟩
        | @parted char rest isDigit =>
            obtain ⟨digits, others, count, rfl, written, ends⟩ :=
              inductionHypothesis rest.length (by simp at size; omega) rest rfl
            exact ⟨'_' :: char :: digits, others, count + 1, rfl, .parted isDigit written, ends⟩
      · exact ⟨[], chars, 0, rfl, .nil, goesOn⟩

theorem MoreDigits.length_digitsOf {digits : List Char} {count : Nat}
    (written : MoreDigits digits count) : (digitsOf digits).length = count := by
  unfold digitsOf
  induction written with
  | nil => rfl
  | digit isDigit written inductionHypothesis =>
      rw [List.filter_cons_of_pos isDigit, List.length_cons, inductionHypothesis]
  | parted isDigit written inductionHypothesis =>
      rw [List.filter_cons_of_neg (by simp [isDecimal_underscore]),
        List.filter_cons_of_pos isDigit, List.length_cons, inductionHypothesis]

/-! ## Decimal numbers -/

theorem exists_signPart (chars : List Char) :
    ∃ sign unsigned, signPart chars = (sign, unsigned) ∧ chars = sign ++ unsigned ∧
      sign ∈ signs := by
  unfold signPart
  split
  · exact ⟨_, _, rfl, rfl, by decide⟩
  · exact ⟨_, _, rfl, rfl, by decide⟩
  · exact ⟨_, _, rfl, rfl, by decide⟩

theorem signPart_cons {char : Char} (notPlus : char ≠ '+') (notMinus : char ≠ '-')
    (rest : List Char) : signPart (char :: rest) = ([], char :: rest) := by
  simp [signPart, notPlus, notMinus]

theorem signPart_append {sign rest : List Char} {first : Char} (isSign : sign ∈ signs)
    (isDigit : isDecimal first = true) :
    signPart (sign ++ first :: rest) = (sign, first :: rest) := by
  have notPlus : first ≠ '+' := fun same => absurd isDigit (by rw [same]; decide)
  have notMinus : first ≠ '-' := fun same => absurd isDigit (by rw [same]; decide)
  simp only [signs, List.mem_cons, List.not_mem_nil, or_false] at isSign
  rcases isSign with rfl | rfl | rfl
  · exact signPart_cons notPlus notMinus rest
  · rfl
  · rfl

theorem exponentPart_isSome_iff {chars : List Char} : (exponentPart chars).isSome = true ↔
    ∃ (mark first : Char) (sign rest : List Char), chars = mark :: (sign ++ first :: rest) ∧
      mark ∈ ['e', 'E'] ∧ sign ∈ signs ∧ isDecimal first = true := by
  cases chars with
  | nil => exact iff_of_false nofun nofun
  | cons mark others =>
      unfold exponentPart
      obtain ⟨sign, digits, parts, rfl, isSign⟩ := exists_signPart others
      dsimp only
      rw [parts]
      by_cases isMark : mark ∈ ['e', 'E']
      · rw [if_pos (by simpa using isMark), Option.isSome_map, digitRun?_isSome_iff]
        constructor
        · rintro ⟨first, rest, rfl, isDigit⟩
          exact ⟨mark, first, sign, rest, rfl, isMark, isSign, isDigit⟩
        · rintro ⟨_, first, otherSign, rest, same, -, isOther, isDigit⟩
          have other : signPart (otherSign ++ first :: rest) = (otherSign, first :: rest) :=
            signPart_append isOther isDigit
          rw [← (List.cons.inj same).2, parts] at other
          exact ⟨first, rest, congrArg Prod.snd other, isDigit⟩
      · rw [if_neg (by simpa using isMark)]
        refine iff_of_false nofun ?_
        rintro ⟨_, _, _, _, same, isMark', -⟩
        exact isMark ((List.cons.inj same).1 ▸ isMark')

theorem fractionPart_cons {char : Char} (notPoint : char ≠ '.') (rest : List Char) :
    fractionPart (char :: rest) = ([], char :: rest) := by
  simp [fractionPart, notPoint]

theorem fractionPart_of_not_continues {after : List Char} (ends : ¬ Continues after) :
    fractionPart after = ([], after) := by
  unfold fractionPart
  split
  · next rest =>
      cases digits : digitRun? isDecimal rest with
      | none => rfl
      | some taken =>
          obtain ⟨first, others, rfl, isDigit⟩ :=
            digitRun?_isSome_iff.mp (Option.isSome_iff_exists.mpr ⟨taken, digits⟩)
          exact absurd (.fraction isDigit) ends
  · rfl

theorem exponentPart_of_not_continues {after : List Char} (ends : ¬ Continues after) :
    exponentPart after = none := by
  cases found : exponentPart after with
  | none => rfl
  | some taken =>
      obtain ⟨mark, first, sign, rest, rfl, isMark, isSign, isDigit⟩ :=
        exponentPart_isSome_iff.mp (Option.isSome_iff_exists.mpr ⟨taken, found⟩)
      exact absurd (.exponent isMark isSign isDigit) ends

theorem not_continues {after : List Char} (ends : ¬ GoesOn after)
    (noFraction : (fractionPart after).1.isEmpty = true)
    (noExponent : exponentPart (fractionPart after).2 = none) : ¬ Continues after := by
  intro continues
  cases continues with
  | digits goesOn => exact ends goesOn
  | @fraction char rest isDigit =>
      rw [fractionPart, digitRun?, if_pos isDigit] at noFraction
      obtain ⟨digits, others, count, rfl, written, stops⟩ := exists_digits rest
      rw [more_append written stops] at noFraction
      simp at noFraction
  | @exponent mark char sign rest isMark isSign isDigit =>
      have notPoint : mark ≠ '.' := fun same => absurd isMark (by rw [same]; decide)
      rw [fractionPart_cons notPoint] at noExponent
      have present :=
        exponentPart_isSome_iff.mpr ⟨mark, char, sign, rest, rfl, isMark, isSign, isDigit⟩
      rw [noExponent] at present
      cases present

theorem wholePart?_cons {first : Char} (notZero : first ≠ '0') (rest : List Char) :
    wholePart? (first :: rest) = digitRun? isDecimal (first :: rest) := by
  simp [wholePart?, notZero]

/-- A whole number is refused if it has too many digits. -/
theorem WholeNumber.decimalNumber?_eq {chars : List Char} {count : Nat}
    (number : WholeNumber chars count) (tooLong : Text.digitLimit < count) :
    decimalNumber? chars = some (.error (.tooManyDigits count)) := by
  obtain ⟨isSign, isDigit, notZero, written, ends⟩ := number
  have length := (MoreDigits.digit isDigit written).length_digitsOf
  unfold decimalNumber?
  rw [signPart_append isSign isDigit]
  dsimp only
  rw [wholePart?_cons notZero, digitRun?_cons isDigit written fun goesOn => ends (.digits goesOn)]
  dsimp only
  rw [fractionPart_of_not_continues ends]
  dsimp only
  rw [exponentPart_of_not_continues ends]
  dsimp only
  rw [if_pos List.isEmpty_nil, length, if_pos tooLong]

/-- Only a whole number with too many digits is refused. -/
theorem exists_of_decimalNumber? {chars : List Char} {error : ReadError}
    (refused : decimalNumber? chars = some (.error error)) :
    ∃ count, error = .tooManyDigits count ∧ WholeNumber chars count ∧ Text.digitLimit < count := by
  obtain ⟨sign, unsigned, parts, rfl, isSign⟩ := exists_signPart chars
  unfold decimalNumber? at refused
  rw [parts] at refused
  dsimp only at refused
  cases unsigned with
  | nil => cases refused
  | cons first others =>
      by_cases zero : first = '0'
      · -- Zero is a number of its own, with one digit.
        subst zero
        have single : ¬ Text.digitLimit < (digitsOf ['0']).length := by decide
        rw [wholePart?] at refused
        dsimp only at refused
        rw [if_neg single] at refused
        split at refused
        · cases refused
        · split_ifs at refused <;> cases refused
      · obtain ⟨digits, after, more, rfl, written, stops⟩ := exists_digits others
        rw [wholePart?_cons zero] at refused
        by_cases isDigit : isDecimal first = true
        · rw [digitRun?_cons isDigit written stops] at refused
          dsimp only at refused
          rw [(MoreDigits.digit isDigit written).length_digitsOf] at refused
          split at refused
          · cases refused
          · next noExponent =>
              by_cases noFraction : (fractionPart after).1.isEmpty = true
              · rw [if_pos noFraction] at refused
                by_cases tooLong : Text.digitLimit < more + 1
                · rw [if_pos tooLong] at refused
                  cases refused
                  exact ⟨more + 1, rfl, .intro isSign isDigit zero written
                    (not_continues stops noFraction noExponent), tooLong⟩
                · rw [if_neg tooLong] at refused
                  cases refused
              · rw [if_neg noFraction] at refused
                cases refused
        · rw [digitRun?, if_neg isDigit] at refused
          cases refused

/-! ## Scalars -/

/-- What reading a scalar gives at an offset, from the characters there. -/
def scalarAt (chars : List Char) (offset : Nat) : Except ReadError (Value × Nat) :=
  let take (taken : Taken) : Except ReadError (Value × Nat) := .ok (taken.1, offset + taken.2)
  match moment? chars with
  | some (valid, rest) =>
    if valid then take (spelled "date" chars rest) else .error (.fault .invalidMoment offset)
  | none =>
    match time? chars with
    | some rest => take (spelled "time" chars rest)
    | none =>
      match basedNumber? chars with
      | some taken => take taken
      | none =>
        match decimalNumber? chars with
        | some (.ok taken) => take taken
        | some (.error error) => .error error
        | none =>
          match specialNumber? chars with
          | some taken => take taken
          | none => .error (.fault .invalidValue offset)

theorem run_readScalar (source : Text) (offset : Nat) :
    (readScalar source).run offset = scalarAt (source.toList.drop offset) offset := by
  have chars : (source.slice offset source.size).toList = source.toList.drop offset := by
    unfold Text.slice
    rw [Array.toList_extract, List.extract_eq_take_drop, List.take_of_length_le]
    simp
  change StateT.run (match moment? (source.slice offset source.size).toList with
    | some (valid, rest) => _ | none => _) offset = _
  rw [chars]
  unfold scalarAt
  dsimp only
  cases moment? (source.toList.drop offset) with
  | some moment =>
      obtain ⟨valid, rest⟩ := moment
      cases valid <;> rfl
  | none =>
      cases time? (source.toList.drop offset) with
      | some rest => rfl
      | none =>
          cases basedNumber? (source.toList.drop offset) with
          | some taken => rfl
          | none =>
              rcases decimalNumber? (source.toList.drop offset) with _ | _ | _
              · cases specialNumber? (source.toList.drop offset) <;> rfl
              · rfl
              · rfl

theorem MoreDigits.le_length {digits : List Char} {count : Nat}
    (written : MoreDigits digits count) :
    count ≤ digits.length :=
  written.length_digitsOf ▸ List.length_filter_le _ _

theorem MoreDigits.of_mem {digits : List Char} {count : Nat} (written : MoreDigits digits count)
    {char : Char} (member : char ∈ digits) : isDecimal char = true ∨ char = '_' := by
  induction written with
  | nil => cases member
  | digit isDigit written inductionHypothesis =>
      rcases List.mem_cons.mp member with rfl | inside
      · exact Or.inl isDigit
      · exact inductionHypothesis inside
  | parted isDigit written inductionHypothesis =>
      rcases List.mem_cons.mp member with rfl | inside
      · exact Or.inr rfl
      · rcases List.mem_cons.mp inside with rfl | further
        · exact Or.inl isDigit
        · exact inductionHypothesis further

theorem numberOf?_cons_of_not {char : Char} (noDigit : ¬ isDecimal char = true) {count : Nat}
    (some_ : count ≠ 0) (low high : Nat) (rest : List Char) :
    numberOf? count low high (char :: rest) = none := by
  obtain ⟨count, rfl⟩ := Nat.exists_eq_succ_of_ne_zero some_
  simp [numberOf?, noDigit]

theorem rest_of_numberOf? {count low high number : Nat} {chars rest : List Char}
    (taken : numberOf? count low high chars = some (number, rest)) : rest = chars.drop count := by
  unfold numberOf? at taken
  dsimp only at taken
  split_ifs at taken
  cases taken
  rfl

/-- No text that is not a digit or an underscore stands among digits. -/
theorem MoreDigits.after?_eq_none {digits : List Char} {count : Nat}
    (written : MoreDigits digits count) {mark : Char} (noDigit : ¬ isDecimal mark = true)
    (noUnderscore : mark ≠ '_') {index : Nat} (inside : index < count) (after : List Char) :
    after? mark ((digits ++ after).drop index) = none := by
  have within := inside.trans_le written.le_length
  rw [List.drop_append_of_le_length within.le, List.drop_eq_getElem_cons within, List.cons_append,
    after?, if_neg]
  rw [beq_iff_eq]
  intro same
  rcases written.of_mem (List.getElem_mem within) with digit | underscore
  · exact noDigit (same ▸ digit)
  · exact noUnderscore (same ▸ underscore)

/-- No date and no time begins with more digits than a year has. -/
theorem WholeNumber.not_moment {chars : List Char} {count : Nat} (number : WholeNumber chars count)
    (tooLong : 4 < count) : moment? chars = none ∧ time? chars = none := by
  obtain ⟨isSign, isDigit, notZero, written, ends⟩ := number
  next sign digits after first more =>
  cases sign with
  | cons mark others =>
      have noDigit : ¬ isDecimal mark = true := by
        simp only [signs, List.mem_cons, List.cons.injEq, List.not_mem_nil, or_false] at isSign
        rcases isSign with ⟨⟨⟩⟩ | ⟨rfl, -⟩ | ⟨rfl, -⟩ <;> decide
      unfold moment? time?
      rw [List.cons_append, numberOf?_cons_of_not noDigit (by decide),
        numberOf?_cons_of_not noDigit (by decide)]
      exact ⟨rfl, rfl⟩
  | nil =>
      constructor
      · have noMark : after? '-' ((digits ++ after).drop 3) = none :=
          written.after?_eq_none (by decide) (by decide) (by omega) after
        unfold moment?
        cases taken : numberOf? 4 0 9999 ([] ++ first :: (digits ++ after)) with
        | none => rfl
        | some found =>
            obtain ⟨year, rest⟩ := found
            obtain rfl := rest_of_numberOf? taken
            change (after? '-' ((digits ++ after).drop 3)).bind _ = none
            rw [noMark]
            rfl
      · have noMark : after? ':' ((digits ++ after).drop 1) = none :=
          written.after?_eq_none (by decide) (by decide) (by omega) after
        unfold time?
        cases taken : numberOf? 2 0 23 ([] ++ first :: (digits ++ after)) with
        | none => rfl
        | some found =>
            obtain ⟨hours, rest⟩ := found
            obtain rfl := rest_of_numberOf? taken
            change (after? ':' ((digits ++ after).drop 1)).bind _ = none
            rw [noMark]
            rfl

theorem WholeNumber.scalarAt_eq {chars : List Char} {count : Nat} (number : WholeNumber chars count)
    (tooLong : Text.digitLimit < count) (offset : Nat) :
    scalarAt chars offset = .error (.tooManyDigits count) := by
  have long : 4 < count := lt_trans (by decide) tooLong
  have notBased : basedNumber? chars = none := by
    obtain ⟨isSign, isDigit, notZero, written, ends⟩ := number
    simp only [signs, List.mem_cons, List.not_mem_nil, or_false] at isSign
    rcases isSign with rfl | rfl | rfl
    · simp [basedNumber?, notZero]
    · rfl
    · rfl
  unfold scalarAt
  rw [(number.not_moment long).1, (number.not_moment long).2, notBased,
    number.decimalNumber?_eq tooLong]

theorem scalarAt_exclamation (rest : List Char) (offset : Nat) :
    scalarAt ('!' :: rest) offset = .error (.fault .invalidValue offset) := by
  have noDigit : ¬ isDecimal '!' = true := by decide
  have noMoment : moment? ('!' :: rest) = none := by
    unfold moment?
    rw [numberOf?_cons_of_not noDigit (by decide)]
    rfl
  have noTime : time? ('!' :: rest) = none := by
    unfold time?
    rw [numberOf?_cons_of_not noDigit (by decide)]
    rfl
  have noDecimal : decimalNumber? ('!' :: rest) = none := rfl
  unfold scalarAt
  rw [noMoment, noTime, noDecimal]
  rfl

/-- How reading a scalar can fail. -/
theorem exists_of_scalarAt {chars : List Char} {offset : Nat} {error : ReadError}
    (refused : scalarAt chars offset = .error error) :
    error = .fault .invalidMoment offset ∨ error = .fault .invalidValue offset ∨
      ∃ count, error = .tooManyDigits count ∧ WholeNumber chars count ∧
        Text.digitLimit < count := by
  unfold scalarAt at refused
  dsimp only at refused
  split at refused
  · split_ifs at refused
    cases refused
    exact Or.inl rfl
  · split at refused
    · cases refused
    · split at refused
      · cases refused
      · split at refused
        · cases refused
        · next given =>
            cases refused
            exact Or.inr (Or.inr (exists_of_decimalNumber? given))
        · split at refused
          · cases refused
          · cases refused
            exact Or.inr (Or.inl rfl)

end BooleanSearch.Toml
