import BooleanSearch.Proofs.Match.Evaluation
import BooleanSearch.Proofs.Match.Nearness

/-!
# The order of the operands

A proximity scans the offsets of its second operand from each offset of its first one.  Exchanging
the operands exchanges what is passed over, so the verdict stays the same exactly if both scans
reach a pair or neither does.  A content beyond the size limit is refused as soon as an operand that
is not a term is looked at, which the other order may not come to.
-/

namespace BooleanSearch

open Query Proximity

variable {fuzzily : Bool} {content : Text} {options : MatchOptions}

/-- A content beyond the size limit is refused if `second` is looked at first, but `first` is a term
that is not there, so nothing is looked at after it. -/
def RefusedInOneOrder (fuzzily : Bool) (content : Text) (options : MatchOptions)
    (first second : Expr) : Prop :=
  ¬ Fits content options ∧
    (∃ term, first = .literal term ∧ termSpots fuzzily content term options .near = []) ∧
    ∀ term, second ≠ .literal term

/-- The scans in both orders reach a pair, or neither does, unless characters decide. -/
def ScansAgree (content : Text) (distance : Nat) (left right : List Nat) : Prop :=
  FarApart distance left right ∨
    (Reaches (WordIndex.build content) distance left right ↔
      Reaches (WordIndex.build content) distance right left)

theorem spotsNear_comm_iff {distance : Nat} {left right : List Nat} :
    spotsNear content distance left right = spotsNear content distance right left ↔
      ScansAgree content distance left right := by
  unfold ScansAgree
  rw [Bool.eq_iff_iff, spotsNear_iff, spotsNear_iff, farApart_comm distance right left]
  by_cases far : FarApart distance left right
  · simp [far]
  · simp [far]

theorem scansAgree_of_nil (content : Text) (distance : Nat) {left right : List Nat}
    (empty : left = [] ∨ right = []) : ScansAgree content distance left right := by
  refine Or.inr ⟨?_, ?_⟩
  · rintro ⟨offset, member, candidate, candidateMember, -⟩
    rcases empty with rfl | rfl
    · exact absurd member List.not_mem_nil
    · exact absurd candidateMember List.not_mem_nil
  · rintro ⟨offset, member, candidate, candidateMember, -⟩
    rcases empty with rfl | rfl
    · exact absurd candidateMember List.not_mem_nil
    · exact absurd member List.not_mem_nil

/-- An operand is a term, or a content beyond the size limit is refused on its behalf. -/
theorem term_or_refused (fuzzily : Bool) {failure : Failure}
    (refused : sizeVerdict content options = .error failure)
    (operand : Expr) :
    (∃ term, operand = .literal term ∧ resolvedSpots fuzzily content operand options =
        .ok (termSpots fuzzily content term options .near)) ∨
      ((∀ term, operand ≠ .literal term) ∧
        resolvedSpots fuzzily content operand options = .error failure) := by
  unfold resolvedSpots operandSpots
  rw [refused]
  cases operand with
  | literal term => exact Or.inl ⟨term, rfl, rfl⟩
  | not child => exact Or.inr ⟨nofun, rfl⟩
  | and left right => exact Or.inr ⟨nofun, rfl⟩
  | or left right => exact Or.inr ⟨nofun, rfl⟩
  | near left right distance => exact Or.inr ⟨nofun, rfl⟩

/-- Beyond the size limit, a term before a refused operand keeps the verdict if it is there. -/
theorem measureVerdict_comm_of_refused {distance : Nat} {failure : Failure}
    (fatal : failure.isNearArguments = false) (spots : List Nat) :
    tolerated (measureVerdict content distance (.ok spots) (.error failure)) =
        tolerated (measureVerdict content distance (.error failure) (.ok spots)) ↔
      spots ≠ [] := by
  have thrown : tolerated (.error failure) = .error failure :=
    if_neg (by simp [fatal])
  cases spots with
  | nil =>
      constructor
      · intro same
        have differ : (.ok false : Except Failure Bool) = .error failure := same.trans thrown
        cases differ
      · exact fun present => absurd rfl present
  | cons offset rest => exact ⟨fun _ => List.cons_ne_nil _ _, fun _ => rfl⟩

/-- The verdict does not depend on the order of the operands exactly if the content is empty, or no
refusal is left out in one order and the scans agree. -/
theorem verdict_near_comm_iff (left right : Expr) (distance : Nat) :
    verdict fuzzily content options (.near left right (.int distance)) =
        verdict fuzzily content options (.near right left (.int distance)) ↔
      content.isEmpty = true ∨
        (¬ RefusedInOneOrder fuzzily content options left right ∧
          ¬ RefusedInOneOrder fuzzily content options right left ∧
          ScansAgree content distance (nearSpots fuzzily content left options)
            (nearSpots fuzzily content right options)) := by
  cases present : content.isEmpty with
  | true =>
      rw [verdict_near_of_empty present, verdict_near_of_empty present]
      simp
  | false =>
      simp only [Bool.false_eq_true, false_or]
      by_cases fits : Fits content options
      · rw [verdict_near_of_fits fits present, verdict_near_of_fits fits present]
        simp only [Except.ok.injEq, spotsNear_comm_iff, RefusedInOneOrder, fits, not_true_eq_false,
          false_and, not_false_eq_true, true_and]
      · obtain ⟨limit, refused⟩ := sizeVerdict_of_not_fits fits
        rw [verdict_near_of_present present, verdict_near_of_present present]
        rcases term_or_refused fuzzily refused left with
          ⟨leftTerm, rfl, leftFound⟩ | ⟨leftOther, leftRefused⟩ <;>
        rcases term_or_refused fuzzily refused right with
          ⟨rightTerm, rfl, rightFound⟩ | ⟨rightOther, rightRefused⟩
        · -- Terms are never refused, whatever the size of the content.
          rw [nearSpots_of_ok leftFound, nearSpots_of_ok rightFound, leftFound, rightFound,
            tolerated_measureVerdict (.literal leftTerm) (.literal rightTerm) (Or.inl rfl)
              (Or.inl rfl),
            tolerated_measureVerdict (.literal rightTerm) (.literal leftTerm) (Or.inl rfl)
              (Or.inl rfl)]
          simp [spotsNear_comm_iff, RefusedInOneOrder]
        · have agree : ScansAgree content distance
              (nearSpots fuzzily content (.literal leftTerm) options)
              (nearSpots fuzzily content right options) :=
            scansAgree_of_nil content distance (Or.inr (nearSpots_of_error rightRefused))
          rw [leftFound, rightRefused, measureVerdict_comm_of_refused rfl]
          simp [RefusedInOneOrder, fits, agree, rightOther]
        · have agree : ScansAgree content distance (nearSpots fuzzily content left options)
              (nearSpots fuzzily content (.literal rightTerm) options) :=
            scansAgree_of_nil content distance (Or.inl (nearSpots_of_error leftRefused))
          rw [leftRefused, rightFound, eq_comm, measureVerdict_comm_of_refused rfl]
          simp [RefusedInOneOrder, fits, agree, leftOther]
        · have agree : ScansAgree content distance (nearSpots fuzzily content left options)
              (nearSpots fuzzily content right options) :=
            scansAgree_of_nil content distance (Or.inl (nearSpots_of_error leftRefused))
          rw [leftRefused, rightRefused]
          simp [RefusedInOneOrder, agree, leftOther, rightOther]

/-- Without remembered verdicts, exchanging the operands of a proximity keeps the answer exactly if
the content is empty, or no refusal is left out in one order and the scans agree. -/
theorem evaluateNear_comm_iff {scope : Scope} {first second : Session}
    (firstForgetful : first.Forgetful scope) (secondForgetful : second.Forgetful scope)
    (admitted : scope.Admits content options) (left right : Expr) (distance : Nat) :
    (evaluateNear content left right (.int distance) options).answer first =
        (evaluateNear content right left (.int distance) options).answer second ↔
      content.isEmpty = true ∨
        (¬ RefusedInOneOrder scope.fuzzily content options left right ∧
          ¬ RefusedInOneOrder scope.fuzzily content options right left ∧
          ScansAgree content distance (nearSpots scope.fuzzily content left options)
            (nearSpots scope.fuzzily content right options)) := by
  rw [firstForgetful.answer_evaluateNear admitted, secondForgetful.answer_evaluateNear admitted]
  exact verdict_near_comm_iff left right distance

/-- Two words next to each other are near each other in either order. -/
theorem evaluateNear_comm_of_adjacent_words :
    (evaluateNear (Text.ofString "red fox") (.literal (.plain "red")) (.literal (.plain "fox"))
        (.int 1) {}).answer bareSession =
      (evaluateNear (Text.ofString "red fox") (.literal (.plain "fox")) (.literal (.plain "red"))
        (.int 1) {}).answer bareSession := by
  refine (evaluateNear_comm_iff forgetful_bareSession forgetful_bareSession
    (Scope.admits_everything _ {}) _ _ 1).mpr (Or.inr ⟨?_, ?_, Or.inr ?_⟩)
  · rintro ⟨-, -, other⟩
    exact other _ rfl
  · rintro ⟨-, -, other⟩
    exact other _ rfl
  · decide +kernel

/-- Ten blanks between two words hide the second word from the first one, but not the first one from
the second. -/
theorem evaluateNear_not_comm :
    (evaluateNear (Text.ofString "a          b") (.literal (.plain "a"))
        (.literal (.pattern "\\s|b" "")) (.int 1) {}).answer bareSession = .ok false ∧
      (evaluateNear (Text.ofString "a          b") (.literal (.pattern "\\s|b" ""))
        (.literal (.plain "a")) (.int 1) {}).answer bareSession = .ok true := by
  have wordSpots : nearSpots false (Text.ofString "a          b") (.literal (.plain "a")) {} =
      [0] := by decide +kernel
  have patternSpots : nearSpots false (Text.ofString "a          b")
      (.literal (.pattern "\\s|b" "")) {} = [1, 2, 3, 4, 5, 6, 7, 8, 9, 10, 11] := by
    decide +kernel
  have answers := fun left right =>
    forgetful_bareSession.answer_evaluateNear_of_fits
      (Scope.admits_everything (Text.ofString "a          b") {}) (fits_of_no_limit rfl) rfl
      left right 1
  refine ⟨(answers _ _).trans (congrArg _ ?_), (answers _ _).trans (congrArg _ ?_)⟩ <;>
    rw [show Scope.everything.fuzzily = false from rfl, wordSpots, patternSpots]
  · rw [Bool.eq_false_iff, ne_eq, spotsNear_iff]
    decide +kernel
  · rw [spotsNear_iff]
    decide +kernel

end BooleanSearch
