import BooleanSearch.Proofs.Match.Candidates
import BooleanSearch.Proofs.Match.Evaluation

/-!
# The verdict on a proximity

A proximity holds if its scan reaches a pair of offsets, unless both operands stand at many places
that are all too far apart by characters.  Operands that fail contribute no offsets; only a content
beyond the size limit makes a proximity fail.
-/

namespace BooleanSearch

open Query

/-! ## Distances in characters -/

namespace Proximity

/-- Some offset of the first list is at most a number of characters apart from one of the second. -/
def SomeWithin (limit : Nat) (left right : List Nat) : Prop :=
  ∃ first ∈ left, ∃ second ∈ right, ((first : Int) - (second : Int)).natAbs ≤ limit

instance (limit : Nat) (left right : List Nat) : Decidable (SomeWithin limit left right) :=
  inferInstanceAs (Decidable (∃ first ∈ left, ∃ second ∈ right,
    ((first : Int) - (second : Int)).natAbs ≤ limit))

theorem SomeWithin.symm {limit : Nat} {left right : List Nat}
    (within : SomeWithin limit left right) : SomeWithin limit right left := by
  obtain ⟨first, firstMember, second, secondMember, near⟩ := within
  exact ⟨second, secondMember, first, firstMember, by omega⟩

theorem someWithin_comm {limit : Nat} {left right : List Nat} :
    SomeWithin limit left right ↔ SomeWithin limit right left :=
  ⟨SomeWithin.symm, SomeWithin.symm⟩

theorem someWithin_perm {limit : Nat} {left otherLeft right otherRight : List Nat}
    (leftPerm : left.Perm otherLeft) (rightPerm : right.Perm otherRight) :
    SomeWithin limit left right ↔ SomeWithin limit otherLeft otherRight := by
  unfold SomeWithin
  simp only [leftPerm.mem_iff, rightPerm.mem_iff]

variable {left right : Array Nat}

/-- In a sorted array the neighbours of an offset are the ones closest to it. -/
theorem anyWithin_iff (ascending : Ascending right) {limit : Nat} :
    anyWithin left right limit = true ↔ SomeWithin limit left.toList right.toList := by
  unfold anyWithin SomeWithin
  rw [Array.any_eq_true']
  simp only [Array.mem_toList_iff]
  refine exists_congr fun offset => and_congr_right fun _ => ?_
  have bounded := countBelow_le_size ascending offset
  simp only [Bool.or_eq_true, Bool.and_eq_true, decide_eq_true_eq]
  constructor
  · rintro (after | ⟨positive, before⟩)
    · split at after
      · next value found =>
          obtain ⟨valid, rfl⟩ := Array.getElem?_eq_some_iff.mp found
          have notBelow : ¬ right[countBelow right offset] < offset := fun below =>
            Nat.lt_irrefl _ ((lt_countBelow_iff ascending offset valid).mpr below)
          simp only [decide_eq_true_eq] at after
          exact ⟨_, Array.getElem_mem valid, by omega⟩
      · cases after
    · split at before
      · next value found =>
          obtain ⟨valid, rfl⟩ := Array.getElem?_eq_some_iff.mp found
          have below := (lt_countBelow_iff ascending offset valid).mp (by omega)
          simp only [decide_eq_true_eq] at before
          exact ⟨_, Array.getElem_mem valid, by omega⟩
      · cases before
  · rintro ⟨value, member, near⟩
    obtain ⟨place, valid, rfl⟩ := Array.mem_iff_getElem.mp member
    rcases Nat.lt_or_ge place (countBelow right offset) with before | after
    · refine Or.inr ⟨by omega, ?_⟩
      have known : countBelow right offset - 1 < right.size := by omega
      have below := (lt_countBelow_iff ascending offset known).mp (by omega)
      have between := ascending place _ known (by omega)
      simp only [Array.getElem?_eq_getElem known, decide_eq_true_eq]
      omega
    · refine Or.inl ?_
      have known : countBelow right offset < right.size := by omega
      have notBelow : ¬ right[countBelow right offset] < offset := fun below =>
        Nat.lt_irrefl _ ((lt_countBelow_iff ascending offset known).mpr below)
      have between := ascending _ place valid after
      simp only [Array.getElem?_eq_getElem known, decide_eq_true_eq]
      omega

/-- Both lists are long, and all their pairs are far apart by characters. -/
def FarApart (distance : Nat) (left right : List Nat) : Prop :=
  filterSize < left.length ∧ filterSize < right.length ∧
    ¬ SomeWithin (distance * averageWord * 2) left right

instance (distance : Nat) (left right : List Nat) : Decidable (FarApart distance left right) :=
  inferInstanceAs (Decidable (filterSize < left.length ∧ filterSize < right.length ∧
    ¬ SomeWithin (distance * averageWord * 2) left right))

theorem farApart_comm (distance : Nat) (left right : List Nat) :
    FarApart distance left right ↔ FarApart distance right left := by
  unfold FarApart
  rw [someWithin_comm]
  exact ⟨fun ⟨first, second, far⟩ => ⟨second, first, far⟩,
    fun ⟨first, second, far⟩ => ⟨second, first, far⟩⟩

theorem tooFar_iff (ascending : Ascending right) {distance : Nat} :
    tooFar left right distance = true ↔ FarApart distance left.toList right.toList := by
  unfold tooFar FarApart
  simp only [Bool.and_eq_true, decide_eq_true_eq, Bool.not_eq_true', Array.length_toList,
    ← Bool.not_eq_true, anyWithin_iff ascending, and_assoc]

end Proximity

open Proximity

/-! ## Lists of offsets -/

theorem tooFar_inOrder_iff {distance : Nat} {left right : List Nat} :
    tooFar (inOrder left).toArray (inOrder right).toArray distance = true ↔
      FarApart distance left right := by
  rw [tooFar_iff (ascending_inOrder right)]
  unfold FarApart
  rw [someWithin_perm (inOrder_perm left) (inOrder_perm right), (inOrder_perm left).length_eq,
    (inOrder_perm right).length_eq]

theorem holds_inOrder_iff (content : Text) (distance : Nat) (left right : List Nat) :
    Proximity.holds (WordIndex.build content) (inOrder left).toArray (inOrder right).toArray
        distance = true ↔
      Reaches (WordIndex.build content) distance left right := by
  rw [holds_iff (WordIndex.ordered_build content) (ascending_inOrder right)]
  exact reaches_perm (inOrder_perm left) (inOrder_perm right)

/-- Two lists of offsets are near each other if the scan reaches a pair that is not ruled out by
characters. -/
theorem spotsNear_iff {content : Text} {distance : Nat} {left right : List Nat} :
    spotsNear content distance left right = true ↔
      ¬ FarApart distance left right ∧ Reaches (WordIndex.build content) distance left right := by
  unfold spotsNear
  simp only [Bool.and_eq_true, Bool.not_eq_true', ← Bool.not_eq_true, tooFar_inOrder_iff,
    holds_inOrder_iff]
  constructor
  · rintro ⟨⟨-, notFar⟩, reached⟩
    exact ⟨notFar, reached⟩
  · rintro ⟨notFar, reached⟩
    refine ⟨⟨⟨?_, ?_⟩, notFar⟩, reached⟩
    · obtain ⟨offset, member, -⟩ := reached
      exact fun empty => absurd member (by simp [List.isEmpty_iff.mp empty])
    · obtain ⟨-, -, candidate, member, -⟩ := reached
      exact fun empty => absurd member (by simp [List.isEmpty_iff.mp empty])

theorem spotsNear_nil_right (content : Text) (distance : Nat) (left : List Nat) :
    spotsNear content distance left [] = false := by
  rw [Bool.eq_false_iff, ne_eq, spotsNear_iff]
  rintro ⟨-, -, -, candidate, member, -⟩
  exact List.not_mem_nil member

/-! ## Contents within the size limit -/

/-- A content keeps to the size limit of the options. -/
def Fits (content : Text) (options : MatchOptions) : Prop :=
  ∀ limit ∈ options.sizeLimit, (content.size : Int) ≤ limit

variable {fuzzily : Bool} {content : Text} {options : MatchOptions}

theorem fits_of_no_limit (unlimited : options.sizeLimit = none) : Fits content options := by
  intro limit member
  rw [unlimited] at member
  cases member

theorem sizeVerdict_of_fits (fits : Fits content options) :
    sizeVerdict content options = .ok () := by
  unfold sizeVerdict
  cases limited : options.sizeLimit with
  | none => rfl
  | some limit => exact if_neg (Int.not_lt.mpr (fits limit limited))

theorem Fits.of_size_le {whole part : Text} (fits : Fits whole options)
    (shorter : part.size ≤ whole.size) : Fits part options := by
  intro limit member
  have within := fits limit member
  omega

/-- A content beyond the limit is refused with the same failure for every query. -/
theorem sizeVerdict_of_not_fits (large : ¬ Fits content options) :
    ∃ limit, sizeVerdict content options =
      .error (.error ⟨.tooLarge content.size limit none, none⟩) := by
  unfold sizeVerdict
  cases limited : options.sizeLimit with
  | none => exact absurd (fun _ member => by simp [limited] at member) large
  | some limit =>
      refine ⟨limit, if_pos (Int.not_le.mp fun within => large ?_)⟩
      intro other member
      rw [limited] at member
      cases member
      exact within

/-- The offsets that an operand contributes to a proximity, none if it fails. -/
def nearSpots (fuzzily : Bool) (content : Text) (operand : Expr) (options : MatchOptions) :
    List Nat :=
  match resolvedSpots fuzzily content operand options with
  | .ok spots => spots
  | .error _ => []

theorem nearSpots_of_ok {operand : Expr} {spots : List Nat}
    (given : resolvedSpots fuzzily content operand options = .ok spots) :
    nearSpots fuzzily content operand options = spots := by
  unfold nearSpots
  rw [given]

theorem nearSpots_of_error {operand : Expr} {failure : Failure}
    (given : resolvedSpots fuzzily content operand options = .error failure) :
    nearSpots fuzzily content operand options = [] := by
  unfold nearSpots
  rw [given]

/-- An operand of which the verdict is known contributes offsets, or it has none to measure from. -/
theorem operandSpots_of_ok (fuzzily : Bool) (fits : Fits content options) (operand : Expr)
    (value : Bool) :
    (∃ spots, operandSpots fuzzily content options operand (.ok value) = .ok spots) ∨
      operandSpots fuzzily content options operand (.ok value) =
        .error (noPositions operand) := by
  have composite :
      (∃ spots, (do
          sizeVerdict content options
          if ← (Except.ok value : Except Failure Bool) then
            if (querySpots fuzzily content operand options .near).isEmpty then
              .error (noPositions operand)
            else .ok (querySpots fuzzily content operand options .near)
          else .ok []) = .ok spots) ∨
        (do
          sizeVerdict content options
          if ← (Except.ok value : Except Failure Bool) then
            if (querySpots fuzzily content operand options .near).isEmpty then
              .error (noPositions operand)
            else .ok (querySpots fuzzily content operand options .near)
          else .ok []) = .error (noPositions operand) := by
    rw [sizeVerdict_of_fits fits]
    cases value with
    | false => exact Or.inl ⟨[], rfl⟩
    | true =>
        by_cases empty : (querySpots fuzzily content operand options .near).isEmpty = true
        · exact Or.inr (if_pos empty)
        · exact Or.inl ⟨_, if_neg empty⟩
  cases operand with
  | literal term => exact Or.inl ⟨_, rfl⟩
  | not child => exact composite
  | and left right => exact composite
  | or left right => exact composite
  | near left right distance => exact composite

/-- Once failing operands are tolerated, the verdict on two operands is that on their offsets. -/
theorem tolerated_measureVerdict {distance : Nat}
    {leftResult rightResult : Except Failure (List Nat)} (left right : Expr)
    {leftSpots rightSpots : List Nat}
    (leftCases : leftResult = .ok leftSpots ∨
      (leftResult = .error (noPositions left) ∧ leftSpots = []))
    (rightCases : rightResult = .ok rightSpots ∨
      (rightResult = .error (noPositions right) ∧ rightSpots = [])) :
    tolerated (measureVerdict content distance leftResult rightResult) =
      .ok (spotsNear content distance leftSpots rightSpots) := by
  rcases leftCases with rfl | ⟨rfl, rfl⟩
  · cases leftSpots with
    | nil => rfl
    | cons offset rest =>
        rcases rightCases with rfl | ⟨rfl, rfl⟩
        · rfl
        · rw [spotsNear_nil_right]
          rfl
  · rfl

/-- Evaluations of contents within the size limit never fail. -/
theorem exists_verdict (fuzzily : Bool) (fits : Fits content options) (query : Expr) :
    ∃ value, verdict fuzzily content options query = .ok value := by
  have resolved : ∀ operand, (∃ value, verdict fuzzily content options operand = .ok value) →
      ∃ spots, resolvedSpots fuzzily content operand options = .ok spots ∨
        (resolvedSpots fuzzily content operand options = .error (noPositions operand) ∧
          spots = []) := by
    rintro operand ⟨value, given⟩
    unfold resolvedSpots
    rw [given]
    rcases operandSpots_of_ok fuzzily fits operand value with ⟨spots, found⟩ | failed
    · exact ⟨spots, Or.inl found⟩
    · exact ⟨[], Or.inr ⟨failed, rfl⟩⟩
  induction query with
  | literal term => exact ⟨_, rfl⟩
  | not child inductionHypothesis =>
      obtain ⟨value, given⟩ := inductionHypothesis
      exact ⟨!value, by simp only [verdict, given]; rfl⟩
  | and left right leftHypothesis rightHypothesis =>
      obtain ⟨leftValue, leftGiven⟩ := leftHypothesis
      obtain ⟨rightValue, rightGiven⟩ := rightHypothesis
      refine ⟨leftValue && rightValue, ?_⟩
      simp only [verdict, leftGiven, rightGiven]
      cases leftValue <;> rfl
  | or left right leftHypothesis rightHypothesis =>
      obtain ⟨leftValue, leftGiven⟩ := leftHypothesis
      obtain ⟨rightValue, rightGiven⟩ := rightHypothesis
      refine ⟨leftValue || rightValue, ?_⟩
      simp only [verdict, leftGiven, rightGiven]
      cases leftValue <;> rfl
  | near left right distance leftHypothesis rightHypothesis =>
      obtain ⟨leftSpots, leftCases⟩ := resolved left leftHypothesis
      obtain ⟨rightSpots, rightCases⟩ := resolved right rightHypothesis
      unfold verdict proximityVerdict
      cases validDistance distance with
      | error failure => exact ⟨false, rfl⟩
      | ok count =>
          dsimp only
          by_cases empty : content.isEmpty = true
          · exact ⟨false, if_pos empty⟩
          · rw [if_neg empty]
            exact ⟨_, tolerated_measureVerdict left right leftCases rightCases⟩

/-- Whether a query holds of a content, failures counting as no. -/
def judgement (fuzzily : Bool) (query : Expr) (options : MatchOptions) (content : Text) : Bool :=
  match queryVerdict fuzzily query content options with
  | .ok value => value
  | .error _ => false

/-- Within the size limit there are no failures. -/
theorem queryVerdict_eq_judgement (query : Expr)
    (fits : Fits content options) :
    queryVerdict fuzzily query content options =
      .ok (judgement fuzzily query options content) := by
  obtain ⟨value, given⟩ := exists_verdict fuzzily fits query
  have whole : queryVerdict fuzzily query content options = .ok value := by
    unfold queryVerdict
    rw [sizeVerdict_of_fits fits]
    exact given
  unfold judgement
  rw [whole]

theorem resolvedSpots_of_fits (fits : Fits content options) (operand : Expr) :
    resolvedSpots fuzzily content operand options =
        .ok (nearSpots fuzzily content operand options) ∨
      (resolvedSpots fuzzily content operand options = .error (noPositions operand) ∧
        nearSpots fuzzily content operand options = []) := by
  obtain ⟨value, given⟩ := exists_verdict fuzzily fits operand
  have found := operandSpots_of_ok fuzzily fits operand value
  rw [← given] at found
  rcases found with ⟨spots, present⟩ | failed
  · exact Or.inl (by rw [nearSpots_of_ok present]; exact present)
  · exact Or.inr ⟨failed, nearSpots_of_error failed⟩

theorem verdict_near_of_present (present : content.isEmpty = false) (left right : Expr)
    (distance : Nat) :
    verdict fuzzily content options (.near left right (.int distance)) =
      tolerated (measureVerdict content distance (resolvedSpots fuzzily content left options)
        (resolvedSpots fuzzily content right options)) := by
  have valid : validDistance (.int distance) = .ok distance := rfl
  unfold verdict proximityVerdict
  rw [valid]
  exact if_neg (by simp [present])

/-- Within the size limit, a proximity asks whether the offsets of its operands are near each
other. -/
theorem verdict_near_of_fits (fits : Fits content options) (present : content.isEmpty = false)
    (left right : Expr) (distance : Nat) :
    verdict fuzzily content options (.near left right (.int distance)) =
      .ok (spotsNear content distance (nearSpots fuzzily content left options)
        (nearSpots fuzzily content right options)) := by
  rw [verdict_near_of_present present]
  exact tolerated_measureVerdict left right (resolvedSpots_of_fits fits left)
    (resolvedSpots_of_fits fits right)

/-- Without remembered verdicts, asking for a proximity in a content within the size limit tells
whether the offsets of the operands are near each other. -/
theorem Session.Forgetful.answer_evaluateNear_of_fits {scope : Scope} {session : Session}
    (forgetful : session.Forgetful scope) (admitted : scope.Admits content options)
    (fits : Fits content options) (present : content.isEmpty = false) (left right : Expr)
    (distance : Nat) :
    (evaluateNear content left right (.int distance) options).answer session =
      .ok (spotsNear content distance (nearSpots scope.fuzzily content left options)
        (nearSpots scope.fuzzily content right options)) :=
  (forgetful.answer_evaluateNear admitted left right _).trans
    (verdict_near_of_fits fits present left right distance)

theorem verdict_near_of_empty (empty : content.isEmpty = true) (left right : Expr)
    (distance : Nat) :
    verdict fuzzily content options (.near left right (.int distance)) = .ok false := by
  have valid : validDistance (.int distance) = .ok distance := rfl
  unfold verdict proximityVerdict
  rw [valid]
  exact if_pos empty

/-! ## Proximities that hold -/

/-- A composed step gives a value only if its first part gives one. -/
theorem exists_of_bind_eq_ok {ε α β : Type} {step : Except ε α} {rest : α → Except ε β} {value : β}
    (given : (step >>= rest) = .ok value) :
    ∃ between, step = .ok between ∧ rest between = .ok value := by
  cases step with
  | error failure => cases given
  | ok between => exact ⟨between, rfl, given⟩

/-- An operand that contributes offsets is a term that is found, or it is satisfied. -/
theorem term_or_verdict_of_operandSpots {operand : Expr} {decided : Except Failure Bool}
    {spots : List Nat} (given : operandSpots fuzzily content options operand decided = .ok spots)
    (some_ : spots ≠ []) :
    (∃ term, operand = .literal term ∧ termSpots fuzzily content term options .near ≠ []) ∨
      decided = .ok true := by
  have composite :
      (do
        sizeVerdict content options
        if ← decided then
          if (querySpots fuzzily content operand options .near).isEmpty then
            .error (noPositions operand)
          else .ok (querySpots fuzzily content operand options .near)
        else .ok []) = Except.ok spots → decided = .ok true := by
    intro found
    obtain ⟨_, -, composed⟩ := exists_of_bind_eq_ok found
    obtain ⟨value, decides, contributed⟩ := exists_of_bind_eq_ok composed
    cases value with
    | true => exact decides
    | false => exact absurd (Except.ok.inj contributed).symm some_
  cases operand with
  | literal term =>
      refine Or.inl ⟨term, rfl, ?_⟩
      rwa [Except.ok.inj given]
  | not child => exact Or.inr (composite given)
  | and left right => exact Or.inr (composite given)
  | or left right => exact Or.inr (composite given)
  | near left right distance => exact Or.inr (composite given)

theorem eq_ok_of_tolerated {result : Except Failure Bool} (holds : tolerated result = .ok true) :
    result = .ok true := by
  unfold tolerated at holds
  split at holds
  · exact holds
  · split at holds
    · cases holds
    · cases holds

/-- A proximity that holds has operands with offsets that are near each other. -/
theorem exists_spots_of_proximityVerdict {distance : Value}
    {left right : Except Failure (List Nat)}
    (holds : proximityVerdict content distance left right = .ok true) :
    ∃ count leftSpots rightSpots, validDistance distance = .ok count ∧ content.isEmpty = false ∧
      left = .ok leftSpots ∧ right = .ok rightSpots ∧
      spotsNear content count leftSpots rightSpots = true := by
  unfold proximityVerdict at holds
  split at holds
  · cases holds
  · next count valid =>
      split at holds
      · cases holds
      · next present =>
          have measured := eq_ok_of_tolerated holds
          obtain ⟨leftSpots, leftGiven, continued⟩ := exists_of_bind_eq_ok measured
          split at continued
          · cases continued
          · obtain ⟨rightSpots, rightGiven, compared⟩ := exists_of_bind_eq_ok continued
            exact ⟨count, leftSpots, rightSpots, valid, by simpa using present, leftGiven,
              rightGiven, Except.ok.inj compared⟩

theorem ne_nil_of_spotsNear {distance : Nat} {left right : List Nat}
    (near : spotsNear content distance left right = true) : left ≠ [] ∧ right ≠ [] := by
  obtain ⟨-, offset, offsetMember, candidate, candidateMember, -⟩ := spotsNear_iff.mp near
  exact ⟨List.ne_nil_of_mem offsetMember, List.ne_nil_of_mem candidateMember⟩

end BooleanSearch
