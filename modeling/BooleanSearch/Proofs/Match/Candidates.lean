import BooleanSearch.Match.Evaluate
import BooleanSearch.Proofs.Match.WordNumbers
import Mathlib.Data.List.Count
import Mathlib.Data.List.Sort

/-!
# Candidates of a proximity

A scan of two sorted lists of offsets looks at ten candidates before and at ten from each offset of
the first list.  Since words are numbered in the order of their offsets, the first candidate that
falls into a word is the nearest one, so the scan finds exactly the linked pairs for which it passes
fewer than ten offsets of the second list on the way.
-/

namespace BooleanSearch

/-! ## Counting in sorted arrays -/

/-- If the values before a place are those that satisfy a condition, the place counts them. -/
theorem countP_eq_of_parted {condition : Nat → Bool} :
    ∀ {values : List Nat} {place : Nat}, place ≤ values.length →
      (∀ index (valid : index < values.length), index < place ↔ condition values[index] = true) →
      values.countP condition = place
  | [], place, inside, _ => by
      simp only [List.length_nil, Nat.le_zero_eq] at inside
      simp [inside]
  | value :: rest, 0, _, parted => by
      rw [List.countP_eq_zero]
      intro item member holds
      obtain ⟨index, valid, rfl⟩ := List.mem_iff_getElem.mp member
      exact Nat.not_lt_zero _ ((parted index valid).mpr holds)
  | value :: rest, place + 1, inside, parted => by
      have first := (parted 0 (Nat.zero_lt_succ _)).mp (Nat.zero_lt_succ _)
      simp only [List.getElem_cons_zero] at first
      rw [List.countP_cons_of_pos first]
      refine congrArg _ (countP_eq_of_parted (Nat.le_of_succ_le_succ inside) ?_)
      intro index valid
      have later := parted (index + 1) (Nat.succ_lt_succ valid)
      simpa only [List.getElem_cons_succ, Nat.add_lt_add_iff_right] using later

theorem countBelow_eq_countP {values : Array Nat} (ascending : Ascending values) (bound : Nat) :
    countBelow values bound = values.toList.countP fun value => value < bound := by
  refine (countP_eq_of_parted (countBelow_le_size ascending bound) ?_).symm
  intro index valid
  simpa using lt_countBelow_iff ascending bound valid

theorem countUpTo_eq_countP {values : Array Nat} (ascending : Ascending values) (bound : Nat) :
    countUpTo values bound = values.toList.countP fun value => value ≤ bound := by
  refine (countP_eq_of_parted (countUpTo_le_size ascending bound) ?_).symm
  intro index valid
  simpa using lt_countUpTo_iff ascending bound valid

/-- The first value from a bound on that is there stands where the smaller ones end. -/
theorem getElem_countBelow {values : Array Nat} (ascending : Ascending values) {value : Nat}
    (member : value ∈ values.toList) :
    ∃ valid : countBelow values value < values.size, values[countBelow values value] = value := by
  obtain ⟨index, valid, found⟩ := List.mem_iff_getElem.mp member
  simp only [Array.length_toList, Array.getElem_toList] at valid found
  have notBelow : countBelow values value ≤ index := by
    by_contra below
    have smaller := (lt_countBelow_iff ascending value valid).mp (Nat.lt_of_not_le below)
    omega
  refine ⟨by omega, ?_⟩
  have upper := ascending _ index valid notBelow
  have lower : ¬ values[countBelow values value] < value := fun smaller =>
    Nat.lt_irrefl _ ((lt_countBelow_iff ascending value (by omega)).mpr smaller)
  omega

/-- The last value up to a bound that is there stands just before the greater ones begin. -/
theorem getElem_countUpTo {values : Array Nat} (ascending : Ascending values) {value : Nat}
    (member : value ∈ values.toList) :
    ∃ (_ : 0 < countUpTo values value) (valid : countUpTo values value - 1 < values.size),
      values[countUpTo values value - 1] = value := by
  obtain ⟨index, valid, found⟩ := List.mem_iff_getElem.mp member
  simp only [Array.length_toList, Array.getElem_toList] at valid found
  have inside := countUpTo_le_size ascending value
  have counted := (lt_countUpTo_iff ascending value valid).mpr (by omega)
  refine ⟨by omega, by omega, ?_⟩
  have known : countUpTo values value - 1 < values.size := by omega
  have upper := (lt_countUpTo_iff ascending value known).mp (by omega)
  have lower := ascending index (countUpTo values value - 1) (by omega) (by omega)
  omega

theorem Ascending.pairwise {values : Array Nat} (ascending : Ascending values) :
    values.toList.Pairwise (· ≤ ·) := by
  rw [List.pairwise_iff_getElem]
  intro first second firstValid secondValid before
  exact ascending first second secondValid (Nat.le_of_lt before)

/-! ## Offsets on the way -/

namespace Proximity

/-- The number of offsets that a scan passes on its way from one offset to another.  Going up it
begins at the offset itself, going down before it. -/
def passedOver (spots : List Nat) (origin target : Nat) : Nat :=
  spots.countP fun spot =>
    (origin ≤ spot && spot < target) || (target < spot && spot < origin)

theorem countP_below_add_passedOver (spots : List Nat) {origin target : Nat}
    (order : origin ≤ target) :
    (spots.countP fun spot => spot < origin) + passedOver spots origin target =
      spots.countP fun spot => spot < target := by
  unfold passedOver
  induction spots with
  | nil => rfl
  | cons spot rest inductionHypothesis =>
      simp only [List.countP_cons, Bool.or_eq_true, Bool.and_eq_true, decide_eq_true_eq]
        at inductionHypothesis ⊢
      split <;> split <;> split <;> omega

theorem countP_upTo_add_passedOver (spots : List Nat) {origin target : Nat}
    (order : target < origin) :
    (spots.countP fun spot => spot ≤ target) + passedOver spots origin target =
      spots.countP fun spot => spot < origin := by
  unfold passedOver
  induction spots with
  | nil => rfl
  | cons spot rest inductionHypothesis =>
      simp only [List.countP_cons, Bool.or_eq_true, Bool.and_eq_true, decide_eq_true_eq]
        at inductionHypothesis ⊢
      split <;> split <;> split <;> omega

theorem passedOver_perm {first second : List Nat} (same : first.Perm second)
    (origin target : Nat) : passedOver first origin target = passedOver second origin target :=
  same.countP_eq _

variable {right : Array Nat}

theorem mem_extract_iff {first last value : Nat} :
    value ∈ (right.extract first last).toList ↔
      ∃ (index : Nat) (valid : index < right.size), first ≤ index ∧ index < last ∧
        right[index] = value := by
  rw [Array.mem_toList_iff, Array.mem_extract_iff_getElem]
  constructor
  · rintro ⟨index, inside, found⟩
    exact ⟨first + index, by omega, Nat.le_add_right _ _, by omega, found⟩
  · rintro ⟨index, valid, lower, upper, found⟩
    refine ⟨index - first, by omega, ?_⟩
    simpa only [Nat.add_sub_cancel' lower] using found

/-- The candidates from an offset on are those with few offsets on the way up. -/
theorem mem_after_iff (ascending : Ascending right) {offset candidate : Nat} :
    candidate ∈ (right.extract (countBelow right offset)
        (countBelow right offset + candidateCount)).toList ↔
      offset ≤ candidate ∧ candidate ∈ right.toList ∧
        passedOver right.toList offset candidate < candidateCount := by
  rw [mem_extract_iff]
  constructor
  · rintro ⟨index, valid, lower, upper, rfl⟩
    have notBelow : offset ≤ right[index] := Nat.le_of_not_lt fun below =>
      Nat.not_lt.mpr lower ((lt_countBelow_iff ascending offset valid).mpr below)
    have reached : countBelow right right[index] ≤ index := Nat.le_of_not_lt fun below =>
      Nat.lt_irrefl _ ((lt_countBelow_iff ascending right[index] valid).mp below)
    have counted := countP_below_add_passedOver right.toList notBelow
    rw [← countBelow_eq_countP ascending, ← countBelow_eq_countP ascending] at counted
    exact ⟨notBelow, by simp, by omega⟩
  · rintro ⟨notBelow, member, few⟩
    obtain ⟨valid, found⟩ := getElem_countBelow ascending member
    have counted := countP_below_add_passedOver right.toList notBelow
    rw [← countBelow_eq_countP ascending, ← countBelow_eq_countP ascending] at counted
    exact ⟨countBelow right candidate, valid, by omega, by omega, found⟩

theorem mem_before_iff (ascending : Ascending right) {offset candidate : Nat} :
    candidate ∈ (right.extract (countBelow right offset - candidateCount)
        (countBelow right offset)).toList ↔
      candidate < offset ∧ candidate ∈ right.toList ∧
        passedOver right.toList offset candidate < candidateCount := by
  rw [mem_extract_iff]
  constructor
  · rintro ⟨index, valid, lower, upper, rfl⟩
    have below := (lt_countBelow_iff ascending offset valid).mp upper
    have reached := (lt_countUpTo_iff ascending right[index] valid).mpr (Nat.le_refl _)
    have counted := countP_upTo_add_passedOver right.toList below
    rw [← countBelow_eq_countP ascending, ← countUpTo_eq_countP ascending] at counted
    exact ⟨below, by simp, by simp only [candidateCount] at lower ⊢; omega⟩
  · rintro ⟨below, member, few⟩
    obtain ⟨positive, valid, found⟩ := getElem_countUpTo ascending member
    have counted := countP_upTo_add_passedOver right.toList below
    rw [← countBelow_eq_countP ascending, ← countUpTo_eq_countP ascending] at counted
    exact ⟨countUpTo right candidate - 1, valid, by simp only [candidateCount] at few ⊢; omega,
      by omega, found⟩

/-! ## The nearest candidates -/

/-- Two offsets fall into words that are at most a number of words apart. -/
def Linked (index : WordIndex) (distance first second : Nat) : Prop :=
  ∃ firstWord secondWord, index.wordOf? first = some firstWord ∧
    index.wordOf? second = some secondWord ∧
    ((firstWord : Int) - (secondWord : Int)).natAbs ≤ distance

theorem Linked.symm {index : WordIndex} {distance first second : Nat}
    (linked : Linked index distance first second) : Linked index distance second first := by
  obtain ⟨firstWord, secondWord, firstFound, secondFound, near⟩ := linked
  exact ⟨secondWord, firstWord, secondFound, firstFound, by omega⟩

instance (index : WordIndex) (distance first second : Nat) :
    Decidable (Linked index distance first second) :=
  decidable_of_iff
    ((match index.wordOf? first, index.wordOf? second with
      | some firstWord, some secondWord =>
        decide (((firstWord : Int) - (secondWord : Int)).natAbs ≤ distance)
      | _, _ => false) = true)
    (by
      unfold Linked
      cases index.wordOf? first <;> cases index.wordOf? second <;> simp)

/-- Nearer candidates come first. -/
def NearestFirst (index : WordIndex) (word : Nat) (candidates : List Nat) : Prop :=
  candidates.Pairwise fun near far => ∀ nearWord farWord, index.wordOf? near = some nearWord →
    index.wordOf? far = some farWord →
    ((word : Int) - (nearWord : Int)).natAbs ≤ ((word : Int) - (farWord : Int)).natAbs

/-- Among candidates of which nearer ones come first, the first one in a word decides. -/
theorem firstIsNear_iff {index : WordIndex} {word distance : Nat} :
    ∀ {candidates : List Nat}, NearestFirst index word candidates →
      (firstIsNear index word distance candidates = true ↔
        ∃ candidate ∈ candidates, ∃ other, index.wordOf? candidate = some other ∧
          ((word : Int) - (other : Int)).natAbs ≤ distance)
  | [], _ => by simp [firstIsNear]
  | candidate :: rest, nearest => by
      obtain ⟨nearer, nearestRest⟩ := List.pairwise_cons.mp nearest
      unfold firstIsNear
      cases found : index.wordOf? candidate with
      | none =>
          dsimp only
          rw [firstIsNear_iff nearestRest]
          simp [found]
      | some first =>
          simp only [decide_eq_true_eq]
          constructor
          · intro near
            exact ⟨candidate, List.mem_cons_self, first, found, near⟩
          · rintro ⟨other, member, otherWord, otherFound, near⟩
            rcases List.mem_cons.mp member with rfl | later
            · rw [found] at otherFound
              cases otherFound
              exact near
            · exact Nat.le_trans (nearer other later first otherWord found otherFound) near

theorem pairwise_extract (ascending : Ascending right) (first last : Nat) :
    (right.extract first last).toList.Pairwise (· ≤ ·) := by
  rw [Array.toList_extract, List.extract_eq_take_drop]
  exact ascending.pairwise.sublist ((List.take_sublist _ _).trans (List.drop_sublist _ _))

/-- A scan for an offset finds the linked candidates with few offsets on the way. -/
theorem isNear_iff {index : WordIndex} (ordered : index.Ordered) (ascending : Ascending right)
    {distance offset : Nat} :
    isNear index right distance offset = true ↔
      ∃ candidate ∈ right.toList, Linked index distance offset candidate ∧
        passedOver right.toList offset candidate < candidateCount := by
  unfold isNear
  cases found : index.wordOf? offset with
  | none => simp [Linked, found]
  | some word =>
      have nearestBefore : NearestFirst index word
          (right.extract (countBelow right offset - candidateCount)
            (countBelow right offset)).toList.reverse := by
        unfold NearestFirst
        rw [List.pairwise_reverse]
        refine (pairwise_extract ascending _ _).imp_of_mem ?_
        intro far near farMember nearMember order nearWord farWord nearFound farFound
        have below := (mem_before_iff ascending).mp nearMember
        have nearOrder := ordered.wordOf?_mono (Nat.le_of_lt below.1) nearFound found
        have farOrder := ordered.wordOf?_mono order farFound nearFound
        omega
      have nearestAfter : NearestFirst index word
          (right.extract (countBelow right offset)
            (countBelow right offset + candidateCount)).toList := by
        refine (pairwise_extract ascending _ _).imp_of_mem ?_
        intro near far nearMember farMember order nearWord farWord nearFound farFound
        have notBelow := (mem_after_iff ascending).mp nearMember
        have nearOrder := ordered.wordOf?_mono notBelow.1 found nearFound
        have farOrder := ordered.wordOf?_mono order nearFound farFound
        omega
      simp only [Bool.or_eq_true]
      rw [firstIsNear_iff nearestBefore, firstIsNear_iff nearestAfter]
      simp only [List.mem_reverse, mem_before_iff ascending, mem_after_iff ascending]
      constructor
      · rintro (⟨candidate, ⟨-, member, few⟩, other, otherFound, near⟩ |
          ⟨candidate, ⟨-, member, few⟩, other, otherFound, near⟩)
        · exact ⟨candidate, member, ⟨word, other, found, otherFound, near⟩, few⟩
        · exact ⟨candidate, member, ⟨word, other, found, otherFound, near⟩, few⟩
      · rintro ⟨candidate, member, ⟨same, other, sameFound, otherFound, near⟩, few⟩
        rw [found] at sameFound
        cases sameFound
        rcases Nat.lt_or_ge candidate offset with below | notBelow
        · exact Or.inl ⟨candidate, ⟨below, member, few⟩, other, otherFound, near⟩
        · exact Or.inr ⟨candidate, ⟨notBelow, member, few⟩, other, otherFound, near⟩

/-- Some offset of the first list is linked to one of the second, and the scan passes few offsets
of the second list on its way to it. -/
def Reaches (index : WordIndex) (distance : Nat) (left right : List Nat) : Prop :=
  ∃ offset ∈ left, ∃ candidate ∈ right, Linked index distance offset candidate ∧
    passedOver right offset candidate < candidateCount

instance (index : WordIndex) (distance : Nat) (left right : List Nat) :
    Decidable (Reaches index distance left right) :=
  inferInstanceAs (Decidable (∃ offset ∈ left, ∃ candidate ∈ right,
    Linked index distance offset candidate ∧
      passedOver right offset candidate < candidateCount))

theorem reaches_perm {index : WordIndex} {distance : Nat}
    {left otherLeft right otherRight : List Nat} (leftPerm : left.Perm otherLeft)
    (rightPerm : right.Perm otherRight) :
    Reaches index distance left right ↔ Reaches index distance otherLeft otherRight := by
  unfold Reaches
  simp only [leftPerm.mem_iff, rightPerm.mem_iff, passedOver_perm rightPerm]

/-- The scan of two lists of offsets finds what it reaches. -/
theorem holds_iff {index : WordIndex} (ordered : index.Ordered) (ascending : Ascending right)
    {left : Array Nat} {distance : Nat} :
    holds index left right distance = true ↔ Reaches index distance left.toList right.toList := by
  unfold holds Reaches
  rw [Array.any_eq_true']
  simp only [isNear_iff ordered ascending, Array.mem_toList_iff]

end Proximity

/-! ## Lists in order -/

theorem ascending_inOrder (offsets : List Nat) : Ascending (inOrder offsets).toArray := by
  have sorted : (inOrder offsets).Pairwise (· ≤ ·) := by
    have transitive : ∀ first second third : Nat, decide (first ≤ second) = true →
        decide (second ≤ third) = true → decide (first ≤ third) = true := by
      simp only [decide_eq_true_eq]
      omega
    have total : ∀ first second : Nat,
        (decide (first ≤ second) || decide (second ≤ first)) = true := by
      simp only [Bool.or_eq_true, decide_eq_true_eq]
      omega
    simpa [inOrder] using List.pairwise_mergeSort transitive total offsets
  intro first second inside order
  rcases Nat.lt_or_eq_of_le order with before | same
  · exact (List.pairwise_iff_getElem.mp sorted) first second _ inside before
  · subst same
    exact Nat.le_refl _

theorem inOrder_perm (offsets : List Nat) : (inOrder offsets).Perm offsets :=
  List.mergeSort_perm _ _

end BooleanSearch
