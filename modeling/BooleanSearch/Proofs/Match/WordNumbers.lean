import BooleanSearch.Match.Words
import Mathlib.Order.Basic

/-!
# Numbers of words

Halving a sorted array finds the number of values below a bound.  The words of an index follow each
other without overlap, so an offset falls into at most one word, that word is the one that is looked
up, and offsets further on never fall into earlier words.
-/

namespace BooleanSearch

/-! ## Sorted arrays -/

/-- The values of an array never decrease. -/
def Ascending (values : Array Nat) : Prop :=
  ∀ first second (inside : second < values.size) (order : first ≤ second),
    values[first] ≤ values[second]

/-- Whether a value belongs to the lower part of an array that is parted at a bound. -/
def isLower (inclusive : Bool) (bound value : Nat) : Bool :=
  value < bound || (inclusive && value == bound)

/-- A lower value stands before every value that is not lower. -/
theorem isLower_of_le {inclusive : Bool} {bound first second : Nat} (order : first ≤ second)
    (lower : isLower inclusive bound second = true) :
    isLower inclusive bound first = true := by
  cases inclusive <;> simp_all [isLower] <;> omega

/-- The state of a search by halving: all values before `low` are lower, and none from `high` on
is. -/
structure Parted (values : Array Nat) (inclusive : Bool) (bound low high : Nat) : Prop where
  order : low ≤ high
  inside : high ≤ values.size
  below : ∀ index (valid : index < values.size), index < low →
    isLower inclusive bound values[index] = true
  above : ∀ index (valid : index < values.size), high ≤ index →
    isLower inclusive bound values[index] = false

/-- With enough fuel the search ends where the lower values end. -/
theorem parted_partitionPoint {values : Array Nat} (ascending : Ascending values)
    {inclusive : Bool} {bound : Nat} :
    ∀ {fuel low high : Nat}, high - low < fuel → Parted values inclusive bound low high →
      Parted values inclusive bound
        (partitionPoint values inclusive bound fuel low high)
        (partitionPoint values inclusive bound fuel low high)
  | 0, _, _, enough, _ => absurd enough (Nat.not_lt_zero _)
  | fuel + 1, low, high, enough, parted => by
      have inside := parted.inside
      unfold partitionPoint
      by_cases open_ : low < high
      · have valid : (low + high) / 2 < values.size := by omega
        rw [if_pos open_]
        simp only [Array.getElem?_eq_getElem valid]
        by_cases lower : isLower inclusive bound values[(low + high) / 2] = true
        · rw [if_pos (by simpa only [isLower] using lower)]
          refine parted_partitionPoint ascending (by omega)
            ⟨by omega, parted.inside, ?_, parted.above⟩
          intro index indexValid before
          exact isLower_of_le (ascending index _ valid (by omega)) lower
        · rw [if_neg (by simpa only [isLower] using lower)]
          refine parted_partitionPoint ascending (by omega)
            ⟨by omega, by omega, parted.below, ?_⟩
          intro index indexValid after
          refine Bool.eq_false_iff.mpr fun indexLower => lower ?_
          exact isLower_of_le (ascending _ index indexValid after) indexLower
      · rw [if_neg open_]
        have closed : high = low := by
          have order := parted.order
          omega
        subst closed
        exact parted

theorem parted_whole (values : Array Nat) (inclusive : Bool) (bound : Nat) :
    Parted values inclusive bound 0 values.size :=
  ⟨Nat.zero_le _, Nat.le_refl _, fun _ _ before => absurd before (Nat.not_lt_zero _),
    fun _ valid after => absurd valid (Nat.not_lt.mpr after)⟩

theorem countBelow_le_size {values : Array Nat} (ascending : Ascending values) (bound : Nat) :
    countBelow values bound ≤ values.size :=
  (parted_partitionPoint ascending (Nat.lt_succ_self _) (parted_whole values false bound)).inside

/-- The values before the count are those below the bound. -/
theorem lt_countBelow_iff {values : Array Nat} (ascending : Ascending values) (bound : Nat)
    {index : Nat} (valid : index < values.size) :
    index < countBelow values bound ↔ values[index] < bound := by
  have parted := parted_partitionPoint ascending (Nat.lt_succ_self _)
    (parted_whole values false bound)
  constructor
  · intro before
    simpa [isLower] using parted.below index valid before
  · intro lower
    by_contra after
    have notLower := parted.above index valid (Nat.not_lt.mp after)
    simp only [isLower, Bool.false_and, Bool.or_false, decide_eq_false_iff_not] at notLower
    exact notLower lower

theorem countUpTo_le_size {values : Array Nat} (ascending : Ascending values) (bound : Nat) :
    countUpTo values bound ≤ values.size :=
  (parted_partitionPoint ascending (Nat.lt_succ_self _) (parted_whole values true bound)).inside

theorem lt_countUpTo_iff {values : Array Nat} (ascending : Ascending values) (bound : Nat)
    {index : Nat} (valid : index < values.size) :
    index < countUpTo values bound ↔ values[index] ≤ bound := by
  have parted := parted_partitionPoint ascending (Nat.lt_succ_self _)
    (parted_whole values true bound)
  constructor
  · intro before
    have lower := parted.below index valid before
    simp only [isLower, Bool.true_and, Bool.or_eq_true, decide_eq_true_eq, beq_iff_eq] at lower
    omega
  · intro lower
    by_contra after
    have notLower := parted.above index valid (Nat.not_lt.mp after)
    simp only [isLower, Bool.true_and, Bool.or_eq_false_iff, decide_eq_false_iff_not,
      beq_eq_false_iff_ne] at notLower
    omega

/-! ## Words in order -/

namespace WordIndex

/-- Every word has a first and a last character, and the next word begins behind it. -/
structure Ordered (index : WordIndex) : Prop where
  sizes : index.starts.size = index.lasts.size
  spans : ∀ word (valid : word < index.starts.size) (known : word < index.lasts.size),
    index.starts[word] ≤ index.lasts[word]
  gaps : ∀ word (valid : word + 1 < index.starts.size) (known : word < index.lasts.size),
    index.lasts[word] < index.starts[word + 1]

/-- The words so far are in order and end before the next offset. -/
structure Building (state : WordIndex × Bool × Nat) : Prop where
  ordered : state.1.Ordered
  before : ∀ word (valid : word < state.1.lasts.size), state.1.lasts[word] < state.2.2

/-- A word that begins behind all others keeps the order. -/
theorem Ordered.push {index : WordIndex} (ordered : index.Ordered) {offset : Nat}
    (before : ∀ word (valid : word < index.lasts.size), index.lasts[word] < offset) :
    Ordered ⟨index.starts.push offset, index.lasts.push offset⟩ := by
  have sizes := ordered.sizes
  refine ⟨by simp [sizes], ?_, ?_⟩
  · intro word valid known
    simp only [Array.getElem_push]
    by_cases old : word < index.starts.size
    · rw [dif_pos old, dif_pos (sizes ▸ old)]
      exact ordered.spans word old _
    · exact Nat.le_of_eq (by rw [dif_neg old, dif_neg (sizes ▸ old)])
  · intro word valid known
    simp only [Array.size_push] at valid
    have old : word < index.lasts.size := by omega
    simp only [Array.getElem_push, dif_pos old]
    by_cases inner : word + 1 < index.starts.size
    · rw [dif_pos inner]
      exact ordered.gaps word inner old
    · rw [dif_neg inner]
      exact before word old

/-- A last word that grows by a character keeps the order. -/
theorem Ordered.extend {index : WordIndex} (ordered : index.Ordered) {offset : Nat}
    (before : ∀ word (valid : word < index.lasts.size), index.lasts[word] < offset) :
    Ordered ⟨index.starts, index.lasts.setIfInBounds (index.lasts.size - 1) offset⟩ := by
  have sizes := ordered.sizes
  refine ⟨by simp [sizes], ?_, ?_⟩
  · intro word valid known
    dsimp only at valid known ⊢
    simp only [Array.size_setIfInBounds] at known
    have spans := ordered.spans word valid known
    have ends := before word known
    rw [Array.getElem_setIfInBounds known]
    split <;> omega
  · intro word valid known
    dsimp only at valid known ⊢
    simp only [Array.size_setIfInBounds] at known
    rw [Array.getElem_setIfInBounds known, if_neg (by omega)]
    exact ordered.gaps word valid known

theorem Building.step {state : WordIndex × Bool × Nat} (building : Building state)
    (char : Char) : Building (WordIndex.step state char) := by
  obtain ⟨index, inWord, offset⟩ := state
  obtain ⟨ordered, before⟩ := building
  unfold WordIndex.step
  dsimp only at before ⊢
  split
  · exact ⟨ordered, fun word valid => Nat.lt_succ_of_lt (before word valid)⟩
  · split
    · refine ⟨ordered.extend before, ?_⟩
      intro word valid
      simp only [Array.size_setIfInBounds] at valid
      have ends := before word valid
      simp only [Array.getElem_setIfInBounds valid]
      split <;> omega
    · refine ⟨ordered.push before, ?_⟩
      intro word valid
      simp only [Array.getElem_push]
      split
      · next old =>
          have ends := before word old
          omega
      · omega

/-- The index of a text is in order. -/
theorem ordered_build (content : Text) : (build content).Ordered := by
  have steps : ∀ (chars : List Char) (state : WordIndex × Bool × Nat),
      Building state → Building (chars.foldl WordIndex.step state) := by
    intro chars
    induction chars with
    | nil => exact fun _ building => building
    | cons char rest inductionHypothesis =>
        exact fun state building => inductionHypothesis _ (building.step char)
  have start : Building (empty, false, 0) :=
    ⟨⟨rfl, fun _ valid => absurd valid (Nat.not_lt_zero _),
      fun _ valid => absurd valid (Nat.not_lt_zero _)⟩,
      fun _ valid => absurd valid (Nat.not_lt_zero _)⟩
  unfold build
  rw [← Array.foldl_toList]
  exact (steps content.toList _ start).ordered

namespace Ordered

variable {index : WordIndex}

/-- Every word ends before a later one begins. -/
theorem last_lt_start (ordered : index.Ordered) {first second : Nat} (order : first < second)
    (valid : second < index.starts.size) (known : first < index.lasts.size) :
    index.lasts[first] < index.starts[second] := by
  induction second with
  | zero => exact absurd order (Nat.not_lt_zero _)
  | succ second inductionHypothesis =>
      have sizes := ordered.sizes
      have gap := ordered.gaps second valid (by omega)
      rcases Nat.lt_succ_iff_lt_or_eq.mp order with earlier | same
      · have rest := inductionHypothesis earlier (by omega)
        have span := ordered.spans second (by omega) (by omega)
        omega
      · subst same
        exact gap

theorem ascending_starts (ordered : index.Ordered) : Ascending index.starts := by
  intro first second inside order
  have sizes := ordered.sizes
  rcases Nat.lt_or_eq_of_le order with before | same
  · have apart := ordered.last_lt_start before inside (by omega)
    have span := ordered.spans first (by omega) (by omega)
    omega
  · subst same
    exact Nat.le_refl _

/-- The number of a word is looked up exactly for the offsets from its first to its last
character. -/
theorem wordOf?_eq_some_iff (ordered : index.Ordered) {offset word : Nat} :
    index.wordOf? offset = some word ↔
      ∃ (valid : word < index.starts.size) (known : word < index.lasts.size),
        index.starts[word] ≤ offset ∧ offset ≤ index.lasts[word] := by
  have sizes := ordered.sizes
  have ascending := ordered.ascending_starts
  have bounded := countUpTo_le_size ascending offset
  unfold wordOf?
  constructor
  · intro found
    split at found
    · cases found
    · next count counted =>
        have valid : count < index.starts.size := by omega
        have known : count < index.lasts.size := by omega
        rw [Array.getElem?_eq_getElem known] at found
        dsimp only at found
        split at found
        · next within =>
            cases found
            refine ⟨valid, known, ?_, within⟩
            exact (lt_countUpTo_iff ascending offset valid).mp (by omega)
        · cases found
  · rintro ⟨valid, known, begun, within⟩
    have before := (lt_countUpTo_iff ascending offset valid).mpr begun
    have counted : countUpTo index.starts offset = word + 1 := by
      rcases Nat.lt_or_eq_of_le before with more | same
      · have nextValid : word + 1 < index.starts.size := by omega
        have nextBegun := (lt_countUpTo_iff ascending offset nextValid).mp more
        have gap := ordered.gaps word nextValid known
        omega
      · exact same.symm
    rw [counted]
    simp only [Array.getElem?_eq_getElem known, if_pos within]

/-- Offsets further on never fall into earlier words. -/
theorem wordOf?_mono (ordered : index.Ordered) {first second firstWord secondWord : Nat}
    (order : first ≤ second) (firstFound : index.wordOf? first = some firstWord)
    (secondFound : index.wordOf? second = some secondWord) :
    firstWord ≤ secondWord := by
  obtain ⟨firstValid, _, begun, _⟩ := ordered.wordOf?_eq_some_iff.mp firstFound
  obtain ⟨_, secondKnown, _, within⟩ := ordered.wordOf?_eq_some_iff.mp secondFound
  by_contra later
  have apart := ordered.last_lt_start (Nat.lt_of_not_le later) firstValid secondKnown
  omega

end Ordered

end WordIndex

end BooleanSearch
