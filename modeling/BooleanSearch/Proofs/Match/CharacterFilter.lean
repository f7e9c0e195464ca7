import BooleanSearch.Proofs.Match.Nearness

/-!
# The filter by characters

Before words are compared, two long lists of offsets are refused if all their pairs are further
apart than two average words for each word of the distance.  Words may be longer than that, and two
offsets in one word are not apart at all in words, so the filter may refuse what the scan would
find.  It never does so exactly in contents in which no run of words is longer than the filter
allows.
-/

namespace BooleanSearch

open Query Proximity

namespace Proximity

/-- No offset of the first list is linked to one of the second. -/
def NoneLinked (index : WordIndex) (distance : Nat) (left right : List Nat) : Prop :=
  ∀ first ∈ left, ∀ second ∈ right, ¬ Linked index distance first second

instance (index : WordIndex) (distance : Nat) (left right : List Nat) :
    Decidable (NoneLinked index distance left right) :=
  inferInstanceAs (Decidable (∀ first ∈ left, ∀ second ∈ right,
    ¬ Linked index distance first second))

end Proximity

/-! ## Contents without long runs of words -/

namespace WordIndex

/-- From the first character of a word to the last one of a word at most `distance` words on, there
are at most `limit` characters. -/
def Compact (index : WordIndex) (distance limit : Nat) : Prop :=
  ∀ first last (valid : first < index.starts.size) (known : last < index.lasts.size),
    first ≤ last → last ≤ first + distance → index.lasts[last] - index.starts[first] ≤ limit

variable {index : WordIndex} {distance limit : Nat}

/-- In a compact content, offsets in nearby words are close by characters. -/
theorem Compact.natAbs_sub_le (compact : index.Compact distance limit) (ordered : index.Ordered)
    {first second : Nat} (linked : Linked index distance first second) :
    ((first : Int) - (second : Int)).natAbs ≤ limit := by
  obtain ⟨firstWord, secondWord, firstFound, secondFound, near⟩ := linked
  obtain ⟨firstValid, firstKnown, firstBegun, firstWithin⟩ :=
    ordered.wordOf?_eq_some_iff.mp firstFound
  obtain ⟨secondValid, secondKnown, secondBegun, secondWithin⟩ :=
    ordered.wordOf?_eq_some_iff.mp secondFound
  rcases Nat.le_total first second with order | order
  · have words := ordered.wordOf?_mono order firstFound secondFound
    have span := compact firstWord secondWord firstValid secondKnown words (by omega)
    omega
  · have words := ordered.wordOf?_mono order secondFound firstFound
    have span := compact secondWord firstWord secondValid firstKnown words (by omega)
    omega

theorem Ordered.wordOf?_start (ordered : index.Ordered) {word : Nat}
    (valid : word < index.starts.size) : index.wordOf? index.starts[word] = some word := by
  have known : word < index.lasts.size := ordered.sizes ▸ valid
  exact ordered.wordOf?_eq_some_iff.mpr
    ⟨valid, known, Nat.le_refl _, ordered.spans word valid known⟩

theorem Ordered.wordOf?_last (ordered : index.Ordered) {word : Nat}
    (known : word < index.lasts.size) : index.wordOf? index.lasts[word] = some word := by
  have valid : word < index.starts.size := ordered.sizes ▸ known
  exact ordered.wordOf?_eq_some_iff.mpr
    ⟨valid, known, ordered.spans word valid known, Nat.le_refl _⟩

end WordIndex

/-- The filter refuses no linked pairs, whatever the offsets, exactly in compact contents. -/
theorem farApart_noneLinked_iff {index : WordIndex} (ordered : index.Ordered) {distance : Nat} :
    (∀ left right, FarApart distance left right → NoneLinked index distance left right) ↔
      index.Compact distance (distance * averageWord * 2) := by
  constructor
  · intro sound first last valid known order near
    by_contra long
    -- Both ends of the run, often enough for the filter to look at them.
    have far : FarApart distance (List.replicate (filterSize + 1) index.starts[first])
        (List.replicate (filterSize + 1) index.lasts[last]) := by
      refine ⟨by simp, by simp, ?_⟩
      rintro ⟨begin_, beginMember, end_, endMember, within⟩
      rw [List.eq_of_mem_replicate beginMember, List.eq_of_mem_replicate endMember] at within
      omega
    refine sound _ _ far index.starts[first] (by simp) index.lasts[last] (by simp) ?_
    exact ⟨first, last, ordered.wordOf?_start valid, ordered.wordOf?_last known, by omega⟩
  · rintro compact left right ⟨-, -, far⟩ first firstMember second secondMember linked
    exact far ⟨first, firstMember, second, secondMember, compact.natAbs_sub_le ordered linked⟩

/-! ## The filter and the scan -/

/-- What the scan for words alone says about two lists of offsets. -/
def scanVerdict (content : Text) (distance : Nat) (left right : List Nat) : Bool :=
  Proximity.holds (WordIndex.build content) (inOrder left).toArray (inOrder right).toArray distance

variable {fuzzily : Bool} {content : Text} {options : MatchOptions}

theorem scanVerdict_of_empty (empty : content.isEmpty = true) (distance : Nat)
    (left right : List Nat) : scanVerdict content distance left right = false := by
  have nothing : content = #[] := Array.isEmpty_iff.mp empty
  unfold scanVerdict
  rw [Bool.eq_false_iff, ne_eq, holds_inOrder_iff, nothing]
  rintro ⟨first, -, second, -, ⟨firstWord, -, found, -⟩, -⟩
  obtain ⟨valid, -⟩ := (WordIndex.ordered_build #[]).wordOf?_eq_some_iff.mp found
  exact absurd valid (Nat.not_lt_zero _)

/-- The filter changes nothing exactly if it lets the offsets pass or the scan reaches no pair. -/
theorem and_spotsNear_eq_scanVerdict_iff {distance : Nat} {left right : List Nat} :
    (!content.isEmpty && spotsNear content distance left right) =
        scanVerdict content distance left right ↔
      ¬ FarApart distance left right ∨
        ¬ Reaches (WordIndex.build content) distance left right := by
  have scanned := holds_inOrder_iff content distance left right
  cases present : content.isEmpty with
  | true =>
      have nothing := scanVerdict_of_empty present distance left right
      unfold scanVerdict at nothing ⊢
      rw [nothing] at scanned ⊢
      simpa using Or.inr fun reached => Bool.false_ne_true (scanned.mpr reached)
  | false =>
      unfold scanVerdict
      rw [Bool.not_false, Bool.true_and, Bool.eq_iff_iff, spotsNear_iff, scanned]
      by_cases far : FarApart distance left right
      · simp [far]
      · simp [far]

/-- Two operands that contribute offsets are near each other if their offsets are, whatever the size
of the content. -/
theorem verdict_near_of_resolved {left right : Expr} {leftSpots rightSpots : List Nat}
    (leftFound : resolvedSpots fuzzily content left options = .ok leftSpots)
    (rightFound : resolvedSpots fuzzily content right options = .ok rightSpots)
    (distance : Nat) :
    verdict fuzzily content options (.near left right (.int distance)) =
      .ok (!content.isEmpty && spotsNear content distance leftSpots rightSpots) := by
  cases present : content.isEmpty with
  | true => exact verdict_near_of_empty present left right distance
  | false =>
      rw [verdict_near_of_present present, leftFound, rightFound]
      exact tolerated_measureVerdict left right (Or.inl rfl) (Or.inl rfl)

/-- For operands with many offsets, the filter refuses no linked pair exactly if some pair is close
by characters or no pair is linked, and it leaves the verdict to the scan exactly if some pair is
close by characters or the scan reaches none.  A content is safe for all offsets exactly if it is
compact. -/
theorem evaluateNear_filter_iff {scope : Scope} {session : Session}
    (forgetful : session.Forgetful scope) (admitted : scope.Admits content options)
    {left right : Expr} {leftSpots rightSpots : List Nat}
    (leftFound : resolvedSpots scope.fuzzily content left options = .ok leftSpots)
    (rightFound : resolvedSpots scope.fuzzily content right options = .ok rightSpots)
    (leftMany : filterSize < leftSpots.length) (rightMany : filterSize < rightSpots.length)
    (distance : Nat) :
    ((anyWithin (inOrder leftSpots).toArray (inOrder rightSpots).toArray
          (distance * averageWord * 2) = false →
        NoneLinked (WordIndex.build content) distance leftSpots rightSpots) ↔
      SomeWithin (distance * averageWord * 2) leftSpots rightSpots ∨
        NoneLinked (WordIndex.build content) distance leftSpots rightSpots) ∧
    ((evaluateNear content left right (.int distance) options).answer session =
        .ok (scanVerdict content distance leftSpots rightSpots) ↔
      SomeWithin (distance * averageWord * 2) leftSpots rightSpots ∨
        ¬ Reaches (WordIndex.build content) distance leftSpots rightSpots) ∧
    ((∀ someLeft someRight, FarApart distance someLeft someRight →
        NoneLinked (WordIndex.build content) distance someLeft someRight) ↔
      (WordIndex.build content).Compact distance (distance * averageWord * 2)) := by
  refine ⟨?_, ?_, farApart_noneLinked_iff (WordIndex.ordered_build content)⟩
  · have within : anyWithin (inOrder leftSpots).toArray (inOrder rightSpots).toArray
        (distance * averageWord * 2) = true ↔
          SomeWithin (distance * averageWord * 2) leftSpots rightSpots := by
      rw [anyWithin_iff (ascending_inOrder rightSpots)]
      exact someWithin_perm (inOrder_perm leftSpots) (inOrder_perm rightSpots)
    rw [← Bool.not_eq_true, within]
    exact Classical.or_iff_not_imp_left.symm
  · have farApart : FarApart distance leftSpots rightSpots ↔
        ¬ SomeWithin (distance * averageWord * 2) leftSpots rightSpots :=
      ⟨fun far => far.2.2, fun apart => ⟨leftMany, rightMany, apart⟩⟩
    rw [forgetful.answer_evaluateNear admitted, verdict_near_of_resolved leftFound rightFound,
      Except.ok.injEq, and_spotsNear_eq_scanVerdict_iff, farApart, not_not]

/-- Two letters in turn, eleven times each, in one word. -/
def letterRun : Text := Text.ofString "ababababababababababab"

theorem resolvedSpots_letterRun_a :
    resolvedSpots false letterRun (.literal (.plain "a")) {} =
      .ok [0, 2, 4, 6, 8, 10, 12, 14, 16, 18, 20] :=
  congrArg Except.ok (by decide +kernel :
    termSpots false letterRun (.plain "a") {} .near = [0, 2, 4, 6, 8, 10, 12, 14, 16, 18, 20])

theorem resolvedSpots_letterRun_b :
    resolvedSpots false letterRun (.literal (.plain "b")) {} =
      .ok [1, 3, 5, 7, 9, 11, 13, 15, 17, 19, 21] :=
  congrArg Except.ok (by decide +kernel :
    termSpots false letterRun (.plain "b") {} .near = [1, 3, 5, 7, 9, 11, 13, 15, 17, 19, 21])

/-- At a distance of a word, the letters of the run are close enough for the filter. -/
theorem evaluateNear_filter_of_adjacent_letters :
    (evaluateNear letterRun (.literal (.plain "a")) (.literal (.plain "b")) (.int 1) {}).answer
        bareSession =
      .ok (scanVerdict letterRun 1 [0, 2, 4, 6, 8, 10, 12, 14, 16, 18, 20]
        [1, 3, 5, 7, 9, 11, 13, 15, 17, 19, 21]) :=
  ((evaluateNear_filter_iff forgetful_bareSession (Scope.admits_everything letterRun {})
    resolvedSpots_letterRun_a resolvedSpots_letterRun_b (by decide) (by decide) 1).2.1.mpr
      (Or.inl (by decide)))

/-- At a distance of no words, the filter refuses letters that stand next to each other in one
word. -/
theorem evaluateNear_filter_refuses :
    (evaluateNear letterRun (.literal (.plain "a")) (.literal (.plain "b")) (.int 0) {}).answer
        bareSession = .ok false ∧
      scanVerdict letterRun 0 [0, 2, 4, 6, 8, 10, 12, 14, 16, 18, 20]
        [1, 3, 5, 7, 9, 11, 13, 15, 17, 19, 21] = true ∧
      Linked (WordIndex.build letterRun) 0 0 1 := by
  refine ⟨?_, ?_, by decide +kernel⟩
  · rw [forgetful_bareSession.answer_evaluateNear (Scope.admits_everything letterRun {})]
    refine (verdict_near_of_resolved resolvedSpots_letterRun_a resolvedSpots_letterRun_b 0).trans
      (congrArg _ ?_)
    rw [Bool.and_eq_false_iff, ← Bool.not_eq_true (spotsNear _ _ _ _), spotsNear_iff]
    exact Or.inr (by decide +kernel)
  · unfold scanVerdict
    rw [holds_inOrder_iff]
    decide +kernel

end BooleanSearch
