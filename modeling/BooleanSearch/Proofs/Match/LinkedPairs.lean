import BooleanSearch.Proofs.Match.CharacterFilter

/-!
# Linked pairs

Two operands should be near each other if some offsets of theirs are linked.  The scan passes at most
nine offsets on its way to a candidate, so it finds a linked pair as long as no ten offsets of the
second operand that follow each other stand outside words: of the offsets on the way to a linked one,
those in words are linked themselves.  At greater distances neither the filter nor the scan loses
anything.
-/

namespace BooleanSearch

open Query Proximity

/-! ## Offsets on the way to a linked one -/

namespace Proximity

variable {index : WordIndex} {distance : Nat} {left right : List Nat}

/-- Of any ten offsets that follow each other in order, one falls into a word. -/
def OftenInWords (index : WordIndex) (offsets : List Nat) : Prop :=
  ∀ window, window <:+: inOrder offsets → window.length = candidateCount →
    ∃ offset ∈ window, (index.wordOf? offset).isSome = true

/-- On the way to an offset a scan passes what it passes on its way to any offset before it. -/
theorem passedOver_mono {spots : List Nat} {origin near far : Nat}
    (order : (origin ≤ near ∧ near ≤ far) ∨ (far ≤ near ∧ near < origin)) :
    passedOver spots origin near ≤ passedOver spots origin far := by
  unfold passedOver
  refine List.countP_mono_left fun spot _ between => ?_
  simp only [Bool.or_eq_true, Bool.and_eq_true, decide_eq_true_eq] at between ⊢
  omega

/-- An offset in a word between two linked ones is linked to both. -/
theorem Linked.between (ordered : index.Ordered) {origin target spot : Nat}
    (linked : Linked index distance origin target) (inWord : (index.wordOf? spot).isSome = true)
    (order : (origin ≤ spot ∧ spot ≤ target) ∨ (target ≤ spot ∧ spot ≤ origin)) :
    Linked index distance origin spot := by
  obtain ⟨originWord, targetWord, originFound, targetFound, near⟩ := linked
  obtain ⟨spotWord, spotFound⟩ := Option.isSome_iff_exists.mp inWord
  refine ⟨originWord, spotWord, originFound, spotFound, ?_⟩
  rcases order with ⟨begun, within⟩ | ⟨within, begun⟩
  · have first := ordered.wordOf?_mono begun originFound spotFound
    have second := ordered.wordOf?_mono within spotFound targetFound
    omega
  · have first := ordered.wordOf?_mono begun spotFound originFound
    have second := ordered.wordOf?_mono within targetFound spotFound
    omega

theorem OftenInWords.exists_mem_extract (often : OftenInWords index right) (first : Nat)
    (inside : first + candidateCount ≤ right.length) :
    ∃ offset ∈ ((inOrder right).toArray.extract first (first + candidateCount)).toList,
      (index.wordOf? offset).isSome = true := by
  have length := (inOrder_perm right).length_eq
  refine often _ ?_ (by simp; omega)
  rw [Array.toList_extract, List.extract_eq_take_drop]
  exact (List.take_prefix _ _).isInfix.trans (List.drop_suffix _ _).isInfix

/-- The scan finds a candidate for every offset that is linked to one of the second list. -/
theorem exists_candidate_of_linked (ordered : index.Ordered) (often : OftenInWords index right)
    {origin target : Nat} (member : target ∈ right)
    (linked : Linked index distance origin target) :
    ∃ candidate ∈ right, Linked index distance origin candidate ∧
      passedOver right origin candidate < candidateCount := by
  have ascending := ascending_inOrder right
  have same := inOrder_perm right
  have bounded := countBelow_le_size ascending
  have below := countBelow_eq_countP ascending
  simp only [List.size_toArray, same.length_eq, same.countP_eq] at bounded below
  by_cases few : passedOver right origin target < candidateCount
  · exact ⟨target, member, linked, few⟩
  -- The candidates end before the linked offset, and one of them falls into a word.
  rcases Nat.lt_or_ge target origin with down | up
  · have counted := countP_upTo_add_passedOver right down
    rw [← below] at counted
    obtain ⟨spot, inWindow, inWord⟩ := often.exists_mem_extract
      (countBelow (inOrder right).toArray origin - candidateCount)
      (by have size := bounded origin; omega)
    rw [Nat.sub_add_cancel (by omega), mem_before_iff ascending, same.mem_iff,
      passedOver_perm same] at inWindow
    obtain ⟨begun, spotMember, spotFew⟩ := inWindow
    have within : target ≤ spot := by
      by_contra beyond
      exact few (Nat.lt_of_le_of_lt (passedOver_mono (by omega)) spotFew)
    exact ⟨spot, spotMember, linked.between ordered inWord (Or.inr ⟨within, by omega⟩), spotFew⟩
  · have counted := countP_below_add_passedOver right up
    rw [← below, ← below] at counted
    obtain ⟨spot, inWindow, inWord⟩ := often.exists_mem_extract
      (countBelow (inOrder right).toArray origin)
      (by have size := bounded target; omega)
    rw [mem_after_iff ascending, same.mem_iff, passedOver_perm same] at inWindow
    obtain ⟨begun, spotMember, spotFew⟩ := inWindow
    have within : spot ≤ target := by
      by_contra beyond
      exact few (Nat.lt_of_le_of_lt (passedOver_mono (by omega)) spotFew)
    exact ⟨spot, spotMember, linked.between ordered inWord (Or.inl ⟨begun, within⟩), spotFew⟩

/-- Some offset of the first list is linked to one of the second. -/
def SomeLinked (index : WordIndex) (distance : Nat) (left right : List Nat) : Prop :=
  ∃ first ∈ left, ∃ second ∈ right, Linked index distance first second

instance (index : WordIndex) (distance : Nat) (left right : List Nat) :
    Decidable (SomeLinked index distance left right) :=
  inferInstanceAs (Decidable (∃ first ∈ left, ∃ second ∈ right,
    Linked index distance first second))

theorem reaches_iff_someLinked (ordered : index.Ordered) (often : OftenInWords index right) :
    Reaches index distance left right ↔ SomeLinked index distance left right := by
  constructor
  · rintro ⟨offset, offsetMember, candidate, candidateMember, linked, -⟩
    exact ⟨offset, offsetMember, candidate, candidateMember, linked⟩
  · rintro ⟨first, firstMember, second, secondMember, linked⟩
    exact ⟨first, firstMember, exists_candidate_of_linked ordered often secondMember linked⟩

end Proximity

/-! ## All pairs -/

variable {fuzzily : Bool} {content : Text} {options : MatchOptions}

/-- Without remembered verdicts, a proximity of two operands that contribute offsets, few on one
side, holds exactly if some of their offsets are linked, as long as of any ten offsets of the second
operand that follow each other one falls into a word. -/
theorem evaluateNear_eq_someLinked {scope : Scope} {session : Session}
    (forgetful : session.Forgetful scope) (admitted : scope.Admits content options)
    {left right : Expr} {leftSpots rightSpots : List Nat}
    (leftFound : (resolvePositions content left options).answer session = .ok leftSpots)
    (rightFound : (resolvePositions content right options).answer session = .ok rightSpots)
    (few : leftSpots.length ≤ filterSize ∨ rightSpots.length ≤ filterSize)
    (often : OftenInWords (WordIndex.build content) rightSpots) (distance : Nat) :
    (evaluateNear content left right (.int distance) options).answer session =
      .ok (decide (SomeLinked (WordIndex.build content) distance leftSpots rightSpots)) := by
  rw [forgetful.answer_resolvePositions admitted] at leftFound rightFound
  rw [forgetful.answer_evaluateNear admitted, verdict_near_of_resolved leftFound rightFound,
    Except.ok.injEq, Bool.eq_iff_iff, decide_eq_true_iff,
    ← reaches_iff_someLinked (WordIndex.ordered_build content) often]
  have notFar : ¬ FarApart distance leftSpots rightSpots := by
    rintro ⟨leftMany, rightMany, -⟩
    omega
  rw [and_spotsNear_eq_scanVerdict_iff.mpr (Or.inl notFar)]
  exact holds_inOrder_iff content distance leftSpots rightSpots

/-- Nine blanks between two words. -/
def nineBlanks : Text := Text.ofString "a         b"

/-- Nine blanks do not hide the second word from the first one. -/
theorem evaluateNear_of_nine_blanks :
    (evaluateNear nineBlanks (.literal (.plain "a")) (.literal (.pattern "\\s|b" "")) (.int 1)
      {}).answer bareSession = .ok true := by
  have leftFound : resolvedSpots false nineBlanks (.literal (.plain "a")) {} = .ok [0] :=
    congrArg Except.ok (by decide +kernel : termSpots false nineBlanks (.plain "a") {} .near = [0])
  have rightFound : resolvedSpots false nineBlanks (.literal (.pattern "\\s|b" "")) {} =
      .ok [1, 2, 3, 4, 5, 6, 7, 8, 9, 10] :=
    congrArg Except.ok (by decide +kernel :
      termSpots false nineBlanks (.pattern "\\s|b" "") {} .near = [1, 2, 3, 4, 5, 6, 7, 8, 9, 10])
  have often : OftenInWords (WordIndex.build nineBlanks) [1, 2, 3, 4, 5, 6, 7, 8, 9, 10] := by
    intro window inside full
    have whole := inside.eq_of_length (by rw [full, (inOrder_perm _).length_eq]; rfl)
    exact ⟨10, by rw [whole, (inOrder_perm _).mem_iff]; decide, by decide +kernel⟩
  have answers := forgetful_bareSession.answer_resolvePositions
    (Scope.admits_everything nineBlanks {})
  refine (evaluateNear_eq_someLinked forgetful_bareSession (Scope.admits_everything nineBlanks {})
    ((answers _).trans leftFound) ((answers _).trans rightFound) (Or.inl (by decide)) often 1).trans
    (congrArg _ ?_)
  decide +kernel

/-! ## Greater distances -/

namespace Proximity

variable {index : WordIndex} {distance larger : Nat} {left right : List Nat}

theorem SomeWithin.mono {limit wider : Nat} (order : limit ≤ wider)
    (within : SomeWithin limit left right) : SomeWithin wider left right := by
  obtain ⟨first, firstMember, second, secondMember, near⟩ := within
  exact ⟨first, firstMember, second, secondMember, Nat.le_trans near order⟩

/-- What a distance refuses, smaller distances refuse. -/
theorem FarApart.anti (order : distance ≤ larger) (far : FarApart larger left right) :
    FarApart distance left right := by
  obtain ⟨leftMany, rightMany, apart⟩ := far
  have limits : distance * averageWord * 2 ≤ larger * averageWord * 2 :=
    Nat.mul_le_mul_right _ (Nat.mul_le_mul_right _ order)
  exact ⟨leftMany, rightMany, fun within => apart (within.mono limits)⟩

theorem Linked.mono (order : distance ≤ larger) {first second : Nat}
    (linked : Linked index distance first second) : Linked index larger first second := by
  obtain ⟨firstWord, secondWord, firstFound, secondFound, near⟩ := linked
  exact ⟨firstWord, secondWord, firstFound, secondFound, Nat.le_trans near order⟩

/-- The candidates of the scan do not depend on the distance. -/
theorem Reaches.mono (order : distance ≤ larger) (reached : Reaches index distance left right) :
    Reaches index larger left right := by
  obtain ⟨offset, offsetMember, candidate, candidateMember, linked, few⟩ := reached
  exact ⟨offset, offsetMember, candidate, candidateMember, linked.mono order, few⟩

end Proximity

theorem spotsNear_mono {distance larger : Nat} (order : distance ≤ larger)
    {left right : List Nat} (near : spotsNear content distance left right = true) :
    spotsNear content larger left right = true := by
  obtain ⟨notFar, reached⟩ := spotsNear_iff.mp near
  exact spotsNear_iff.mpr ⟨fun far => notFar (far.anti order), reached.mono order⟩

theorem verdict_near_mono {left right : Expr} {distance larger : Nat} (order : distance ≤ larger)
    (holds : verdict fuzzily content options (.near left right (.int distance)) = .ok true) :
    verdict fuzzily content options (.near left right (.int larger)) = .ok true := by
  obtain ⟨count, leftSpots, rightSpots, valid, present, leftFound, rightFound, near⟩ :=
    exists_spots_of_proximityVerdict holds
  cases valid
  rw [verdict_near_of_resolved leftFound rightFound, present, spotsNear_mono order near]
  rfl

/-- Without remembered verdicts, a proximity that holds at a distance holds at every greater one,
whether or not the filter or the number of candidates limits what is looked at. -/
theorem evaluateNear_mono {scope : Scope} {first second : Session}
    (firstForgetful : first.Forgetful scope) (secondForgetful : second.Forgetful scope)
    (admitted : scope.Admits content options) (left right : Expr) {distance larger : Nat}
    (order : distance ≤ larger)
    (holds : (evaluateNear content left right (.int distance) options).answer first = .ok true) :
    (evaluateNear content left right (.int larger) options).answer second = .ok true := by
  rw [firstForgetful.answer_evaluateNear admitted] at holds
  rw [secondForgetful.answer_evaluateNear admitted]
  exact verdict_near_mono order holds

/-- Letters of one run that are near each other at a word's distance are so at nine words'. -/
theorem evaluateNear_mono_letterRun :
    (evaluateNear letterRun (.literal (.plain "a")) (.literal (.plain "b")) (.int 9) {}).answer
      bareSession = .ok true := by
  have near : (evaluateNear letterRun (.literal (.plain "a")) (.literal (.plain "b"))
      (.int (1 : Nat)) {}).answer bareSession = .ok true := by
    rw [forgetful_bareSession.answer_evaluateNear (Scope.admits_everything letterRun {})]
    refine (verdict_near_of_resolved resolvedSpots_letterRun_a resolvedSpots_letterRun_b 1).trans
      (congrArg _ ?_)
    rw [Bool.and_eq_true, spotsNear_iff]
    decide +kernel
  exact evaluateNear_mono forgetful_bareSession forgetful_bareSession
    (Scope.admits_everything letterRun {}) _ _ (by decide : 1 ≤ 9) near

end BooleanSearch
