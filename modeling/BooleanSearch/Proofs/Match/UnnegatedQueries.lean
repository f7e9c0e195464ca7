import BooleanSearch.Proofs.Match.Nearness

/-!
# Queries without negations

A query without negations holds only of a content in which one of its terms stands, so it has offsets
to measure from as an operand of a proximity.  This needs terms to be found alike on their own and in
a proximity; a term that is only found fuzzily on its own would leave its query without offsets.
-/

namespace BooleanSearch

open Query Proximity

/-- A query without negations. -/
inductive Unnegated : Expr → Prop
  | literal (term : Literal) : Unnegated (.literal term)
  | and {left right : Expr} : Unnegated left → Unnegated right → Unnegated (.and left right)
  | or {left right : Expr} : Unnegated left → Unnegated right → Unnegated (.or left right)
  | near {left right : Expr} (distance : Value) :
      Unnegated left → Unnegated right → Unnegated (.near left right distance)

/-! ## Offsets of terms and operands -/

variable {fuzzily : Bool} {content : Text} {options : MatchOptions}

theorem mem_sortedUnion {offsets : List Nat} {offset : Nat} :
    offset ∈ sortedUnion offsets ↔ offset ∈ offsets := by
  unfold sortedUnion
  rw [← (inOrder_perm offsets).mem_iff]
  induction inOrder offsets with
  | nil => rfl
  | cons first rest inductionHypothesis =>
      rw [List.foldr_cons, List.mem_cons, ← inductionHypothesis]
      split
      · next repeated =>
          have member := List.mem_of_mem_head? (Option.mem_def.mpr (beq_iff_eq.mp repeated))
          exact ⟨Or.inr, fun either => either.elim (fun same => same ▸ member) id⟩
      · exact List.mem_cons

/-- Some term of a query that does not stand below a negation is found in a proximity. -/
def HasSpots (fuzzily : Bool) (content : Text) (options : MatchOptions) (query : Expr) : Prop :=
  ∃ term ∈ query.positiveLiterals, termSpots fuzzily content term options .near ≠ []

theorem querySpots_ne_nil_iff {query : Expr} :
    querySpots fuzzily content query options .near ≠ [] ↔
      HasSpots fuzzily content options query := by
  unfold querySpots HasSpots
  simp only [ne_eq, List.eq_nil_iff_forall_not_mem, mem_sortedUnion, List.mem_flatMap]
  push Not
  exact ⟨fun ⟨offset, term, member, stands⟩ => ⟨term, member, offset, stands⟩,
    fun ⟨term, member, offset, stands⟩ => ⟨offset, term, member, stands⟩⟩

theorem HasSpots.mono {query larger : Expr} (has : HasSpots fuzzily content options query)
    (subset : ∀ term ∈ query.positiveLiterals, term ∈ larger.positiveLiterals) :
    HasSpots fuzzily content options larger := by
  obtain ⟨term, member, stands⟩ := has
  exact ⟨term, subset term member, stands⟩

/-- A term is found alike wherever it is matched. -/
theorem termSpots_near_eq_leaf (alike : options.fuzzy = options.fuzzyNear) (term : Literal) :
    termSpots fuzzily content term options .near =
      termSpots fuzzily content term options .leaf := by
  have allowed : options.fuzzyAllowed .near = options.fuzzyAllowed .leaf := alike.symm
  cases term with
  | plain text => exact congrArg (textSpots fuzzily content text options) allowed
  | pattern source letters => rfl
  | fuzzy text => rfl

/-- An operand that contributes offsets holds. -/
theorem verdict_of_resolvedSpots (alike : options.fuzzy = options.fuzzyNear) {operand : Expr}
    {spots : List Nat} (given : resolvedSpots fuzzily content operand options = .ok spots)
    (some_ : spots ≠ []) : verdict fuzzily content options operand = .ok true := by
  rcases term_or_verdict_of_operandSpots given some_ with ⟨term, rfl, found⟩ | satisfied
  · rw [termSpots_near_eq_leaf alike] at found
    simpa [verdict] using found
  · exact satisfied

theorem verdict_of_near (alike : options.fuzzy = options.fuzzyNear) {left right : Expr}
    {distance : Value}
    (holds : verdict fuzzily content options (.near left right distance) = .ok true) :
    verdict fuzzily content options left = .ok true ∧
      verdict fuzzily content options right = .ok true := by
  obtain ⟨_, leftSpots, rightSpots, -, -, leftGiven, rightGiven, near⟩ :=
    exists_spots_of_proximityVerdict holds
  obtain ⟨leftSome, rightSome⟩ := ne_nil_of_spotsNear near
  exact ⟨verdict_of_resolvedSpots alike leftGiven leftSome,
    verdict_of_resolvedSpots alike rightGiven rightSome⟩

/-! ## Queries without negations -/

namespace Unnegated

variable {query : Expr}

/-- A query without negations that holds has a term that is found. -/
theorem hasSpots (alike : options.fuzzy = options.fuzzyNear) (unnegated : Unnegated query)
    (holds : verdict fuzzily content options query = .ok true) :
    HasSpots fuzzily content options query := by
  induction unnegated with
  | literal term =>
      refine ⟨term, List.mem_singleton_self _, ?_⟩
      rw [termSpots_near_eq_leaf alike]
      simpa [verdict] using holds
  | @and left right _ _ leftHypothesis _ =>
      unfold verdict at holds
      obtain ⟨value, given, continued⟩ := exists_of_bind_eq_ok holds
      cases value with
      | false => cases continued
      | true => exact (leftHypothesis given).mono fun _ => List.mem_append_left _
  | @or left right _ _ leftHypothesis rightHypothesis =>
      unfold verdict at holds
      obtain ⟨value, given, continued⟩ := exists_of_bind_eq_ok holds
      cases value with
      | true => exact (leftHypothesis given).mono fun _ => List.mem_append_left _
      | false => exact (rightHypothesis continued).mono fun _ => List.mem_append_right _
  | @near left right distance _ _ leftHypothesis _ =>
      have satisfied := verdict_of_near alike holds
      exact (leftHypothesis satisfied.1).mono fun _ => List.mem_append_left _

/-- As an operand, a query without negations contributes offsets exactly if it holds; it never lacks
offsets to measure from. -/
theorem exists_resolvedSpots (alike : options.fuzzy = options.fuzzyNear)
    (fits : Fits content options) (unnegated : Unnegated query) :
    ∃ spots, resolvedSpots fuzzily content query options = .ok spots ∧
      (spots ≠ [] ↔ verdict fuzzily content options query = .ok true) := by
  obtain ⟨value, given⟩ := exists_verdict fuzzily fits query
  have composite : ∃ spots, (do
      sizeVerdict content options
      if ← (Except.ok value : Except Failure Bool) then
        if (querySpots fuzzily content query options .near).isEmpty then
          .error (noPositions query)
        else .ok (querySpots fuzzily content query options .near)
      else .ok []) = .ok spots ∧ (spots ≠ [] ↔ value = true) := by
    rw [sizeVerdict_of_fits fits]
    cases value with
    | false => exact ⟨[], rfl, by simp⟩
    | true =>
        have some_ := querySpots_ne_nil_iff.mpr (unnegated.hasSpots alike given)
        exact ⟨_, if_neg (by simpa using some_), by simpa using some_⟩
  unfold resolvedSpots
  rw [given, Except.ok.injEq]
  cases unnegated with
  | literal term =>
      refine ⟨_, rfl, ?_⟩
      rw [termSpots_near_eq_leaf alike, ← Except.ok.inj given]
      simp
  | and => exact composite
  | or => exact composite
  | near => exact composite

end Unnegated

/-- Without remembered verdicts, in a content within the size limit and with terms found alike
everywhere: a query without negations that holds has offsets, as an operand it contributes some exactly
if it holds, and a proximity that holds has operands that both hold. -/
theorem evaluate_gives_positions {scope : Scope} {first second : Session}
    (firstForgetful : first.Forgetful scope) (secondForgetful : second.Forgetful scope)
    (admitted : scope.Admits content options) (fits : Fits content options)
    (alike : options.fuzzy = options.fuzzyNear) :
    (∀ query, Unnegated query →
      ((evaluate query content options).answer first = .ok true →
        ∃ spots, (positions content query options .near).answer second = .ok spots ∧
          spots ≠ []) ∧
      ∃ spots, (resolvePositions content query options).answer second = .ok spots ∧
        (spots ≠ [] ↔ (evaluate query content options).answer first = .ok true)) ∧
    ∀ left right distance,
      (evaluate (.near left right distance) content options).answer first = .ok true →
      (evaluate (.and left right) content options).answer second = .ok true := by
  have decided : ∀ query, queryVerdict scope.fuzzily query content options =
      verdict scope.fuzzily content options query := by
    intro query
    unfold queryVerdict
    rw [sizeVerdict_of_fits fits]
    rfl
  simp only [firstForgetful.answer_evaluate admitted, secondForgetful.answer_evaluate admitted,
    secondForgetful.answer_positions admitted, secondForgetful.answer_resolvePositions admitted,
    decided]
  refine ⟨fun query unnegated => ⟨fun holds => ?_, ?_⟩, fun left right distance holds => ?_⟩
  · exact ⟨_, rfl, querySpots_ne_nil_iff.mpr (unnegated.hasSpots alike holds)⟩
  · exact unnegated.exists_resolvedSpots alike fits
  · obtain ⟨leftHolds, rightHolds⟩ := verdict_of_near alike holds
    unfold verdict
    rw [leftHolds]
    exact rightHolds

/-- A proximity with a disjunction on one side. -/
def nearRedOrBlue : Expr :=
  .near (.or (.literal (.plain "blue")) (.literal (.plain "red"))) (.literal (.plain "fox")) (.int 1)

/-- In a content with a red fox, the proximity has offsets to measure from. -/
theorem evaluate_gives_positions_of_redFox :
    ∃ spots, (positions (Text.ofString "red fox") nearRedOrBlue {} .near).answer bareSession =
      .ok spots ∧ spots ≠ [] := by
  have unnegated : Unnegated nearRedOrBlue :=
    .near _ (.or (.literal _) (.literal _)) (.literal _)
  have fits : Fits (Text.ofString "red fox") {} := fits_of_no_limit rfl
  have holds : (evaluate nearRedOrBlue (Text.ofString "red fox") {}).answer bareSession =
      .ok true := by
    rw [forgetful_bareSession.answer_evaluate (Scope.admits_everything _ {}),
      queryVerdict_eq_judgement _ fits]
    exact congrArg _ (by decide +kernel)
  exact ((evaluate_gives_positions forgetful_bareSession forgetful_bareSession
    (Scope.admits_everything _ {}) fits rfl).1 _ unnegated).1 holds

end BooleanSearch
