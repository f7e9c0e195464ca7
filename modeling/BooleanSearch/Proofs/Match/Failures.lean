import BooleanSearch.Match.Evaluate
import BooleanSearch.Proofs.Session.Caches

/-!
# How evaluations fail

Whatever a session remembers, looking for terms never fails, and an evaluation fails only for a content
beyond the size limit: arguments that a proximity cannot use are reported and count as no match.
-/

namespace BooleanSearch

open Cache Query

/-- Whatever the session, a step fails only with failures of a class. -/
def FailsOnly {α : Type} (allowed : Failure → Prop) (step : Search α) : Prop :=
  ∀ session failure, step.answer session = .error failure → allowed failure

namespace FailsOnly

variable {α β : Type} {allowed : Failure → Prop}

theorem mono {step : Search α} {other : Failure → Prop} (fails : FailsOnly allowed step)
    (weaker : ∀ failure, allowed failure → other failure) : FailsOnly other step :=
  fun session failure failed => weaker failure (fails session failure failed)

theorem pure (value : α) : FailsOnly allowed (Pure.pure value) :=
  fun _ _ failed => nomatch failed

theorem throw {failure : Failure} (known : allowed failure) :
    FailsOnly allowed (MonadExcept.throw failure : Search α) := by
  intro session other failed
  cases failed
  exact known

theorem bind {step : Search α} {rest : α → Search β} (first : FailsOnly allowed step)
    (second : ∀ value, FailsOnly allowed (rest value)) : FailsOnly allowed (step >>= rest) := by
  intro session failure failed
  unfold Search.answer at failed
  cases given : step.answer session with
  | ok value =>
      rw [Search.run_bind_of_ok given] at failed
      exact second value _ failure failed
  | error other =>
      rw [Search.run_bind_of_error given] at failed
      cases failed
      exact first session failure given

theorem get_bind {step : Session → Search α} (steps : ∀ session, FailsOnly allowed (step session)) :
    FailsOnly allowed (get >>= step) :=
  bind (fun _ _ failed => nomatch failed) steps

theorem ite {condition : Prop} [Decidable condition] {yes no : Search α}
    (ifYes : FailsOnly allowed yes) (ifNo : FailsOnly allowed no) :
    FailsOnly allowed (if condition then yes else no) := by
  by_cases truth : condition
  · simpa only [if_pos truth] using ifYes
  · simpa only [if_neg truth] using ifNo

/-- A handler takes up the failures of the first step. -/
theorem tryCatch {step : Search α} {handler : Failure → Search α} {caught : Failure → Prop}
    (steps : FailsOnly caught step)
    (handles : ∀ failure, caught failure → FailsOnly allowed (handler failure)) :
    FailsOnly allowed (MonadExcept.tryCatch step handler) := by
  intro session failure failed
  unfold Search.answer at failed
  cases given : step.answer session with
  | ok value =>
      rw [Search.run_tryCatch_of_ok given] at failed
      cases failed
  | error other =>
      rw [Search.run_tryCatch_of_error given] at failed
      exact handles other (steps session other given) _ failure failed

variable {ν : Type} {cache : Session → Option (Lru String ν)}
  {store : Session → Lru String ν → Session} {key : Text → String} {content : Text}

/-- Only computing can fail. -/
theorem cached {compute : Search ν} (computes : FailsOnly allowed compute) :
    FailsOnly allowed (Search.cached cache store key content compute) := by
  have looks : FailsOnly allowed (Search.lookUp cache store key content) := by
    unfold Search.lookUp
    refine get_bind fun session => ?_
    split
    · exact pure none
    · exact bind (fun _ _ failed => nomatch failed) fun _ => pure _
  have keeps : ∀ value, FailsOnly allowed (Search.keep cache store key content value) :=
    fun _ _ _ failed => nomatch failed
  unfold Search.cached
  refine bind looks fun found => ?_
  split
  · exact pure _
  · exact bind computes fun value => bind (keeps value) fun _ => pure value

end FailsOnly

/-! ## Terms -/

section

variable {allowed : Failure → Prop} {content : Text} {options : MatchOptions}

theorem failsOnly_report (record : Log.Record) : FailsOnly allowed (Search.report record) :=
  fun _ _ failed => nomatch failed

theorem failsOnly_textPositions (text : String) (fuzzyAllowed : Bool) :
    FailsOnly allowed (textPositions content text options fuzzyAllowed) := by
  unfold textPositions
  refine .ite (.pure _) ?_
  split
  · refine .get_bind fun session => .ite (.bind ?_ fun result => ?_) (.pure _)
    · unfold Search.fuzzySearch
      exact .ite (.cached (.pure _)) (.pure _)
    · exact .ite (.bind (failsOnly_report _) fun _ => .pure _) (.pure _)
  · exact .pure _

theorem failsOnly_termPositions (term : Literal) (context : MatchContext) :
    FailsOnly allowed (termPositions content term options context) := by
  cases term with
  | plain text => exact failsOnly_textPositions text _
  | pattern source letters => exact .pure _
  | fuzzy text => exact failsOnly_textPositions text _

theorem failsOnly_termMatches (term : Literal) (context : MatchContext) :
    FailsOnly allowed (termMatches content term options context) :=
  .bind (failsOnly_termPositions term context) fun _ => .pure _

theorem failsOnly_positions (query : Expr) (context : MatchContext) :
    FailsOnly allowed (positions content query options context) := by
  refine .bind ?_ fun _ => .pure _
  induction query.positiveLiterals with
  | nil => exact .pure _
  | cons term rest inductionHypothesis =>
      exact .bind (failsOnly_termPositions term context) fun _ =>
        .bind inductionHypothesis fun _ => .pure _

end

/-! ## Queries -/

/-- The failure of a content beyond the size limit. -/
def Failure.BeyondLimit (failure : Failure) : Prop :=
  ∃ size limit, failure = .error ⟨.tooLarge size limit none, none⟩

section

variable {content : Text} {options : MatchOptions}

theorem failsOnly_checkSize : FailsOnly Failure.BeyondLimit (checkSize content options) := by
  unfold checkSize
  split
  · exact .pure _
  · exact .ite (.throw ⟨_, _, rfl⟩) (.pure _)

/-- What can go wrong with an operand of a proximity: a content beyond the size limit, or an operand
without offsets to measure from. -/
def Failure.OfOperand (failure : Failure) : Prop :=
  failure.BeyondLimit ∨ failure.isNearArguments = true

theorem failsOnly_operandPositions (operand : Expr) {verdict : Search Bool}
    (decides : FailsOnly Failure.BeyondLimit verdict) :
    FailsOnly Failure.OfOperand (operandPositions content options operand verdict) := by
  have composite : FailsOnly Failure.OfOperand (do
      checkSize content options
      if ← verdict then
        let found ← positions content operand options .near
        if found.isEmpty then throw (noPositions operand) else pure found
      else pure []) := by
    refine .bind (failsOnly_checkSize.mono fun _ => Or.inl) fun _ => ?_
    refine .bind (decides.mono fun _ => Or.inl) fun _ => .ite ?_ (.pure _)
    exact .bind (failsOnly_positions operand .near) fun _ => .ite (.throw (Or.inr rfl)) (.pure _)
  cases operand with
  | literal term => exact failsOnly_termPositions term .near
  | not child => exact composite
  | and left right => exact composite
  | or left right => exact composite
  | near left right distance => exact composite

theorem failsOnly_measure (distance : Nat) {left right : Search (List Nat)}
    {allowed : Failure → Prop} (leftFails : FailsOnly allowed left)
    (rightFails : FailsOnly allowed right) :
    FailsOnly allowed (measure content distance left right) := by
  refine .bind leftFails fun _ => .ite (.pure _) (.bind rightFails fun _ => .ite (.pure _) ?_)
  exact .ite (.pure _) (.bind (.cached (.pure _)) fun _ => .pure _)

/-- A proximity passes on only what is no matter of its arguments. -/
theorem failsOnly_nearVerdict {left right : Expr} {distance : Value}
    {leftOffsets rightOffsets : Search (List Nat)}
    (leftFails : FailsOnly Failure.OfOperand leftOffsets)
    (rightFails : FailsOnly Failure.OfOperand rightOffsets) :
    FailsOnly Failure.BeyondLimit
      (nearVerdict content left right distance options leftOffsets rightOffsets) := by
  unfold nearVerdict
  split
  · exact .bind (failsOnly_report _) fun _ => .pure _
  · refine .ite (.pure _) (.cached ?_)
    refine .tryCatch (failsOnly_measure _ leftFails rightFails) fun failure known => ?_
    by_cases arguments : failure.isNearArguments = true
    · rw [if_pos arguments]
      exact .bind (failsOnly_report _) fun _ => .pure _
    · rw [if_neg arguments]
      exact .throw (known.resolve_right arguments)

theorem failsOnly_holds (query : Expr) :
    FailsOnly Failure.BeyondLimit (holds content options query) := by
  induction query with
  | literal term => exact failsOnly_termMatches term .leaf
  | not child inductionHypothesis => exact .bind inductionHypothesis fun _ => .pure _
  | and left right leftHypothesis rightHypothesis =>
      exact .bind leftHypothesis fun _ => .ite rightHypothesis (.pure _)
  | or left right leftHypothesis rightHypothesis =>
      exact .bind leftHypothesis fun _ => .ite (.pure _) rightHypothesis
  | near left right distance leftHypothesis rightHypothesis =>
      exact failsOnly_nearVerdict (failsOnly_operandPositions left leftHypothesis)
        (failsOnly_operandPositions right rightHypothesis)

/-- Whatever the session, an evaluation fails only if the content is beyond the size limit. -/
theorem failsOnly_evaluate (query : Expr) :
    FailsOnly Failure.BeyondLimit (evaluate query content options) :=
  .bind failsOnly_checkSize fun _ => failsOnly_holds query

end

end BooleanSearch
