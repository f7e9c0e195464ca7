import BooleanSearch.Match.Evaluate
import BooleanSearch.Proofs.Session.Caches

/-!
# What evaluations keep of a session

Evaluations change a session only by reports, by the passing of time, and by what they look up and
store in its caches.  A property that withstands these changes withstands every evaluation, whatever
it gives.
-/

namespace BooleanSearch

open Cache Query

/-- The session after a step has the property if the session before it has. -/
def Keeps {α : Type} (holds : Session → Prop) (step : Search α) : Prop :=
  ∀ session, holds session → holds (step.next session)

/-- A property withstands reports, time, and the use of the caches. -/
structure Stable (holds : Session → Prop) : Prop where
  records : ∀ {session} (records : Array Log.Record), holds session →
    holds { session with records := records }
  clock : ∀ {session} (clock : Nat), holds session → holds { session with clock := clock }
  words : ∀ {session} (cache : Lru String WordIndex), holds session →
    session.words.isSome = true → holds { session with words := some cache }
  fuzzy : ∀ {session} (cache : Lru String FuzzyResult), holds session →
    session.fuzzy.isSome = true → holds { session with fuzzy := some cache }
  looked : ∀ {session} {held : Lru String Bool} (now : Float) (key : String), holds session →
    session.near = some held → holds { session with near := some (held.get now key).2 }
  stored : ∀ {session} {held : Lru String Bool} (now : Float) (key : String) (value : Bool),
    holds session → session.near = some held →
    holds { session with near := some (held.set now key value) }

namespace Keeps

variable {α β : Type} {holds : Session → Prop}

theorem pure (value : α) : Keeps holds (Pure.pure value) :=
  fun _ before => before

theorem throw (failure : Failure) : Keeps holds (MonadExcept.throw failure : Search α) :=
  fun _ before => before

theorem bind {step : Search α} {rest : α → Search β} (first : Keeps holds step)
    (second : ∀ value, Keeps holds (rest value)) : Keeps holds (step >>= rest) := by
  intro session before
  have between := first session before
  unfold Search.next
  cases given : step.answer session with
  | ok value =>
      rw [Search.run_bind_of_ok given]
      exact second value _ between
  | error failure =>
      rw [Search.run_bind_of_error given]
      exact between

theorem get_bind {step : Session → Search α} (steps : ∀ session, Keeps holds (step session)) :
    Keeps holds (get >>= step) := by
  intro session before
  have found : Search.answer (get : Search Session) session = .ok session := rfl
  unfold Search.next
  rw [Search.run_bind_of_ok found]
  exact steps session session before

theorem ite {condition : Prop} [Decidable condition] {yes no : Search α}
    (ifYes : Keeps holds yes) (ifNo : Keeps holds no) :
    Keeps holds (if condition then yes else no) := by
  by_cases truth : condition
  · simpa only [if_pos truth] using ifYes
  · simpa only [if_neg truth] using ifNo

theorem tryCatch {step : Search α} {handler : Failure → Search α} (first : Keeps holds step)
    (second : ∀ failure, Keeps holds (handler failure)) :
    Keeps holds (MonadExcept.tryCatch step handler) := by
  intro session before
  have between := first session before
  unfold Search.next
  cases given : step.answer session with
  | ok value =>
      rw [Search.run_tryCatch_of_ok given]
      exact between
  | error failure =>
      rw [Search.run_tryCatch_of_error given]
      exact second failure _ between

variable {ν : Type} {cache : Session → Option (Lru String ν)}
  {store : Session → Lru String ν → Session} {key : Text → String} {content : Text}
  {compute : Search ν}

/-- Answering from a cache keeps what looking up and storing keep. -/
theorem cached
    (looked : ∀ session held, holds session → cache session = some held →
      holds (store session (held.get session.now (key content)).2))
    (stored : ∀ session held value, holds session → cache session = some held →
      holds (store session (held.set session.now (key content) value)))
    (ticks : ∀ session clock, holds session → holds { session with clock := clock })
    (computes : Keeps holds compute) :
    Keeps holds (Search.cached cache store key content compute) := by
  have keeping : ∀ value, Keeps holds (Search.keep cache store key content value) := by
    intro value session before
    unfold Search.next Search.keep
    rw [Search.run_modify]
    dsimp only
    cases shape : cache session with
    | none => exact before
    | some held => exact stored session held value before shape
  have computing : Keeps holds (Search.computeAndKeep cache store key content compute) :=
    computes.bind fun value => (keeping value).bind fun _ => pure value
  intro session before
  unfold Search.next
  cases shape : cache session with
  | none =>
      rw [Search.run_cached_of_none shape]
      exact computing session before
  | some held =>
      have after := ticks _ (session.clock + 1) (looked session held before shape)
      cases found : (held.get session.now (key content)).1 with
      | none =>
          rw [Search.run_cached_of_miss shape found]
          exact computing _ after
      | some value =>
          rw [Search.run_cached_of_hit shape found]
          exact after

end Keeps

namespace Stable

variable {holds : Session → Prop}

theorem keeps_report (stable : Stable holds) (record : Log.Record) :
    Keeps holds (Search.report record) :=
  fun _ before => stable.records _ before

theorem keeps_wordIndex (stable : Stable holds) (content : Text) :
    Keeps holds (Search.wordIndex content) :=
  Keeps.cached (fun _ _ before held => stable.words _ before (by simp [held]))
    (fun _ _ _ before held => stable.words _ before (by simp [held]))
    (fun _ clock before => stable.clock clock before) (Keeps.pure _)

theorem keeps_fuzzySearch (stable : Stable holds) (content : Text) (term : String)
    (caseSensitive wholeWord : Bool) (cutoff : Number) :
    Keeps holds (Search.fuzzySearch content term caseSensitive wholeWord cutoff) := by
  unfold Search.fuzzySearch
  refine Keeps.ite (Keeps.cached ?_ ?_ ?_ (Keeps.pure _)) (Keeps.pure _)
  · exact fun _ _ before held => stable.fuzzy _ before (by simp [held])
  · exact fun _ _ _ before held => stable.fuzzy _ before (by simp [held])
  · exact fun _ clock before => stable.clock clock before

theorem keeps_textPositions (stable : Stable holds) (content : Text) (text : String)
    (options : MatchOptions) (fuzzyAllowed : Bool) :
    Keeps holds (textPositions content text options fuzzyAllowed) := by
  unfold textPositions
  refine Keeps.ite (Keeps.pure _) ?_
  split
  · refine Keeps.get_bind fun session => Keeps.ite ?_ (Keeps.pure _)
    refine Keeps.bind (stable.keeps_fuzzySearch _ _ _ _ _) fun result => ?_
    exact Keeps.ite (Keeps.bind (stable.keeps_report _) fun _ => Keeps.pure _) (Keeps.pure _)
  · exact Keeps.pure _

theorem keeps_termPositions (stable : Stable holds) (content : Text) (term : Literal)
    (options : MatchOptions) (context : MatchContext) :
    Keeps holds (termPositions content term options context) := by
  cases term with
  | plain text => exact stable.keeps_textPositions _ _ _ _
  | pattern source letters => exact Keeps.pure _
  | fuzzy text => exact stable.keeps_textPositions _ _ _ _

theorem keeps_allPositions (stable : Stable holds) (content : Text) (options : MatchOptions)
    (context : MatchContext) (terms : List Literal) :
    Keeps holds (allPositions content options context terms) := by
  induction terms with
  | nil => exact Keeps.pure _
  | cons term rest inductionHypothesis =>
      exact Keeps.bind (stable.keeps_termPositions _ _ _ _) fun _ =>
        Keeps.bind inductionHypothesis fun _ => Keeps.pure _

theorem keeps_checkSize (content : Text) (options : MatchOptions) :
    Keeps holds (checkSize content options) := by
  unfold checkSize
  split
  · exact Keeps.pure _
  · exact Keeps.ite (Keeps.throw _) (Keeps.pure _)

theorem keeps_operandPositions (stable : Stable holds) (content : Text) (options : MatchOptions)
    (operand : Expr) {verdict : Search Bool} (decides : Keeps holds verdict) :
    Keeps holds (operandPositions content options operand verdict) := by
  unfold operandPositions
  split
  · exact stable.keeps_termPositions _ _ _ _
  · refine Keeps.bind (keeps_checkSize _ _) fun _ => Keeps.bind decides fun _ => ?_
    refine Keeps.ite (Keeps.bind ?_ fun found => ?_) (Keeps.pure _)
    · exact Keeps.bind (stable.keeps_allPositions _ _ _ _) fun _ => Keeps.pure _
    · exact Keeps.ite (Keeps.throw _) (Keeps.pure _)

theorem keeps_measure (stable : Stable holds) (content : Text) (distance : Nat)
    {left right : Search (List Nat)} (leftKeeps : Keeps holds left)
    (rightKeeps : Keeps holds right) : Keeps holds (measure content distance left right) := by
  unfold measure
  refine Keeps.bind leftKeeps fun _ => Keeps.ite (Keeps.pure _) ?_
  refine Keeps.bind rightKeeps fun _ => Keeps.ite (Keeps.pure _) (Keeps.ite (Keeps.pure _) ?_)
  exact Keeps.bind (stable.keeps_wordIndex content) fun _ => Keeps.pure _

theorem keeps_toleratingArguments (stable : Stable holds) (left right : Expr)
    {step : Search Bool} (decides : Keeps holds step) :
    Keeps holds (toleratingArguments left right step) := by
  refine Keeps.tryCatch decides fun failure => Keeps.ite ?_ (Keeps.throw _)
  exact Keeps.bind (stable.keeps_report _) fun _ => Keeps.pure _

theorem keeps_nearVerdict (stable : Stable holds) (content : Text) (left right : Expr)
    (distance : Value) (options : MatchOptions) {leftOffsets rightOffsets : Search (List Nat)}
    (leftKeeps : Keeps holds leftOffsets) (rightKeeps : Keeps holds rightOffsets) :
    Keeps holds
      (nearVerdict content left right distance options leftOffsets rightOffsets) := by
  unfold nearVerdict
  split
  · exact Keeps.bind (stable.keeps_report _) fun _ => Keeps.pure _
  · refine Keeps.ite (Keeps.pure _) (Keeps.cached ?_ ?_ ?_ ?_)
    · exact fun _ _ before present => stable.looked _ _ before present
    · exact fun _ _ value before present => stable.stored _ _ value before present
    · exact fun _ clock before => stable.clock clock before
    · exact stable.keeps_toleratingArguments _ _ (stable.keeps_measure _ _ leftKeeps rightKeeps)

theorem keeps_holds (stable : Stable holds) (content : Text) (options : MatchOptions)
    (query : Expr) : Keeps holds (BooleanSearch.holds content options query) := by
  induction query with
  | literal term => exact Keeps.bind (stable.keeps_termPositions _ _ _ _) fun _ => Keeps.pure _
  | not child inductionHypothesis =>
      exact Keeps.bind inductionHypothesis fun _ => Keeps.pure _
  | and left right leftHypothesis rightHypothesis =>
      exact Keeps.bind leftHypothesis fun _ => Keeps.ite rightHypothesis (Keeps.pure _)
  | or left right leftHypothesis rightHypothesis =>
      exact Keeps.bind leftHypothesis fun _ => Keeps.ite (Keeps.pure _) rightHypothesis
  | near left right distance leftHypothesis rightHypothesis =>
      exact stable.keeps_nearVerdict _ _ _ _ _ (stable.keeps_operandPositions _ _ _ leftHypothesis)
        (stable.keeps_operandPositions _ _ _ rightHypothesis)

theorem keeps_resolvePositions (stable : Stable holds) (content : Text) (operand : Expr)
    (options : MatchOptions) : Keeps holds (resolvePositions content operand options) :=
  stable.keeps_operandPositions content options operand (stable.keeps_holds content options operand)

end Stable

end BooleanSearch
