import BooleanSearch.Match.Session
import BooleanSearch.Proofs.Cache.Entries

/-!
# Answers that do not depend on the session

A step of an evaluation may read and fill caches.  `Answers admits step result` says that the step
gives the same result in every session of a class and leaves a session of that class.  Such steps
compose, and a step that answers from a cache is one of them as long as the entries of the cache are
what would be computed.
-/

namespace BooleanSearch.Search

variable {α β : Type}

/-- What a step gives in a session. -/
def answer (step : Search α) (session : Session) : Except Failure α :=
  (step.run.run session).1

/-- The session that a step leaves. -/
def next (step : Search α) (session : Session) : Session :=
  (step.run.run session).2

theorem run_eq_of_answer {step : Search α} {session : Session} {result : Except Failure α}
    (given : answer step session = result) :
    step.run.run session = (result, next step session) := by
  subst given
  rfl

/-- A step that gives a value is continued in the session that it leaves. -/
theorem run_bind_of_ok {step : Search α} {rest : α → Search β} {session : Session} {value : α}
    (given : answer step session = .ok value) :
    (step >>= rest).run.run session = (rest value).run.run (next step session) := by
  simp only [ExceptT.run_bind, StateT.run_bind, run_eq_of_answer given]
  rfl

theorem run_bind_of_error {step : Search α} {rest : α → Search β} {session : Session}
    {failure : Failure} (given : answer step session = .error failure) :
    (step >>= rest).run.run session = (.error failure, next step session) := by
  simp only [ExceptT.run_bind, StateT.run_bind, run_eq_of_answer given]
  rfl

theorem run_tryCatch_of_ok {step : Search α} {handler : Failure → Search α} {session : Session}
    {value : α} (given : answer step session = .ok value) :
    (tryCatch step handler : Search α).run.run session = (.ok value, next step session) := by
  simp only [ExceptT.run_tryCatch, StateT.run_bind, run_eq_of_answer given]
  rfl

/-- A failure is taken up by its handler in the session that the step leaves. -/
theorem run_tryCatch_of_error {step : Search α} {handler : Failure → Search α}
    {session : Session} {failure : Failure} (given : answer step session = .error failure) :
    (tryCatch step handler : Search α).run.run session =
      (handler failure).run.run (next step session) := by
  simp only [ExceptT.run_tryCatch, StateT.run_bind, run_eq_of_answer given]
  rfl

theorem run_modify (change : Session → Session) (session : Session) :
    (modify change : Search PUnit).run.run session = (.ok (), change session) := rfl

/-- A step gives a result in every admitted session and leaves an admitted session. -/
def Answers (admits : Session → Prop) (step : Search α) (result : Except Failure α) : Prop :=
  ∀ session, admits session → answer step session = result ∧ admits (next step session)

namespace Answers

variable {admits : Session → Prop}

theorem pure (value : α) : Answers admits (Pure.pure value) (.ok value) :=
  fun _ admitted => ⟨rfl, admitted⟩

theorem throw (failure : Failure) :
    Answers admits (MonadExcept.throw failure : Search α) (.error failure) :=
  fun _ admitted => ⟨rfl, admitted⟩

theorem bind {step : Search α} {rest : α → Search β} {result : Except Failure α}
    {results : α → Except Failure β} (first : Answers admits step result)
    (second : ∀ value, result = .ok value → Answers admits (rest value) (results value)) :
    Answers admits (step >>= rest) (result >>= results) := by
  intro session admitted
  obtain ⟨given, kept⟩ := first session admitted
  cases result with
  | error failure =>
      unfold answer next
      rw [run_bind_of_error given]
      exact ⟨rfl, kept⟩
  | ok value =>
      unfold answer next
      rw [run_bind_of_ok given]
      exact second value rfl _ kept

theorem bind_ok {step : Search α} {rest : α → Search β} {value : α} {result : Except Failure β}
    (first : Answers admits step (.ok value)) (second : Answers admits (rest value) result) :
    Answers admits (step >>= rest) result := by
  have steps : Answers admits (step >>= rest) (.ok value >>= fun _ => result) := by
    refine bind first fun other same => ?_
    cases same
    exact second
  exact steps

theorem map {step : Search α} {result : Except Failure α} (change : α → β)
    (first : Answers admits step result) :
    Answers admits (do return change (← step)) (do return change (← result)) :=
  bind first fun value _ => pure (change value)

/-- A step may depend on the session that it finds. -/
theorem get_bind {step : Session → Search α} {result : Except Failure α}
    (steps : ∀ session, admits session → Answers admits (step session) result) :
    Answers admits (get >>= step) result := by
  intro session admitted
  have found : answer (get : Search Session) session = .ok session := rfl
  unfold answer next
  rw [run_bind_of_ok found]
  exact steps session admitted session admitted

theorem report (record : Log.Record)
    (keeps : ∀ session records, admits session → admits { session with records := records }) :
    Answers admits (Search.report record) (.ok ()) := by
  intro session admitted
  unfold answer next Search.report
  rw [run_modify]
  exact ⟨rfl, keeps session _ admitted⟩

theorem ite {condition : Prop} [Decidable condition] {yes no : Search α}
    {whenYes whenNo : Except Failure α}
    (ifYes : condition → Answers admits yes whenYes)
    (ifNo : ¬ condition → Answers admits no whenNo) :
    Answers admits (if condition then yes else no) (if condition then whenYes else whenNo) := by
  by_cases holds : condition
  · simpa only [if_pos holds] using ifYes holds
  · simpa only [if_neg holds] using ifNo holds

/-- A failure may be taken up by a step that depends on it. -/
theorem tryCatch {step : Search α} {handler : Failure → Search α} {result : Except Failure α}
    {handled : Failure → Except Failure α} (first : Answers admits step result)
    (second : ∀ failure, result = .error failure →
      Answers admits (handler failure) (handled failure)) :
    Answers admits (MonadExcept.tryCatch step handler) (result.tryCatch handled) := by
  intro session admitted
  obtain ⟨given, kept⟩ := first session admitted
  cases result with
  | ok value =>
      unfold answer next
      rw [run_tryCatch_of_ok given]
      exact ⟨rfl, kept⟩
  | error failure =>
      unfold answer next
      rw [run_tryCatch_of_error given]
      exact second failure rfl _ kept

end Answers

end BooleanSearch.Search
