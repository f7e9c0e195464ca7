import BooleanSearch.Proofs.Session.Answers
import Mathlib.Data.Set.Basic

/-!
# Truthful caches

A cache is truthful if each of its entries holds what would be computed for its key.  Looking up,
storing and giving up entries keep it so, as long as no key stands for two results.  Evaluations in
a session with truthful caches therefore give what they would give without caches.
-/

namespace BooleanSearch

open Cache

/-- What the keys of a cache stand for: the results that are right under a key. -/
abbrev Meaning (ν : Type) : Type := String → Except Failure ν → Prop

/-- A key that stands for a value stands for nothing else. -/
def Meaning.Single {ν : Type} (means : Meaning ν) : Prop :=
  ∀ ⦃key value result⦄, means key (.ok value) → means key result → result = .ok value

/-- The cache, if there is one, holds what its keys stand for. -/
structure Truthful {ν : Type} (means : Meaning ν) (cache : Option (Lru String ν)) : Prop where
  single : ∀ present, cache = some present → means.Single
  tells : ∀ present, cache = some present → ∀ entry ∈ present.entries, ∀ result,
    means entry.key result → result = .ok entry.value

namespace Truthful

variable {ν : Type} {means : Meaning ν}

theorem none : Truthful means none :=
  ⟨nofun, nofun⟩

/-- A cache without entries is truthful as long as its keys are unambiguous. -/
theorem of_entries_eq_nil {cache : Lru String ν} (single : means.Single)
    (empty : cache.entries = []) : Truthful means (some cache) := by
  refine ⟨fun _ _ => single, ?_⟩
  intro present same entry member
  cases same
  rw [empty] at member
  exact absurd member List.not_mem_nil

theorem of_empty (single : means.Single) {cache : Option (Lru String ν)}
    (empty : ∀ present, cache = some present → present.entries = []) : Truthful means cache := by
  cases cache with
  | none => exact none
  | some present => exact of_entries_eq_nil single (empty present rfl)

/-- Giving up entries keeps a cache truthful. -/
theorem of_subset {before after : Lru String ν} (truthful : Truthful means (some before))
    (subset : ∀ entry ∈ after.entries, entry ∈ before.entries) :
    Truthful means (some after) := by
  refine ⟨fun _ _ => truthful.single before rfl, ?_⟩
  intro present same entry member
  cases same
  exact truthful.tells before rfl entry (subset entry member)

theorem get {cache : Lru String ν} (truthful : Truthful means (some cache)) (now : Float)
    (key : String) : Truthful means (some (cache.get now key).2) :=
  truthful.of_subset fun _ member => Lru.mem_entries_of_mem_get member

/-- Storing a result under a key that stands for it keeps a cache truthful. -/
theorem set {cache : Lru String ν} (truthful : Truthful means (some cache)) (now : Float)
    {key : String} {value : ν} (right : means key (.ok value)) :
    Truthful means (some (cache.set now key value)) := by
  refine ⟨fun _ _ => truthful.single cache rfl, ?_⟩
  intro present same entry member result meant
  cases same
  rcases Lru.mem_entries_of_mem_set member with old | ⟨keyEq, valueEq⟩
  · exact truthful.tells cache rfl entry old result meant
  · rw [keyEq] at meant
    rw [valueEq]
    exact truthful.single cache rfl right meant

/-- A hit is the result that the key stands for. -/
theorem eq_of_hit {cache : Lru String ν} (truthful : Truthful means (some cache)) {now : Float}
    {key : String} {value : ν} (hit : (cache.get now key).1 = some value)
    {result : Except Failure ν} (right : means key result) : result = .ok value := by
  obtain ⟨entry, member, keyEq, valueEq⟩ := Lru.exists_entry_of_get hit
  rw [← valueEq]
  exact truthful.tells cache rfl entry member result (by rwa [keyEq])

end Truthful

namespace Search

variable {ν : Type} {cache : Session → Option (Lru String ν)}
  {store : Session → Lru String ν → Session} {key : Text → String} {content : Text}

theorem run_lookUp_of_none (store : Session → Lru String ν → Session) (key : Text → String)
    (content : Text) {session : Session} (absent : cache session = none) :
    (lookUp cache store key content).run.run session = (.ok none, session) := by
  have found : answer (get : Search Session) session = .ok session := rfl
  unfold lookUp
  rw [run_bind_of_ok found, absent]
  rfl

theorem run_lookUp_of_some (store : Session → Lru String ν → Session) (key : Text → String)
    (content : Text) {session : Session} {held : Lru String ν}
    (present : cache session = some held) :
    (lookUp cache store key content).run.run session =
      (.ok (held.get session.now (key content)).1,
        { store session (held.get session.now (key content)).2 with
          clock := session.clock + 1 }) := by
  have found : answer (get : Search Session) session = .ok session := rfl
  have here : next (get : Search Session) session = session := rfl
  unfold lookUp
  rw [run_bind_of_ok found, present, here]
  dsimp only
  generalize held.get session.now (key content) = looked
  rfl

/-- The step that `cached` takes when nothing is found. -/
def computeAndKeep (cache : Session → Option (Lru String ν))
    (store : Session → Lru String ν → Session) (key : Text → String) (content : Text)
    (compute : Search ν) : Search ν := do
  let value ← compute
  keep cache store key content value
  pure value

/-- A value that is computed is kept in the session that the computation leaves. -/
theorem next_computeAndKeep {compute : Search ν} {session : Session} {value : ν}
    (answered : (computeAndKeep cache store key content compute).answer session = .ok value)
    {held : Lru String ν} (present : cache (compute.next session) = some held) :
    (computeAndKeep cache store key content compute).next session =
      store (compute.next session) (held.set (compute.next session).now (key content) value) := by
  unfold computeAndKeep answer at answered
  unfold computeAndKeep next
  cases given : compute.answer session with
  | error failure =>
      rw [run_bind_of_error given] at answered
      cases answered
  | ok computed =>
      have kept : (keep cache store key content computed).answer (compute.next session) = .ok () :=
        rfl
      rw [run_bind_of_ok given, run_bind_of_ok kept] at answered ⊢
      cases answered
      unfold next at present ⊢
      unfold keep
      rw [run_modify]
      simp only [present]
      rfl

theorem run_cached_of_none {compute : Search ν} {session : Session}
    (absent : cache session = none) :
    (cached cache store key content compute).run.run session =
      (computeAndKeep cache store key content compute).run.run session := by
  have looked := run_lookUp_of_none store key content absent
  unfold cached
  rw [run_bind_of_ok (congrArg Prod.fst looked)]
  exact congrArg _ (congrArg Prod.snd looked)

theorem run_cached_of_miss {compute : Search ν} {session : Session} {held : Lru String ν}
    (present : cache session = some held)
    (miss : (held.get session.now (key content)).1 = none) :
    (cached cache store key content compute).run.run session =
      (computeAndKeep cache store key content compute).run.run
        { store session (held.get session.now (key content)).2 with
          clock := session.clock + 1 } := by
  have looked := run_lookUp_of_some store key content present
  rw [miss] at looked
  unfold cached
  rw [run_bind_of_ok (congrArg Prod.fst looked)]
  exact congrArg _ (congrArg Prod.snd looked)

theorem run_cached_of_hit {compute : Search ν} {session : Session} {held : Lru String ν}
    {value : ν} (present : cache session = some held)
    (hit : (held.get session.now (key content)).1 = some value) :
    (cached cache store key content compute).run.run session =
      (.ok value,
        { store session (held.get session.now (key content)).2 with
          clock := session.clock + 1 }) := by
  have looked := run_lookUp_of_some store key content present
  rw [hit] at looked
  unfold cached
  rw [run_bind_of_ok (congrArg Prod.fst looked)]
  exact congrArg _ (congrArg Prod.snd looked)

namespace Answers

variable {admits : Session → Prop} {means : Meaning ν} {compute : Search ν}
  {result : Except Failure ν}

theorem keep
    (truthful : ∀ session, admits session → Truthful means (cache session))
    (stores : ∀ session present, admits session → Truthful means (some present) →
      admits (store session present))
    {value : ν} (right : means (key content) (.ok value)) :
    Answers admits (Search.keep cache store key content value) (.ok ()) := by
  intro session admitted
  have known := truthful session admitted
  unfold answer next Search.keep
  rw [run_modify]
  refine ⟨rfl, ?_⟩
  dsimp only
  cases shape : cache session with
  | none => exact admitted
  | some present =>
      rw [shape] at known
      exact stores session _ admitted (known.set session.now right)

theorem computeAndKeep
    (truthful : ∀ session, admits session → Truthful means (cache session))
    (stores : ∀ session present, admits session → Truthful means (some present) →
      admits (store session present))
    (right : means (key content) result) (computes : Answers admits compute result) :
    Answers admits (Search.computeAndKeep cache store key content compute) result := by
  have steps : Answers admits (Search.computeAndKeep cache store key content compute)
      (result >>= fun value => .ok () >>= fun _ => .ok value) := by
    refine computes.bind fun value given => Answers.bind ?_ fun _ _ => pure value
    exact keep truthful stores (by rw [← given]; exact right)
  cases result with
  | error failure => exact steps
  | ok value => exact steps

/-- A step that may answer from a truthful cache gives what it would compute. -/
theorem cached (means : Meaning ν)
    (truthful : ∀ session, admits session → Truthful means (cache session))
    (stores : ∀ session present, admits session → Truthful means (some present) →
      admits (store session present))
    (ticks : ∀ session clock, admits session → admits { session with clock := clock })
    (right : means (key content) result) (computes : Answers admits compute result) :
    Answers admits (Search.cached cache store key content compute) result := by
  intro session admitted
  have known := truthful session admitted
  have computing := computeAndKeep truthful stores right computes
  unfold answer next
  cases shape : cache session with
  | none =>
      rw [run_cached_of_none shape]
      exact computing session admitted
  | some held =>
      rw [shape] at known
      have looked := ticks _ (session.clock + 1)
        (stores session _ admitted (known.get session.now (key content)))
      cases found : (held.get session.now (key content)).1 with
      | none =>
          rw [run_cached_of_miss shape found]
          exact computing _ looked
      | some value =>
          rw [run_cached_of_hit shape found]
          exact ⟨(known.eq_of_hit found right).symm, looked⟩

end Answers

end Search

end BooleanSearch
