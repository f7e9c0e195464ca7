import BooleanSearch.Proofs.Cache.Accounting
import Mathlib.Data.List.Induction

/-!
# Hits and the latest store

What a cache holds under a key is what the latest store under that key brought, as long as the key
was not removed and the cache not cleared since, and it is as old as that store.  The invariant ties
every entry to its store in the list of what was done: an action either leaves an entry alone, or
gives it up, or is the store itself.
-/

namespace BooleanSearch.Cache

variable {κ ν : Type}

/-- The time to live that is in force after some actions. -/
def lifetimeAfter (timeToLive : Option Number) (actions : List (Action κ ν)) : Option Number :=
  actions.foldl
    (fun inForce action =>
      match action with
      | .setTimeToLive _ changed => changed
      | _ => inForce)
    timeToLive

/-- Two entries come from one store, though they may have been weighed at different times. -/
structure Entry.SameStore (first second : Entry κ ν) : Prop where
  key : first.key = second.key
  value : first.value = second.value
  insertedAt : first.insertedAt = second.insertedAt

theorem Entry.SameStore.refl (entry : Entry κ ν) : entry.SameStore entry :=
  ⟨rfl, rfl, rfl⟩

section Keys

variable [BEq κ]

/-- An action ends what was stored under a key before. -/
def Action.ends (key : κ) : Action κ ν → Bool
  | .set _ other _ => other == key
  | .delete other => other == key
  | .clear => true
  | _ => false

/-- Among some actions, the latest store under a key was made at a time and brought a value, and the
key was not removed nor the cache cleared since. -/
def LatestStore (actions : List (Action κ ν)) (storedAt : Float) (key : κ) (value : ν) : Prop :=
  ∃ before other since, actions = before ++ .set storedAt other value :: since ∧
    (other == key) = true ∧ ∀ action ∈ since, action.ends key = false

/-- Among some actions is the store that made an entry, and no later one ends it. -/
def Entry.StandsAfter (entry : Entry κ ν) (actions : List (Action κ ν)) : Prop :=
  ∃ before since, actions = before ++ .set entry.insertedAt entry.key entry.value :: since ∧
    ∀ action ∈ since, action.ends entry.key = false

theorem Entry.standsAfter_store (entry : Entry κ ν) (actions : List (Action κ ν)) :
    entry.StandsAfter (actions ++ [.set entry.insertedAt entry.key entry.value]) :=
  ⟨actions, [], rfl, nofun⟩

theorem Entry.StandsAfter.concat {entry : Entry κ ν} {actions : List (Action κ ν)}
    (stands : entry.StandsAfter actions) {action : Action κ ν}
    (kept : action.ends entry.key = false) : entry.StandsAfter (actions ++ [action]) := by
  obtain ⟨before, since, shape, untouched⟩ := stands
  refine ⟨before, since ++ [action], by simp [shape], ?_⟩
  intro next member
  rcases List.mem_append.mp member with old | new
  · exact untouched next old
  · rw [List.mem_singleton.mp new]
    exact kept

theorem Entry.StandsAfter.of_sameStore {first second : Entry κ ν}
    {actions : List (Action κ ν)} (stands : first.StandsAfter actions)
    (same : first.SameStore second) : second.StandsAfter actions := by
  unfold Entry.StandsAfter at stands ⊢
  rwa [same.key, same.value, same.insertedAt] at stands

variable [PartialEquivBEq κ]

theorem Action.ends_congr {first second : κ} (same : (first == second) = true)
    (action : Action κ ν) : action.ends first = action.ends second := by
  cases action with
  | set now other value => exact BEq.congr_right same
  | delete other => exact BEq.congr_right same
  | _ => rfl

theorem Entry.StandsAfter.latestStore {entry : Entry κ ν} {actions : List (Action κ ν)} {key : κ}
    (stands : entry.StandsAfter actions) (same : (entry.key == key) = true) :
    LatestStore actions entry.insertedAt key entry.value := by
  obtain ⟨before, since, shape, untouched⟩ := stands
  refine ⟨before, entry.key, since, shape, same, ?_⟩
  intro action member
  rw [← Action.ends_congr same]
  exact untouched action member

end Keys

namespace Lru

/-! ## Where entries come from -/

theorem mem_of_mem_setCapacity {cache : Lru κ ν} {capacity : Int} {entry : Entry κ ν}
    (member : entry ∈ ((cache.setCapacity capacity).toOption.getD cache).entries) :
    entry ∈ cache.entries := by
  by_cases small : capacity < 1
  · rw [setCapacity, if_pos small] at member
    exact member
  · simp only [setCapacity, if_neg small] at member
    exact (sheds_keepCapacity { cache with capacity := capacity.toNat }).mem_of_mem member

theorem exists_sameStore_of_mem_setCeiling {cache : Lru κ ν} {ceiling : Option Int}
    {entry : Entry κ ν} (member : entry ∈ (cache.setCeiling ceiling).entries) :
    ∃ old ∈ cache.entries, old.SameStore entry := by
  cases ceiling with
  | none => exact ⟨entry, member, .refl entry⟩
  | some bytes =>
      have weighed := (sheds_keepCeiling (cache.weighedAfresh bytes)).mem_of_mem member
      obtain ⟨old, held, rfl⟩ := List.mem_map.mp weighed
      exact ⟨old, held, rfl, rfl, rfl⟩

section Steps

variable [BEq κ]

/-- The time to live is the one that was asked for last. -/
theorem timeToLive_run (cache : Lru κ ν) (actions : List (Action κ ν)) :
    (cache.run actions).timeToLive = lifetimeAfter cache.timeToLive actions := by
  induction actions generalizing cache with
  | nil => rfl
  | cons action rest inductionHypothesis =>
      refine (inductionHypothesis (cache.perform action)).trans ?_
      unfold lifetimeAfter
      rw [List.foldl_cons]
      congr 1
      cases action with
      | get now key => exact timeToLive_get cache now key
      | set now key value => exact timeToLive_set cache now key value
      | contains now key => exact timeToLive_contains cache now key
      | delete key => exact timeToLive_without cache key
      | clear => rfl
      | trim target => exact timeToLive_dropOldestBy cache _
      | removeExpired now => rfl
      | setCapacity capacity =>
          by_cases small : capacity < 1
          · simp only [perform, setCapacity, if_pos small]
            rfl
          · simp only [perform, setCapacity, if_neg small]
            exact timeToLive_keepCapacity { cache with capacity := capacity.toNat }
      | setTimeToLive now timeToLive => rfl
      | setCeiling ceiling =>
          cases ceiling with
          | none => rfl
          | some bytes => exact timeToLive_keepCeiling (cache.weighedAfresh bytes)

variable [PartialEquivBEq κ]

/-- After an action an entry is one that was there and that the action does not end, or the action
is its store. -/
theorem origin_of_mem_perform {cache : Lru κ ν} (distinct : cache.Distinct)
    {action : Action κ ν} {entry : Entry κ ν} (member : entry ∈ (cache.perform action).entries) :
    (∃ old ∈ cache.entries, old.SameStore entry ∧ action.ends entry.key = false) ∨
      action = .set entry.insertedAt entry.key entry.value := by
  have kept : ∀ {other : Entry κ ν}, other ∈ cache.entries → action.ends other.key = false →
      ∃ old ∈ cache.entries, old.SameStore other ∧ action.ends other.key = false :=
    fun held lasting => ⟨_, held, .refl _, lasting⟩
  -- what is left beside a key stands under other keys
  have beside : ∀ {key : κ} {other : Entry κ ν}, other ∈ (cache.without key).entries →
      other ∈ cache.entries ∧ (key == other.key) = false := by
    intro key other left
    refine ⟨(sheds_without cache key).mem_of_mem left, ?_⟩
    rw [BEq.comm]
    exact distinct.key_ne_of_mem_without left
  cases action with
  | get now key => exact Or.inl (kept ((sheds_get cache now key).mem_of_mem member) rfl)
  | set now key value =>
      have stored : entry ∈ (cache.withStored now key value).entries :=
        ((sheds_keepCapacity _).trans (sheds_keepCeiling _)).mem_of_mem member
      rcases List.mem_append.mp stored with old | new
      · exact Or.inl (kept (beside old).1 (beside old).2)
      · rw [List.mem_singleton.mp new]
        exact Or.inr rfl
  | contains now key => exact Or.inl (kept ((sheds_contains cache now key).mem_of_mem member) rfl)
  | delete key => exact Or.inl (kept (beside member).1 (beside member).2)
  | clear => cases member
  | trim target => exact Or.inl (kept ((sheds_trimTo cache _).mem_of_mem member) rfl)
  | removeExpired now =>
      exact Or.inl (kept ((sheds_removeExpired cache now).mem_of_mem member) rfl)
  | setCapacity capacity => exact Or.inl (kept (mem_of_mem_setCapacity member) rfl)
  | setTimeToLive now timeToLive =>
      exact Or.inl (kept ((sheds_setTimeToLive cache now timeToLive).mem_of_mem member) rfl)
  | setCeiling ceiling =>
      obtain ⟨old, held, same⟩ := exists_sameStore_of_mem_setCeiling member
      exact Or.inl ⟨old, held, same, rfl⟩

/-! ## Runs -/

/-- In a cache that was empty at first every entry is what the latest store under its key
brought. -/
theorem standsAfter_of_mem_run {start : Lru κ ν} (sound : start.Sound) (empty : start.entries = [])
    (actions : List (Action κ ν)) {entry : Entry κ ν} (member : entry ∈ (start.run actions).entries) :
    entry.StandsAfter actions := by
  induction actions using List.reverseRecOn generalizing entry with
  | nil =>
      rw [run, List.foldl_nil, empty] at member
      cases member
  | append_singleton actions action inductionHypothesis =>
      rw [run, List.foldl_concat] at member
      rcases origin_of_mem_perform (sound_run sound actions).distinct member with
        ⟨old, held, same, kept⟩ | store
      · exact ((inductionHypothesis held).of_sameStore same).concat kept
      · rw [store]
        exact entry.standsAfter_store actions

theorem latestStore_of_found {start : Lru κ ν} (sound : start.Sound) (empty : start.entries = [])
    (actions : List (Action κ ν)) {key : κ} {entry : Entry κ ν}
    (found : entry? (start.run actions) key = some entry) :
    LatestStore actions entry.insertedAt key entry.value := by
  have held : entry ∈ (start.run actions).entries := List.mem_of_find?_eq_some found
  obtain ⟨same, -⟩ := exists_parts_of_entry? found
  exact (standsAfter_of_mem_run sound empty actions held).latestStore same

/-- A hit, after any run, answers with what the latest store under the key brought, and that store
is not longer ago than the time to live in force.  A look-up or a test that finds the entry of a
store that is longer ago gives up that entry and nothing else. -/
theorem hits_are_latest (name : String) {capacity : Int} (roomy : 1 ≤ capacity)
    (timeToLive : Option Number) (ceiling : Option Int) (weigh : κ → ν → Nat)
    (actions : List (Action κ ν)) :
    ∃ start, create name capacity timeToLive ceiling weigh = .ok start ∧ ∀ now key,
      (∀ value, ((start.run actions).get now key).1 = some value →
        ∃ storedAt, LatestStore actions storedAt key value ∧
          ∀ limit ∈ lifetimeAfter timeToLive actions, ¬limit.toFloat < now - storedAt) ∧
      ∀ entry, entry? (start.run actions) key = some entry →
        (∃ limit ∈ lifetimeAfter timeToLive actions, limit.toFloat < now - entry.insertedAt) →
          LatestStore actions entry.insertedAt key entry.value ∧
          ∃ front rest, (start.run actions).entries = front ++ entry :: rest ∧
            (∀ other ∈ front ++ rest, (other.key == key) = false) ∧
            ((start.run actions).get now key).1 = none ∧
            ((start.run actions).get now key).2.entries = front ++ rest ∧
            ((start.run actions).contains now key).1 = false ∧
            ((start.run actions).contains now key).2.entries = front ++ rest := by
  obtain ⟨start, created⟩ : ∃ start, create name capacity timeToLive ceiling weigh = .ok start :=
    ⟨_, if_neg (by omega)⟩
  have sound := (sound_create created).1
  obtain ⟨empty, lifetime⟩ : start.entries = [] ∧ start.timeToLive = timeToLive := by
    unfold create at created
    split at created <;> cases created
    exact ⟨rfl, rfl⟩
  have inForce : (start.run actions).timeToLive = lifetimeAfter timeToLive actions := by
    rw [timeToLive_run, lifetime]
  refine ⟨start, created, fun now key => ⟨?_, ?_⟩⟩
  · intro value hit
    obtain ⟨entry, found, lasting, rfl⟩ := (get_eq_some_iff _ now key value).mp hit
    refine ⟨entry.insertedAt, latestStore_of_found sound empty actions found, ?_⟩
    intro limit member
    rw [expired, inForce, Option.mem_def.mp member] at lasting
    simpa [isExpired] using lasting
  · rintro entry found ⟨limit, member, older⟩
    have gone : (start.run actions).expired now entry = true := by
      rw [expired, inForce, Option.mem_def.mp member]
      simpa [isExpired] using older
    obtain ⟨front, rest, shape, left, others⟩ :=
      exists_only_entry (sound_run sound actions).distinct found
    refine ⟨latestStore_of_found sound empty actions found, front, rest, shape, others, ?_⟩
    simp [get, contains, found, gone, left]

end Steps

/-- A new cache with room for two entries. -/
def roomForTwo : Lru String Nat :=
  ⟨"sample", 2, none, none, fun key value => key.length + value, [], 0, 0, 0, 0⟩

/-- A run in which a value is stored again under its key, then looked up and weighed; entries live
for five seconds. -/
def renewedStore : List (Action String Nat) :=
  [.setTimeToLive 0 (some (.whole 5)), .set 1 "a" 1, .get 5 "a", .set 6 "a" 2, .set 7 "b" 3,
    .setCeiling (some 20), .get 9 "a"]

/-- Five seconds after the second store its value is found; a second later its entry is given up,
although it was looked up in the meantime. -/
theorem hits_are_latest_renewedStore :
    (1 : Int) ≤ 2 ∧
      ∃ start, create "sample" 2 none none (fun key value => key.length + value) = .ok start ∧
        ((start.run renewedStore).get 11 "a").1 = some 2 ∧
        (∃ storedAt, LatestStore renewedStore storedAt "a" 2 ∧
          ∀ limit ∈ lifetimeAfter none renewedStore, ¬limit.toFloat < 11 - storedAt) ∧
        ∃ entry, entry? (start.run renewedStore) "a" = some entry ∧
          (∃ limit ∈ lifetimeAfter none renewedStore, limit.toFloat < 12 - entry.insertedAt) ∧
          LatestStore renewedStore entry.insertedAt "a" entry.value ∧
          ∃ front rest, (start.run renewedStore).entries = front ++ entry :: rest ∧
            (∀ other ∈ front ++ rest, (other.key == "a") = false) ∧
            ((start.run renewedStore).get 12 "a").1 = none ∧
            ((start.run renewedStore).get 12 "a").2.entries = front ++ rest ∧
            ((start.run renewedStore).contains 12 "a").1 = false ∧
            ((start.run renewedStore).contains 12 "a").2.entries = front ++ rest := by
  obtain ⟨start, created, holds⟩ := hits_are_latest "sample" (show (1 : Int) ≤ 2 by decide)
    none none (fun (key : String) (value : Nat) => key.length + value) renewedStore
  obtain rfl : roomForTwo = start := Except.ok.inj created
  have hit : ((roomForTwo.run renewedStore).get 11 "a").1 = some 2 := by decide +kernel
  have old : ( entry? (roomForTwo.run renewedStore) "a").any
      (fun entry => (5 : Float) < 12 - entry.insertedAt) = true := by decide +kernel
  obtain ⟨entry, found, older⟩ := (Option.any_eq_true _ _).mp old
  have gone : ∃ limit ∈ lifetimeAfter none renewedStore, limit.toFloat < 12 - entry.insertedAt :=
    ⟨.whole 5, rfl, of_decide_eq_true older⟩
  exact ⟨by decide, roomForTwo, created, hit, (holds 11 "a").1 2 hit, entry, found, gone,
    (holds 12 "a").2 entry found gone⟩

end Lru

end BooleanSearch.Cache
