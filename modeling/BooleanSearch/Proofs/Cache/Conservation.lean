import BooleanSearch.Proofs.Cache.Accounting

/-!
# What becomes of entries

An entry comes in by a store under a key that has none.  It stays, is given up, or is removed on
request, and the counters of a cache tell these apart.  Giving entries up, for whatever reason,
moves them from the size of a cache to its count of evictions, so the sum of both is what is
followed along a run.
-/

namespace BooleanSearch.Cache

/-- An action looks a key up. -/
def Action.isLookUp {κ ν : Type} : Action κ ν → Bool
  | .get _ _ => true
  | _ => false

namespace Lru

variable {κ ν : Type}

/-- The entries that a cache holds or has given up. -/
def intake (cache : Lru κ ν) : Nat :=
  cache.size + cache.evictions

/-- The look-ups that a cache has answered. -/
def lookUps (cache : Lru κ ν) : Nat :=
  cache.hits + cache.misses

/-! ## Giving up entries -/

/-- Between two states of a cache entries were at most given up, and no key was looked up. -/
structure Balanced (before after : Lru κ ν) : Prop where
  intake : after.intake = before.intake
  lookUps : after.lookUps = before.lookUps

namespace Balanced

variable {before between after : Lru κ ν}

theorem refl (cache : Lru κ ν) : cache.Balanced cache :=
  ⟨rfl, rfl⟩

theorem trans (first : before.Balanced between) (second : between.Balanced after) :
    before.Balanced after :=
  ⟨second.intake.trans first.intake, second.lookUps.trans first.lookUps⟩

end Balanced

theorem balanced_dropOldest (cache : Lru κ ν) : cache.Balanced cache.dropOldest := by
  cases shape : cache.entries with
  | nil =>
      have same : cache.dropOldest = cache := by simp [dropOldest, shape]
      rw [same]
      exact Balanced.refl cache
  | cons oldest rest =>
      rw [dropOldest_of_cons shape]
      refine ⟨?_, rfl⟩
      simp only [intake, size, shape, List.length_cons]
      omega

theorem balanced_dropOldestBy (cache : Lru κ ν) (count : Nat) :
    cache.Balanced (cache.dropOldestBy count) := by
  induction count generalizing cache with
  | zero => exact Balanced.refl cache
  | succ count inductionHypothesis =>
      exact (balanced_dropOldest cache).trans (inductionHypothesis cache.dropOldest)

theorem balanced_trimTo (cache : Lru κ ν) (target : Nat) :
    cache.Balanced (cache.trimTo target).2 :=
  balanced_dropOldestBy cache _

theorem balanced_keepCapacity (cache : Lru κ ν) : cache.Balanced cache.keepCapacity :=
  balanced_trimTo cache _

theorem balanced_keepCeilingWithin (ceiling : Int) (fuel : Nat) (cache : Lru κ ν) :
    cache.Balanced (keepCeilingWithin ceiling fuel cache) := by
  induction fuel generalizing cache with
  | zero => exact Balanced.refl cache
  | succ fuel inductionHypothesis =>
      rw [keepCeilingWithin]
      split
      · exact (balanced_dropOldest cache).trans (inductionHypothesis cache.dropOldest)
      · exact Balanced.refl cache

theorem balanced_keepCeiling (cache : Lru κ ν) : cache.Balanced cache.keepCeiling := by
  unfold keepCeiling
  split
  · exact Balanced.refl cache
  · exact balanced_keepCeilingWithin _ _ cache

theorem balanced_removeExpired (cache : Lru κ ν) (now : Float) :
    cache.Balanced (cache.removeExpired now).2 := by
  refine ⟨?_, rfl⟩
  have parted := List.length_eq_length_filter_add (l := cache.entries) (cache.expired now)
  simp only [intake, size, removeExpired]
  omega

theorem balanced_setTimeToLive (cache : Lru κ ν) (now : Float) (timeToLive : Option Number) :
    cache.Balanced (cache.setTimeToLive now timeToLive) := by
  have gone := balanced_removeExpired { cache with timeToLive := timeToLive } now
  exact ⟨gone.intake, gone.lookUps⟩

theorem balanced_setCapacity (cache : Lru κ ν) (capacity : Int) :
    cache.Balanced ((cache.setCapacity capacity).toOption.getD cache) := by
  by_cases small : capacity < 1
  · simp only [setCapacity, if_pos small]
    exact Balanced.refl cache
  · have kept := balanced_keepCapacity { cache with capacity := capacity.toNat }
    simp only [setCapacity, if_neg small]
    exact ⟨kept.intake, kept.lookUps⟩

theorem balanced_setCeiling (cache : Lru κ ν) (ceiling : Option Int) :
    cache.Balanced (cache.setCeiling ceiling) := by
  cases ceiling with
  | none => exact ⟨rfl, rfl⟩
  | some bytes =>
      have weighed : cache.Balanced (cache.weighedAfresh bytes) := by
        refine ⟨?_, rfl⟩
        simp only [intake, size_weighedAfresh]
        rfl
      exact weighed.trans (balanced_keepCeiling _)

/-! ## The entry under a key -/

variable [BEq κ]

/-- An action stores a value under a key that has no entry. -/
def adds (cache : Lru κ ν) : Action κ ν → Bool
  | .set _ key _ => (cache.entry? key).isNone
  | _ => false

/-- An action is a request to remove an entry, and there is one. -/
def removes (cache : Lru κ ν) : Action κ ν → Bool
  | .delete key => (cache.delete key).1
  | _ => false

theorem evictions_without (cache : Lru κ ν) (key : κ) :
    (cache.without key).evictions = cache.evictions := by
  unfold without
  split <;> rfl

theorem intake_without (cache : Lru κ ν) (key : κ) :
    (cache.without key).intake + (cache.entry? key).isSome.toNat = cache.intake := by
  have sizes := size_without cache key
  have shed := evictions_without cache key
  simp only [intake]
  omega

theorem lookUps_without (cache : Lru κ ν) (key : κ) :
    (cache.without key).lookUps = cache.lookUps := by
  unfold without
  split <;> rfl

theorem intake_get (cache : Lru κ ν) (now : Float) (key : κ) :
    (cache.get now key).2.intake = cache.intake := by
  have rest := intake_without cache key
  cases found : cache.entry? key with
  | none => simp only [get, found, intake, size]
  | some entry =>
      by_cases gone : cache.expired now entry
      · simp only [found, Option.isSome_some, Bool.toNat_true, intake, size] at rest
        simp only [get, found, gone, if_true, intake, size]
        omega
      · obtain ⟨-, front, back, shape, left⟩ := exists_parts_of_entry? found
        have held : cache.entries.length = front.length + (back.length + 1) := by simp [shape]
        simp only [get, found, gone, if_false, Bool.false_eq_true, intake, size, left,
          List.length_append, List.length_singleton]
        omega

theorem lookUps_get (cache : Lru κ ν) (now : Float) (key : κ) :
    (cache.get now key).2.lookUps = cache.lookUps + 1 := by
  have rest := lookUps_without cache key
  cases found : cache.entry? key with
  | none =>
      simp only [get, found, lookUps]
      omega
  | some entry =>
      by_cases gone : cache.expired now entry
      · simp only [lookUps] at rest
        simp only [get, found, gone, if_true, lookUps]
        omega
      · simp only [get, found, gone, if_false, Bool.false_eq_true, lookUps]
        omega

theorem balanced_contains (cache : Lru κ ν) (now : Float) (key : κ) :
    cache.Balanced (cache.contains now key).2 := by
  have rest := intake_without cache key
  cases found : cache.entry? key with
  | none =>
      simp only [contains, found]
      exact Balanced.refl cache
  | some entry =>
      by_cases gone : cache.expired now entry
      · simp only [contains, found, gone, if_true]
        refine ⟨?_, lookUps_without cache key⟩
        simp only [found, Option.isSome_some, Bool.toNat_true, intake, size] at rest
        simp only [intake, size]
        omega
      · simp only [contains, found, gone, if_false, Bool.false_eq_true]
        exact Balanced.refl cache

theorem intake_set (cache : Lru κ ν) (now : Float) (key : κ) (value : ν) :
    (cache.set now key value).intake = cache.intake + (cache.entry? key).isNone.toNat := by
  have kept := (balanced_keepCapacity (cache.withStored now key value)).trans
    (balanced_keepCeiling _)
  have stored : (cache.withStored now key value).intake = (cache.without key).intake + 1 := by
    simp only [withStored, intake, size, List.length_append, List.length_singleton]
    omega
  have rest := intake_without cache key
  have total : (cache.set now key value).intake = (cache.withStored now key value).intake :=
    kept.intake
  cases found : cache.entry? key with
  | none =>
      simp only [found, Option.isSome_none, Option.isNone_none, Bool.toNat_true,
        Bool.toNat_false] at rest ⊢
      omega
  | some entry =>
      simp only [found, Option.isSome_some, Option.isNone_some, Bool.toNat_true,
        Bool.toNat_false] at rest ⊢
      omega

theorem lookUps_set (cache : Lru κ ν) (now : Float) (key : κ) (value : ν) :
    (cache.set now key value).lookUps = cache.lookUps := by
  have kept := (balanced_keepCapacity (cache.withStored now key value)).trans
    (balanced_keepCeiling _)
  exact kept.lookUps.trans (lookUps_without cache key)

/-! ## Steps -/

/-- What one action does to the count of entries that came in. -/
theorem intake_perform (cache : Lru κ ν) {action : Action κ ν} (kept : action ≠ .clear) :
    (cache.perform action).intake + (cache.removes action).toNat =
      cache.intake + (cache.adds action).toNat := by
  cases action with
  | get now key => exact intake_get cache now key
  | set now key value => exact intake_set cache now key value
  | contains now key => exact (balanced_contains cache now key).intake
  | delete key => exact intake_without cache key
  | clear => exact absurd rfl kept
  | trim target => exact (balanced_trimTo cache target.toNat).intake
  | removeExpired now => exact (balanced_removeExpired cache now).intake
  | setCapacity capacity => exact (balanced_setCapacity cache capacity).intake
  | setTimeToLive now timeToLive => exact (balanced_setTimeToLive cache now timeToLive).intake
  | setCeiling ceiling => exact (balanced_setCeiling cache ceiling).intake

/-- Look-ups are counted, and nothing else is counted as one. -/
theorem lookUps_perform (cache : Lru κ ν) {action : Action κ ν} (kept : action ≠ .clear) :
    (cache.perform action).lookUps = cache.lookUps + action.isLookUp.toNat := by
  cases action with
  | get now key => exact lookUps_get cache now key
  | set now key value => exact lookUps_set cache now key value
  | contains now key => exact (balanced_contains cache now key).lookUps
  | delete key => exact lookUps_without cache key
  | clear => exact absurd rfl kept
  | trim target => exact (balanced_trimTo cache target.toNat).lookUps
  | removeExpired now => exact (balanced_removeExpired cache now).lookUps
  | setCapacity capacity => exact (balanced_setCapacity cache capacity).lookUps
  | setTimeToLive now timeToLive => exact (balanced_setTimeToLive cache now timeToLive).lookUps
  | setCeiling ceiling => exact (balanced_setCeiling cache ceiling).lookUps

/-! ## Runs -/

/-- How many actions of a run have a property at their time. -/
def countAlong (holds : Lru κ ν → Action κ ν → Bool) (cache : Lru κ ν) : List (Action κ ν) → Nat
  | [] => 0
  | action :: rest => (holds cache action).toNat + countAlong holds (cache.perform action) rest

theorem intake_run (cache : Lru κ ν) {actions : List (Action κ ν)}
    (kept : ∀ action ∈ actions, action ≠ .clear) :
    (cache.run actions).intake + cache.countAlong removes actions =
      cache.intake + cache.countAlong adds actions := by
  induction actions generalizing cache with
  | nil => rfl
  | cons action rest inductionHypothesis =>
      have step := intake_perform cache (kept action List.mem_cons_self)
      have others := inductionHypothesis (cache.perform action)
        fun other member => kept other (List.mem_cons_of_mem action member)
      have unrolled : cache.run (action :: rest) = (cache.perform action).run rest := rfl
      simp only [countAlong, unrolled]
      omega

theorem lookUps_run (cache : Lru κ ν) {actions : List (Action κ ν)}
    (kept : ∀ action ∈ actions, action ≠ .clear) :
    (cache.run actions).lookUps = cache.lookUps + actions.countP Action.isLookUp := by
  induction actions generalizing cache with
  | nil => rfl
  | cons action rest inductionHypothesis =>
      have step := lookUps_perform cache (kept action List.mem_cons_self)
      have others := inductionHypothesis (cache.perform action)
        fun other member => kept other (List.mem_cons_of_mem action member)
      have unrolled : cache.run (action :: rest) = (cache.perform action).run rest := rfl
      rw [unrolled, others, step, List.countP_cons]
      cases action.isLookUp <;>
        simp only [Bool.toNat_true, Bool.toNat_false, if_true, if_false, Bool.false_eq_true] <;>
        omega

theorem run_append (cache : Lru κ ν) (first second : List (Action κ ν)) :
    cache.run (first ++ second) = (cache.run first).run second :=
  List.foldl_append

/-- A cache that is new, or has just been cleared, has counted nothing. -/
theorem uncounted_of_restarted {name : String} {capacity : Int} {timeToLive : Option Number}
    {ceiling : Option Int} {weigh : κ → ν → Nat} {start : Lru κ ν}
    (created : create name capacity timeToLive ceiling weigh = .ok start)
    {before : List (Action κ ν)}
    (restarted : before = [] ∨ ∃ earlier, before = earlier ++ [.clear]) :
    (start.run before).intake = 0 ∧ (start.run before).lookUps = 0 := by
  rcases restarted with rfl | ⟨earlier, rfl⟩
  · unfold create at created
    split at created <;> cases created
    exact ⟨rfl, rfl⟩
  · rw [run_append]
    exact ⟨rfl, rfl⟩

/-- Since a cache was made or last cleared, every entry that came in is still held, was given up, or
was removed on request, and every look-up was a hit or a miss. -/
theorem entries_accounted_for (name : String) {capacity : Int} (roomy : 1 ≤ capacity)
    (timeToLive : Option Number) (ceiling : Option Int) (weigh : κ → ν → Nat)
    {before since : List (Action κ ν)}
    (restarted : before = [] ∨ ∃ earlier, before = earlier ++ [.clear])
    (kept : ∀ action ∈ since, action ≠ .clear) :
    ∃ start, create name capacity timeToLive ceiling weigh = .ok start ∧
      (start.run before).countAlong adds since =
        (start.run (before ++ since)).size + (start.run (before ++ since)).evictions +
          (start.run before).countAlong removes since ∧
      (start.run (before ++ since)).hits + (start.run (before ++ since)).misses =
        since.countP Action.isLookUp := by
  obtain ⟨start, created⟩ : ∃ start, create name capacity timeToLive ceiling weigh = .ok start :=
    ⟨_, if_neg (by omega)⟩
  obtain ⟨nothingIn, nothingAsked⟩ := uncounted_of_restarted created restarted
  have entries := intake_run (start.run before) kept
  have asked := lookUps_run (start.run before) kept
  rw [← run_append, nothingIn, intake, Nat.zero_add] at entries
  rw [← run_append, nothingAsked, lookUps, Nat.zero_add] at asked
  exact ⟨start, created, entries.symm, asked⟩

/-- A run in which entries leave in every way: for want of room, by a trim, out of date at a
look-up, at a test and all at once, over the ceiling, and on request. -/
def manyExits : List (Action String Nat) :=
  [.set 0 "a" 1, .set 0 "b" 1, .set 0 "c" 1, .get 0 "a", .set 1 "b" 7, .trim 1, .set 2 "d" 1,
    .setTimeToLive 3 (some (.whole 4)), .get 6 "b", .set 7 "e" 1, .contains 12 "e", .set 13 "f" 9,
    .set 13 "g" 9, .setCeiling (some 12), .delete "g", .delete "h", .set 14 "i" 1,
    .removeExpired 20]

/-- Of the eight entries of such a run seven are given up and one is removed. -/
theorem entries_accounted_for_manyExits :
    (1 : Int) ≤ 2 ∧ (∀ action ∈ manyExits, action ≠ .clear) ∧
      ∃ start, create "sample" 2 none none (fun key value => key.length + value) = .ok start ∧
        (start.run [.set 0 "z" 1, .clear]).countAlong adds manyExits = 8 ∧
        (start.run ([.set 0 "z" 1, .clear] ++ manyExits)).evictions = 7 ∧
        (start.run [.set 0 "z" 1, .clear]).countAlong adds manyExits =
          (start.run ([.set 0 "z" 1, .clear] ++ manyExits)).size +
            (start.run ([.set 0 "z" 1, .clear] ++ manyExits)).evictions +
            (start.run [.set 0 "z" 1, .clear]).countAlong removes manyExits ∧
        (start.run ([.set 0 "z" 1, .clear] ++ manyExits)).hits +
            (start.run ([.set 0 "z" 1, .clear] ++ manyExits)).misses =
          manyExits.countP Action.isLookUp := by
  have kept : ∀ action ∈ manyExits, action ≠ .clear := by
    simp [manyExits]
  obtain ⟨start, created, holds⟩ := entries_accounted_for "sample"
    (show (1 : Int) ≤ 2 by decide) none none (fun (key : String) (value : Nat) => key.length + value)
    (Or.inr ⟨[.set 0 "z" 1], rfl⟩) kept
  refine ⟨by decide, kept, start, created, ?_, ?_, holds⟩
  · cases created
    decide +kernel
  · cases created
    decide +kernel

end Lru

end BooleanSearch.Cache
