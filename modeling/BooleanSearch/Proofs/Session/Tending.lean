import BooleanSearch.Proofs.Cache.Accounting
import BooleanSearch.Proofs.Session.Caches

/-!
# Tending caches

A cache is tended by what may be done to it from outside, at any time, without storing a value: entries
are looked up and given up, and the bounds of the cache are changed.  Entries may be weighed afresh
thereby, so what stays is their keys and values, which is all that counts for truthfulness.
-/

namespace BooleanSearch

namespace Cache

variable {κ ν : Type}

/-- An action that stores nothing. -/
def Action.Tends : Action κ ν → Prop
  | .set _ _ _ => False
  | _ => True

/-- An action on a cache with texts for keys that stores nothing. -/
abbrev Tending (ν : Type) : Type := { action : Action String ν // action.Tends }

namespace Lru

variable [BEq κ]

/-- What a cache holds after it was tended it has held before. -/
theorem exists_entry_of_tended {cache : Lru κ ν} {action : Action κ ν} (tends : action.Tends)
    {entry : Entry κ ν} (member : entry ∈ (cache.perform action).entries) :
    ∃ earlier ∈ cache.entries, earlier.key = entry.key ∧ earlier.value = entry.value := by
  have shed {after : Lru κ ν} (sheds : cache.Sheds after) (member : entry ∈ after.entries) :
      ∃ earlier ∈ cache.entries, earlier.key = entry.key ∧ earlier.value = entry.value :=
    ⟨entry, sheds.mem_of_mem member, rfl, rfl⟩
  cases action with
  | get now key => exact shed (sheds_get cache now key) member
  | set now key value => exact absurd tends id
  | contains now key => exact shed (sheds_contains cache now key) member
  | delete key => exact shed (sheds_delete cache key) member
  | clear => exact shed (sheds_clear cache) member
  | trim target => exact shed (sheds_trimTo cache target.toNat) member
  | removeExpired now => exact shed (sheds_removeExpired cache now) member
  | setTimeToLive now timeToLive => exact shed (sheds_setTimeToLive cache now timeToLive) member
  | setCapacity capacity =>
      by_cases small : capacity < 1
      · rw [perform, setCapacity, if_pos small] at member
        exact ⟨entry, member, rfl, rfl⟩
      · rw [perform, setCapacity, if_neg small] at member
        exact ⟨entry, (sheds_keepCapacity { cache with capacity := capacity.toNat }).mem_of_mem member,
          rfl, rfl⟩
  | setCeiling ceiling =>
      cases ceiling with
      | none => exact ⟨entry, member, rfl, rfl⟩
      | some bytes =>
          have weighed : entry ∈ (cache.weighedAfresh bytes).entries :=
            (sheds_keepCeiling _).mem_of_mem member
          obtain ⟨earlier, held, rfl⟩ := List.mem_map.mp weighed
          exact ⟨earlier, held, rfl, rfl⟩

end Lru

/-- A cache, if there is one, after it was tended. -/
def tended {ν : Type} (tending : Tending ν) (cache : Option (Lru String ν)) :
    Option (Lru String ν) :=
  cache.map fun present => present.perform tending.val

end Cache

open Cache

/-- Tending a cache keeps it truthful. -/
theorem Truthful.tended {ν : Type} {means : Meaning ν} {cache : Option (Lru String ν)}
    (truthful : Truthful means cache) (tending : Tending ν) :
    Truthful means (Cache.tended tending cache) := by
  cases cache with
  | none => exact .none
  | some held =>
      refine ⟨fun _ _ => truthful.single held rfl, ?_⟩
      intro present same entry member result meant
      obtain rfl := Option.some.inj same
      obtain ⟨earlier, kept, key, value⟩ := Lru.exists_entry_of_tended tending.property member
      rw [← value]
      exact truthful.tells held rfl earlier kept result (key ▸ meant)

end BooleanSearch
