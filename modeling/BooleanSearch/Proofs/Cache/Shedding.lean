import BooleanSearch.Proofs.Cache.Entries
import Mathlib.Algebra.BigOperators.Group.List.Basic
import Mathlib.Algebra.Ring.Int.Defs
import Mathlib.Data.List.Perm.Subperm

/-!
# Giving up entries

Look-ups, removals and trims have in common that they add no entry.  What they leave is part of what
was there, in whatever order, and the count of bytes stays that of the entries.  The bounds of a cache
are restored by giving up entries, so they are stated here as well.
-/

namespace BooleanSearch.Cache

variable {κ ν : Type}

/-- The bytes that entries were counted with when they were stored. -/
def countedBytes (entries : List (Entry κ ν)) : Int :=
  (entries.map Entry.size).sum

@[simp]
theorem countedBytes_nil : countedBytes ([] : List (Entry κ ν)) = 0 := rfl

@[simp]
theorem countedBytes_cons (entry : Entry κ ν) (rest : List (Entry κ ν)) :
    countedBytes (entry :: rest) = entry.size + countedBytes rest := by
  simp [countedBytes]

@[simp]
theorem countedBytes_append (front rest : List (Entry κ ν)) :
    countedBytes (front ++ rest) = countedBytes front + countedBytes rest := by
  simp [countedBytes]

theorem countedBytes_perm {first second : List (Entry κ ν)} (same : first.Perm second) :
    countedBytes first = countedBytes second :=
  (same.map Entry.size).sum_eq

namespace Lru

/-- The bytes of a cache are those of its entries. -/
def Counted (cache : Lru κ ν) : Prop :=
  cache.memory = countedBytes cache.entries

/-- A cache after entries were given up: the settings that bound it are the same. -/
structure Sheds (before after : Lru κ ν) : Prop where
  entries : after.entries.Subperm before.entries
  counted : before.Counted → after.Counted
  capacity : after.capacity = before.capacity
  ceiling : after.ceiling = before.ceiling
  weigh : after.weigh = before.weigh

namespace Sheds

variable {before between after : Lru κ ν}

theorem refl (cache : Lru κ ν) : cache.Sheds cache :=
  ⟨List.Subperm.refl _, id, rfl, rfl, rfl⟩

theorem trans (first : before.Sheds between) (second : between.Sheds after) :
    before.Sheds after where
  entries := second.entries.trans first.entries
  counted := second.counted ∘ first.counted
  capacity := second.capacity.trans first.capacity
  ceiling := second.ceiling.trans first.ceiling
  weigh := second.weigh.trans first.weigh

theorem size_le (sheds : before.Sheds after) : after.size ≤ before.size :=
  sheds.entries.length_le

theorem mem_of_mem (sheds : before.Sheds after) {entry : Entry κ ν}
    (member : entry ∈ after.entries) : entry ∈ before.entries :=
  sheds.entries.subset member

end Sheds

/-! ## The least recently used entries -/

theorem dropOldest_of_cons {cache : Lru κ ν} {oldest : Entry κ ν} {rest : List (Entry κ ν)}
    (shape : cache.entries = oldest :: rest) :
    cache.dropOldest =
      { cache with
        entries := rest
        memory := cache.memory - oldest.size
        evictions := cache.evictions + 1 } := by
  simp only [dropOldest, shape]

theorem sheds_dropOldest (cache : Lru κ ν) : cache.Sheds cache.dropOldest := by
  cases shape : cache.entries with
  | nil =>
      have same : cache.dropOldest = cache := by simp [dropOldest, shape]
      rw [same]
      exact Sheds.refl cache
  | cons oldest rest =>
      rw [dropOldest_of_cons shape]
      refine ⟨?_, fun counted => ?_, rfl, rfl, rfl⟩
      · rw [shape]
        exact (List.sublist_cons_self oldest rest).subperm
      · have bytes : cache.memory = oldest.size + countedBytes rest := by
          rw [counted, shape, countedBytes_cons]
        simp only [Counted]
        omega

theorem sheds_dropOldestBy (cache : Lru κ ν) (count : Nat) :
    cache.Sheds (cache.dropOldestBy count) := by
  induction count generalizing cache with
  | zero => exact Sheds.refl cache
  | succ count inductionHypothesis =>
      exact (sheds_dropOldest cache).trans (inductionHypothesis cache.dropOldest)

theorem size_dropOldest (cache : Lru κ ν) : cache.dropOldest.size = cache.size - 1 := by
  cases shape : cache.entries with
  | nil => simp [size, dropOldest, shape]
  | cons oldest rest => simp [size, dropOldest_of_cons shape, shape]

theorem size_dropOldestBy (cache : Lru κ ν) (count : Nat) :
    (cache.dropOldestBy count).size = cache.size - count := by
  rw [size, entries_dropOldestBy, List.length_drop]
  rfl

theorem sheds_trimTo (cache : Lru κ ν) (target : Nat) : cache.Sheds (cache.trimTo target).2 :=
  sheds_dropOldestBy cache _

theorem size_trimTo (cache : Lru κ ν) (target : Nat) :
    (cache.trimTo target).2.size = min target cache.size := by
  have left : (cache.trimTo target).2.size = cache.size - (cache.size - target) :=
    size_dropOldestBy cache _
  omega

/-! ## Keeping to the bounds -/

theorem sheds_keepCapacity (cache : Lru κ ν) : cache.Sheds cache.keepCapacity :=
  sheds_trimTo cache _

theorem size_keepCapacity_le (cache : Lru κ ν) : cache.keepCapacity.size ≤ cache.capacity := by
  have left : cache.keepCapacity.size = min cache.capacity cache.size := size_trimTo cache _
  omega

theorem sheds_keepCeilingWithin (ceiling : Int) (fuel : Nat) (cache : Lru κ ν) :
    cache.Sheds (keepCeilingWithin ceiling fuel cache) := by
  induction fuel generalizing cache with
  | zero => exact Sheds.refl cache
  | succ fuel inductionHypothesis =>
      rw [keepCeilingWithin]
      split
      · exact (sheds_dropOldest cache).trans (inductionHypothesis cache.dropOldest)
      · exact Sheds.refl cache

/-- As many attempts as there are entries are enough: the bytes fit, or one entry is left. -/
theorem fits_keepCeilingWithin (ceiling : Int) (fuel : Nat) (cache : Lru κ ν)
    (enough : cache.size ≤ fuel) :
    (keepCeilingWithin ceiling fuel cache).memory ≤ ceiling ∨
      (keepCeilingWithin ceiling fuel cache).size ≤ 1 := by
  induction fuel generalizing cache with
  | zero => exact Or.inr (by rw [keepCeilingWithin]; omega)
  | succ fuel inductionHypothesis =>
      rw [keepCeilingWithin]
      by_cases beyond : ceiling < cache.memory ∧ 1 < cache.size
      · rw [if_pos (by simpa using beyond)]
        apply inductionHypothesis
        rw [size_dropOldest]
        omega
      · rw [if_neg (by simpa using beyond)]
        omega

theorem sheds_keepCeiling (cache : Lru κ ν) : cache.Sheds cache.keepCeiling := by
  cases bound : cache.ceiling with
  | none =>
      have same : cache.keepCeiling = cache := by simp only [keepCeiling, bound]
      rw [same]
      exact Sheds.refl cache
  | some bytes =>
      have kept : cache.keepCeiling = keepCeilingWithin bytes cache.size cache := by
        simp only [keepCeiling, bound]
      rw [kept]
      exact sheds_keepCeilingWithin bytes cache.size cache

/-- A cache keeps to its ceiling, or holds no more than its newest entry. -/
def WithinCeiling (cache : Lru κ ν) : Prop :=
  ∀ bytes, cache.ceiling = some bytes → cache.memory ≤ bytes ∨ cache.size ≤ 1

theorem withinCeiling_keepCeiling (cache : Lru κ ν) : cache.keepCeiling.WithinCeiling := by
  intro bytes bound
  rw [(sheds_keepCeiling cache).ceiling] at bound
  have kept : cache.keepCeiling = keepCeilingWithin bytes cache.size cache := by
    simp only [keepCeiling, bound]
  rw [kept]
  exact fits_keepCeilingWithin bytes cache.size cache (Nat.le_refl _)

/-! ## Entries that are out of date -/

theorem sheds_removeExpired (cache : Lru κ ν) (now : Float) :
    cache.Sheds (cache.removeExpired now).2 := by
  refine ⟨List.filter_sublist.subperm, fun counted => ?_, rfl, rfl, rfl⟩
  have parted := countedBytes_perm (List.filter_append_perm (cache.expired now) cache.entries)
  rw [countedBytes_append, ← counted] at parted
  change cache.memory - countedBytes (cache.entries.filter (cache.expired now)) =
    countedBytes (cache.entries.filter fun entry => !cache.expired now entry)
  omega

/-- A change of the time to live gives up what is out of date by then. -/
theorem sheds_setTimeToLive (cache : Lru κ ν) (now : Float) (timeToLive : Option Number) :
    cache.Sheds (cache.setTimeToLive now timeToLive) := by
  have gone := sheds_removeExpired { cache with timeToLive := timeToLive } now
  exact ⟨gone.entries, gone.counted, gone.capacity, gone.ceiling, gone.weigh⟩

theorem sheds_clear (cache : Lru κ ν) : cache.Sheds cache.clear.2 :=
  ⟨(List.nil_sublist _).subperm, fun _ => rfl, rfl, rfl, rfl⟩

/-! ## The entry under a key -/

variable [BEq κ]

/-- What is found under a key parts the entries into those before and those after it. -/
theorem exists_parts_of_entry? {cache : Lru κ ν} {key : κ} {entry : Entry κ ν}
    (found : cache.entry? key = some entry) :
    (entry.key == key) = true ∧ ∃ front rest, cache.entries = front ++ entry :: rest ∧
      cache.entries.eraseP (fun other => other.key == key) = front ++ rest := by
  obtain ⟨holds, front, rest, shape, none⟩ := List.find?_eq_some_iff_append.mp found
  refine ⟨holds, front, rest, shape, ?_⟩
  rw [shape, List.eraseP_append_right _ (fun other member => by simpa using none other member)]
  simp [holds]

theorem entries_without (cache : Lru κ ν) (key : κ) :
    (cache.without key).entries = cache.entries.eraseP fun entry => entry.key == key := by
  cases found : cache.entry? key with
  | none =>
      have absent : ∀ entry ∈ cache.entries, ¬(entry.key == key) = true :=
        fun entry member => List.find?_eq_none.mp found entry member
      simp only [without, found]
      exact (List.eraseP_of_forall_not absent).symm
  | some entry => simp only [without, found]

theorem sheds_without (cache : Lru κ ν) (key : κ) : cache.Sheds (cache.without key) := by
  refine ⟨?_, fun counted => ?_, ?_, ?_, ?_⟩
  · rw [entries_without]
    exact List.eraseP_sublist.subperm
  · cases found : cache.entry? key with
    | none => simpa only [without, found] using counted
    | some entry =>
        obtain ⟨-, front, rest, shape, left⟩ := exists_parts_of_entry? found
        have bytes : cache.memory = countedBytes (front ++ entry :: rest) := by
          rw [counted, shape]
        simp only [countedBytes_append, countedBytes_cons] at bytes
        simp only [Counted, without, found, left, countedBytes_append]
        omega
  all_goals
    unfold without
    split <;> rfl

theorem size_without (cache : Lru κ ν) (key : κ) :
    (cache.without key).size + (cache.entry? key).isSome.toNat = cache.size := by
  cases found : cache.entry? key with
  | none => simp [without, found]
  | some entry =>
      obtain ⟨-, front, rest, shape, left⟩ := exists_parts_of_entry? found
      have held : cache.entries.length = front.length + (rest.length + 1) := by simp [shape]
      simp only [without, found, size, left, List.length_append, Option.isSome_some,
        Bool.toNat_true]
      omega

theorem capacity_set (cache : Lru κ ν) (now : Float) (key : κ) (value : ν) :
    (cache.set now key value).capacity = cache.capacity := by
  unfold set
  dsimp only
  rw [(sheds_keepCeiling _).capacity, (sheds_keepCapacity _).capacity]
  exact (sheds_without cache key).capacity

theorem sheds_delete (cache : Lru κ ν) (key : κ) : cache.Sheds (cache.delete key).2 :=
  sheds_without cache key

/-- A look-up hits if there is an entry under the key that is not out of date. -/
theorem get_eq_some_iff (cache : Lru κ ν) (now : Float) (key : κ) (value : ν) :
    (cache.get now key).1 = some value ↔
      ∃ entry, cache.entry? key = some entry ∧ cache.expired now entry = false ∧
        entry.value = value := by
  cases found : cache.entry? key with
  | none => simp [get, found]
  | some entry => cases gone : cache.expired now entry <;> simp [get, found, gone]

/-- A look-up moves an entry to the end, or gives it up if it is out of date. -/
theorem sheds_get (cache : Lru κ ν) (now : Float) (key : κ) : cache.Sheds (cache.get now key).2 := by
  have rest := sheds_without cache key
  cases found : cache.entry? key with
  | none =>
      simp only [get, found]
      exact ⟨List.Subperm.refl _, id, rfl, rfl, rfl⟩
  | some entry =>
      by_cases gone : cache.expired now entry
      · simp only [get, found, gone, if_true]
        exact ⟨rest.entries, rest.counted, rest.capacity, rest.ceiling, rest.weigh⟩
      · obtain ⟨-, front, back, shape, left⟩ := exists_parts_of_entry? found
        have moved : (front ++ back ++ [entry]).Perm cache.entries := by
          rw [shape, List.append_assoc]
          exact (List.perm_append_singleton entry back).append_left front
        simp only [get, found, gone, left, if_false, Bool.false_eq_true]
        exact ⟨moved.subperm, fun counted => counted.trans (countedBytes_perm moved).symm,
          rfl, rfl, rfl⟩

theorem sheds_contains (cache : Lru κ ν) (now : Float) (key : κ) :
    cache.Sheds (cache.contains now key).2 := by
  have rest := sheds_without cache key
  cases found : cache.entry? key with
  | none =>
      simp only [contains, found]
      exact Sheds.refl cache
  | some entry =>
      by_cases gone : cache.expired now entry
      · simp only [contains, found, gone, if_true]
        exact ⟨rest.entries, rest.counted, rest.capacity, rest.ceiling, rest.weigh⟩
      · simp only [contains, found, gone, if_false, Bool.false_eq_true]
        exact Sheds.refl cache

/-! ## The time to live

Only a request for it changes the time to live; giving up entries and storing them do not.
-/

section Lifetime

omit [BEq κ]

theorem timeToLive_dropOldest (cache : Lru κ ν) :
    cache.dropOldest.timeToLive = cache.timeToLive := by
  unfold dropOldest
  split <;> rfl

theorem timeToLive_dropOldestBy (cache : Lru κ ν) (count : Nat) :
    (cache.dropOldestBy count).timeToLive = cache.timeToLive := by
  induction count generalizing cache with
  | zero => rfl
  | succ count inductionHypothesis =>
      exact (inductionHypothesis cache.dropOldest).trans (timeToLive_dropOldest cache)

theorem timeToLive_keepCapacity (cache : Lru κ ν) :
    cache.keepCapacity.timeToLive = cache.timeToLive :=
  timeToLive_dropOldestBy cache _

theorem timeToLive_keepCeilingWithin (ceiling : Int) (fuel : Nat) (cache : Lru κ ν) :
    (keepCeilingWithin ceiling fuel cache).timeToLive = cache.timeToLive := by
  induction fuel generalizing cache with
  | zero => rfl
  | succ fuel inductionHypothesis =>
      rw [keepCeilingWithin]
      split
      · exact (inductionHypothesis cache.dropOldest).trans (timeToLive_dropOldest cache)
      · rfl

theorem timeToLive_keepCeiling (cache : Lru κ ν) :
    cache.keepCeiling.timeToLive = cache.timeToLive := by
  unfold keepCeiling
  split
  · rfl
  · exact timeToLive_keepCeilingWithin _ _ cache

end Lifetime

theorem timeToLive_without (cache : Lru κ ν) (key : κ) :
    (cache.without key).timeToLive = cache.timeToLive := by
  unfold without
  split <;> rfl

theorem timeToLive_get (cache : Lru κ ν) (now : Float) (key : κ) :
    (cache.get now key).2.timeToLive = cache.timeToLive := by
  unfold get
  split
  · rfl
  · split
    · exact timeToLive_without cache key
    · rfl

theorem timeToLive_contains (cache : Lru κ ν) (now : Float) (key : κ) :
    (cache.contains now key).2.timeToLive = cache.timeToLive := by
  unfold contains
  split
  · rfl
  · split
    · exact timeToLive_without cache key
    · rfl

theorem timeToLive_set (cache : Lru κ ν) (now : Float) (key : κ) (value : ν) :
    (cache.set now key value).timeToLive = cache.timeToLive := by
  unfold set
  dsimp only
  rw [timeToLive_keepCeiling, timeToLive_keepCapacity]
  exact timeToLive_without cache key

end Lru

end BooleanSearch.Cache
