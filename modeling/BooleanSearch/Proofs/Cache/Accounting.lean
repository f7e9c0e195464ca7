import BooleanSearch.Proofs.Cache.Shedding
import Mathlib.Algebra.Order.BigOperators.Group.List

/-!
# Accounts of a cache over whole runs

A run is a list of actions, each with its own reading of the clock.  Whatever the actions, a cache holds
no key twice and no more entries than it has room for, tells the weight of exactly what it holds, and
keeps to its ceiling unless a single entry is beyond it.

The count of bytes is kept up while there is no ceiling, but it then counts what the entries weighed when
they were stored, which may be nothing.  The invariant therefore ties the sizes of the entries to their
weights only under a ceiling, and the count to the sizes in any case.
-/

namespace BooleanSearch.Cache

/-- What may be done to a cache. -/
inductive Action (κ ν : Type)
  | get (now : Float) (key : κ)
  | set (now : Float) (key : κ) (value : ν)
  | contains (now : Float) (key : κ)
  | delete (key : κ)
  | clear
  | trim (target : Int)
  | removeExpired (now : Float)
  | setCapacity (capacity : Int)
  | setTimeToLive (now : Float) (timeToLive : Option Number)
  | setCeiling (ceiling : Option Int)

namespace Lru

variable {κ ν : Type}

section Runs

variable [BEq κ]

/-- The cache after an action; a capacity that is refused changes nothing. -/
def perform (cache : Lru κ ν) : Action κ ν → Lru κ ν
  | .get now key => (cache.get now key).2
  | .set now key value => cache.set now key value
  | .contains now key => (cache.contains now key).2
  | .delete key => (cache.delete key).2
  | .clear => cache.clear.2
  | .trim target => (cache.trimTo target.toNat).2
  | .removeExpired now => (cache.removeExpired now).2
  | .setCapacity capacity => (cache.setCapacity capacity).toOption.getD cache
  | .setTimeToLive now timeToLive => cache.setTimeToLive now timeToLive
  | .setCeiling ceiling => cache.setCeiling ceiling

/-- The cache after some actions. -/
def run (cache : Lru κ ν) (actions : List (Action κ ν)) : Lru κ ν :=
  actions.foldl perform cache

end Runs

/-! ## What is weighed -/

/-- What the entries of a cache weigh. -/
def weight (cache : Lru κ ν) : Int :=
  (cache.entries.map fun entry => ((cache.weigh entry.key entry.value : Nat) : Int)).sum

/-- Under a ceiling every entry is counted with its weight. -/
def Weighed (cache : Lru κ ν) : Prop :=
  cache.ceiling.isSome → ∀ entry ∈ cache.entries,
    entry.size = ((cache.weigh entry.key entry.value : Nat) : Int)

theorem usage_eq_weight {cache : Lru κ ν} (counted : cache.Counted) (weighed : cache.Weighed) :
    cache.usage = cache.weight := by
  cases bound : cache.ceiling with
  | none => simp only [usage, bound, weight, List.sum]
  | some bytes =>
      have sizes : cache.entries.map Entry.size =
          cache.entries.map fun entry => ((cache.weigh entry.key entry.value : Nat) : Int) :=
        List.map_congr_left fun entry member => weighed (by rw [bound]; rfl) entry member
      simp only [usage, bound]
      rw [counted, countedBytes, sizes, weight]

/-- Entries that are given up take none of their bytes with them that they did not bring. -/
theorem countedBytes_le_of_subperm {part whole : List (Entry κ ν)} (subperm : part.Subperm whole)
    (nonneg : ∀ entry ∈ whole, 0 ≤ entry.size) :
    countedBytes part ≤ countedBytes whole := by
  obtain ⟨middle, same, sublist⟩ := subperm
  rw [countedBytes_perm same.symm]
  apply (sublist.map Entry.size).sum_le_sum
  intro size member
  obtain ⟨entry, here, rfl⟩ := List.mem_map.mp member
  exact nonneg entry here

/-- The cache under a new ceiling, before it is brought back to it: all entries are weighed afresh,
whatever they were counted with. -/
def weighedAfresh (cache : Lru κ ν) (bytes : Int) : Lru κ ν :=
  let entries := cache.entries.map fun entry =>
    { entry with size := ((cache.weigh entry.key entry.value : Nat) : Int) }
  { cache with ceiling := some bytes, entries := entries, memory := countedBytes entries }

theorem setCeiling_some (cache : Lru κ ν) (bytes : Int) :
    cache.setCeiling (some bytes) = (cache.weighedAfresh bytes).keepCeiling := rfl

theorem size_weighedAfresh (cache : Lru κ ν) (bytes : Int) :
    (cache.weighedAfresh bytes).size = cache.size :=
  List.length_map _

/-! ## The invariant -/

theorem Weighed.of_sheds {before after : Lru κ ν} (weighed : before.Weighed)
    (sheds : before.Sheds after) : after.Weighed := by
  intro bound entry member
  rw [sheds.ceiling] at bound
  rw [sheds.weigh]
  exact weighed bound entry (sheds.mem_of_mem member)

theorem WithinCeiling.of_sheds {before after : Lru κ ν} (within : before.WithinCeiling)
    (counted : before.Counted) (weighed : before.Weighed) (sheds : before.Sheds after) :
    after.WithinCeiling := by
  intro bytes bound
  rw [sheds.ceiling] at bound
  have nonneg : ∀ entry ∈ before.entries, 0 ≤ entry.size := by
    intro entry member
    rw [weighed (by rw [bound]; rfl) entry member]
    exact Int.natCast_nonneg _
  have fewer := sheds.size_le
  have lighter : after.memory ≤ before.memory := by
    rw [sheds.counted counted, counted]
    exact countedBytes_le_of_subperm sheds.entries nonneg
  rcases within bytes bound with fits | single
  · exact Or.inl (by omega)
  · exact Or.inr (by omega)

variable [BEq κ]

/-- No two entries stand under equal keys. -/
def Distinct (cache : Lru κ ν) : Prop :=
  cache.entries.Pairwise fun first second => (first.key == second.key) = false

/-- What holds of a cache at any time, also before it is brought back to its bounds. -/
structure Accounted (cache : Lru κ ν) : Prop where
  distinct : cache.Distinct
  counted : cache.Counted
  weighed : cache.Weighed

/-- What holds of a cache between two actions. -/
structure Sound (cache : Lru κ ν) : Prop extends Accounted cache where
  roomy : cache.size ≤ cache.capacity
  within : cache.WithinCeiling

theorem accounted_weighedAfresh {cache : Lru κ ν} (distinct : cache.Distinct) (bytes : Int) :
    (cache.weighedAfresh bytes).Accounted := by
  refine ⟨List.pairwise_map.mpr distinct, rfl, ?_⟩
  intro _ entry member
  obtain ⟨old, -, rfl⟩ := List.mem_map.mp member
  rfl

/-- The cache with a value stored, before it is brought back to its bounds. -/
def withStored (cache : Lru κ ν) (now : Float) (key : κ) (value : ν) : Lru κ ν :=
  let size : Int := if cache.ceiling.isSome then ((cache.weigh key value : Nat) : Int) else 0
  { cache.without key with
    entries := (cache.without key).entries ++ [⟨key, value, now, size⟩]
    memory := (cache.without key).memory + size }

theorem set_eq (cache : Lru κ ν) (now : Float) (key : κ) (value : ν) :
    cache.set now key value = (cache.withStored now key value).keepCapacity.keepCeiling := rfl

/-! ## What no action changes -/

theorem weigh_perform (cache : Lru κ ν) (action : Action κ ν) :
    (cache.perform action).weigh = cache.weigh := by
  cases action with
  | get now key => exact (sheds_get cache now key).weigh
  | set now key value =>
      have stored : (cache.withStored now key value).weigh = cache.weigh :=
        (sheds_without cache key).weigh
      have kept := (sheds_keepCapacity (cache.withStored now key value)).trans (sheds_keepCeiling _)
      exact kept.weigh.trans stored
  | contains now key => exact (sheds_contains cache now key).weigh
  | delete key => exact (sheds_delete cache key).weigh
  | clear => rfl
  | trim target => exact (sheds_trimTo cache target.toNat).weigh
  | removeExpired now => rfl
  | setCapacity capacity =>
      by_cases small : capacity < 1
      · simp [perform, setCapacity, small, Except.toOption]
      · simpa [perform, setCapacity, small, Except.toOption] using
          (sheds_keepCapacity { cache with capacity := capacity.toNat }).weigh
  | setTimeToLive now timeToLive => rfl
  | setCeiling ceiling =>
      cases ceiling with
      | none => rfl
      | some bytes => exact (sheds_keepCeiling (cache.weighedAfresh bytes)).weigh

theorem weigh_run (cache : Lru κ ν) (actions : List (Action κ ν)) :
    (cache.run actions).weigh = cache.weigh := by
  induction actions generalizing cache with
  | nil => rfl
  | cons action rest inductionHypothesis =>
      exact (inductionHypothesis (cache.perform action)).trans (weigh_perform cache action)

theorem sound_create {name : String} {capacity : Int} {timeToLive : Option Number}
    {ceiling : Option Int} {weigh : κ → ν → Nat} {start : Lru κ ν}
    (created : create name capacity timeToLive ceiling weigh = .ok start) :
    start.Sound ∧ start.weigh = weigh := by
  unfold create at created
  split at created
  · cases created
  · cases created
    exact ⟨⟨⟨List.Pairwise.nil, rfl, fun _ => nofun⟩, Nat.zero_le _,
      fun _ _ => Or.inr (Nat.zero_le _)⟩, rfl⟩

/-! ## What every action keeps -/

variable [PartialEquivBEq κ]

theorem Distinct.of_sheds {before after : Lru κ ν} (distinct : before.Distinct)
    (sheds : before.Sheds after) : after.Distinct := by
  obtain ⟨middle, same, sublist⟩ := sheds.entries
  have symmetric : ∀ {first second : Entry κ ν}, (first.key == second.key) = false →
      (second.key == first.key) = false := by
    intro first second apart
    rw [BEq.comm]
    exact apart
  exact same.pairwise (distinct.sublist sublist) symmetric

theorem Accounted.of_sheds {before after : Lru κ ν} (accounted : before.Accounted)
    (sheds : before.Sheds after) : after.Accounted :=
  ⟨accounted.distinct.of_sheds sheds, sheds.counted accounted.counted,
    accounted.weighed.of_sheds sheds⟩

theorem Sound.of_sheds {before after : Lru κ ν} (sound : before.Sound)
    (sheds : before.Sheds after) : after.Sound := by
  refine ⟨sound.toAccounted.of_sheds sheds, ?_,
    sound.within.of_sheds sound.counted sound.weighed sheds⟩
  rw [sheds.capacity]
  exact sheds.size_le.trans sound.roomy

/-! ## Actions that add entries or change bounds -/

/-- Where the entry under a key is gone, no other entry stands under that key. -/
theorem Distinct.key_ne_of_mem_without {cache : Lru κ ν} (distinct : cache.Distinct) {key : κ}
    {entry : Entry κ ν} (member : entry ∈ (cache.without key).entries) :
    (entry.key == key) = false := by
  rw [entries_without] at member
  cases found : cache.entry? key with
  | none =>
      simpa using List.find?_eq_none.mp found entry (List.mem_of_mem_eraseP member)
  | some held =>
      obtain ⟨holds, front, rest, shape, left⟩ := exists_parts_of_entry? found
      rw [left, List.mem_append] at member
      rw [Distinct, shape, List.pairwise_append, List.pairwise_cons] at distinct
      obtain ⟨-, ⟨apartRest, -⟩, apartFront⟩ := distinct
      by_contra same
      have same : (entry.key == key) = true := by simpa using same
      rcases member with before | after
      · have apart := apartFront entry before held List.mem_cons_self
        rw [BEq.trans same (BEq.symm holds)] at apart
        cases apart
      · have apart := apartRest entry after
        rw [BEq.trans holds (BEq.symm same)] at apart
        cases apart

/-- The entry under a key, which is unique, among those before and after it. -/
theorem exists_only_entry {cache : Lru κ ν} (distinct : cache.Distinct) {key : κ}
    {entry : Entry κ ν} (found : cache.entry? key = some entry) :
    ∃ front rest, cache.entries = front ++ entry :: rest ∧
      (cache.without key).entries = front ++ rest ∧
      ∀ other ∈ front ++ rest, (other.key == key) = false := by
  obtain ⟨-, front, rest, shape, left⟩ := exists_parts_of_entry? found
  rw [← entries_without] at left
  refine ⟨front, rest, shape, left, ?_⟩
  intro other member
  rw [← left] at member
  exact distinct.key_ne_of_mem_without member

theorem accounted_withStored {cache : Lru κ ν} (accounted : cache.Accounted) (now : Float)
    (key : κ) (value : ν) : (cache.withStored now key value).Accounted := by
  have shed := sheds_without cache key
  have rest := accounted.of_sheds shed
  refine ⟨?_, ?_, ?_⟩
  · refine List.pairwise_append.mpr ⟨rest.distinct, List.pairwise_singleton _ _, ?_⟩
    intro other member stored same
    rw [List.mem_singleton.mp same]
    exact accounted.distinct.key_ne_of_mem_without member
  · have bytes : (cache.without key).memory = countedBytes (cache.without key).entries :=
      rest.counted
    simp only [Counted, withStored, countedBytes_append, countedBytes_cons, countedBytes_nil]
    omega
  · intro bound entry member
    have weighing : (cache.withStored now key value).weigh = (cache.without key).weigh := rfl
    have bound : (cache.without key).ceiling.isSome := bound
    rw [weighing]
    rcases List.mem_append.mp member with old | new
    · exact rest.weighed bound entry old
    · rw [List.mem_singleton.mp new, shed.weigh]
      rw [shed.ceiling] at bound
      exact if_pos bound

/-- Bringing a cache back to its bounds is all that is missing to the invariant. -/
theorem Accounted.sound_keep {cache : Lru κ ν} (accounted : cache.Accounted) :
    cache.keepCapacity.keepCeiling.Sound := by
  have first := sheds_keepCapacity cache
  have second := sheds_keepCeiling cache.keepCapacity
  refine ⟨accounted.of_sheds (first.trans second), ?_, withinCeiling_keepCeiling _⟩
  have room := size_keepCapacity_le cache
  have fewer := second.size_le
  rw [second.capacity, first.capacity]
  omega

theorem sound_set {cache : Lru κ ν} (accounted : cache.Accounted) (now : Float) (key : κ)
    (value : ν) : (cache.set now key value).Sound := by
  rw [set_eq]
  exact (accounted_withStored accounted now key value).sound_keep

theorem sound_setCapacity {cache resized : Lru κ ν} (sound : cache.Sound) {capacity : Int}
    (accepted : cache.setCapacity capacity = .ok resized) : resized.Sound := by
  unfold setCapacity at accepted
  split at accepted
  · cases accepted
  · cases accepted
    have shed := sheds_keepCapacity { cache with capacity := capacity.toNat }
    have accounted : Accounted { cache with capacity := capacity.toNat } :=
      ⟨sound.distinct, sound.counted, sound.weighed⟩
    have within : WithinCeiling { cache with capacity := capacity.toNat } := sound.within
    refine ⟨accounted.of_sheds shed, ?_,
      within.of_sheds accounted.counted accounted.weighed shed⟩
    rw [shed.capacity]
    exact size_keepCapacity_le _

theorem sound_setCeiling {cache : Lru κ ν} (sound : cache.Sound) (ceiling : Option Int) :
    (cache.setCeiling ceiling).Sound := by
  cases ceiling with
  | none => exact ⟨⟨sound.distinct, sound.counted, nofun⟩, sound.roomy, nofun⟩
  | some bytes =>
      have accounted := accounted_weighedAfresh sound.distinct bytes
      have shed := sheds_keepCeiling (cache.weighedAfresh bytes)
      have fewer := shed.size_le
      have room := sound.roomy
      rw [setCeiling_some]
      refine ⟨accounted.of_sheds shed, ?_, withinCeiling_keepCeiling _⟩
      rw [size_weighedAfresh] at fewer
      rw [shed.capacity]
      exact fewer.trans room

/-! ## Runs -/

theorem sound_perform {cache : Lru κ ν} (sound : cache.Sound) (action : Action κ ν) :
    (cache.perform action).Sound := by
  cases action with
  | get now key => exact sound.of_sheds (sheds_get cache now key)
  | set now key value => exact sound_set sound.toAccounted now key value
  | contains now key => exact sound.of_sheds (sheds_contains cache now key)
  | delete key => exact sound.of_sheds (sheds_delete cache key)
  | clear => exact sound.of_sheds (sheds_clear cache)
  | trim target => exact sound.of_sheds (sheds_trimTo cache target.toNat)
  | removeExpired now => exact sound.of_sheds (sheds_removeExpired cache now)
  | setCapacity capacity =>
      cases outcome : cache.setCapacity capacity with
      | error failure => simpa [perform, outcome, Except.toOption] using sound
      | ok resized =>
          simpa [perform, outcome, Except.toOption] using sound_setCapacity sound outcome
  | setTimeToLive now timeToLive => exact sound.of_sheds (sheds_setTimeToLive cache now timeToLive)
  | setCeiling ceiling => exact sound_setCeiling sound ceiling

theorem sound_run {cache : Lru κ ν} (sound : cache.Sound) (actions : List (Action κ ν)) :
    (cache.run actions).Sound := by
  induction actions generalizing cache with
  | nil => exact sound
  | cons action rest inductionHypothesis => exact inductionHypothesis (sound_perform sound action)

/-- After any run of a cache with room for an entry no key is held twice, there are no more entries
than there is room for, the bytes that are told are the weights of what is held, and they keep to the
ceiling, if there is one, unless no more than one entry is left. -/
theorem accounts_of_run (name : String) {capacity : Int} (roomy : 1 ≤ capacity)
    (timeToLive : Option Number) (ceiling : Option Int) (weigh : κ → ν → Nat)
    (actions : List (Action κ ν)) :
    ∃ start, create name capacity timeToLive ceiling weigh = .ok start ∧
      ((start.run actions).keys.Pairwise fun first second => (first == second) = false) ∧
      (start.run actions).size ≤ (start.run actions).capacity ∧
      (start.run actions).usage =
        ((start.run actions).entries.map fun entry =>
          ((weigh entry.key entry.value : Nat) : Int)).sum ∧
      ∀ bytes, (start.run actions).ceiling = some bytes →
        (start.run actions).usage ≤ bytes ∨ (start.run actions).size ≤ 1 := by
  obtain ⟨start, created⟩ : ∃ start, create name capacity timeToLive ceiling weigh = .ok start :=
    ⟨_, if_neg (by omega)⟩
  obtain ⟨fresh, weighing⟩ := sound_create created
  have sound := sound_run fresh actions
  have weights : (start.run actions).usage = (start.run actions).weight :=
    usage_eq_weight sound.counted sound.weighed
  refine ⟨start, created, List.pairwise_map.mpr sound.distinct, sound.roomy, ?_, ?_⟩
  · rw [weights, weight, weigh_run, weighing]
  · intro bytes bound
    have told : (start.run actions).usage = (start.run actions).memory := by
      simp only [usage, bound]
    rw [told]
    exact sound.within bytes bound

/-- A run in which the ceiling is switched on, off and on again, and a capacity is refused. -/
def switchedCeiling : List (Action String Nat) :=
  [.set 0 "a" 3, .setCeiling (some 5), .set 1 "b" 4, .setCapacity 0, .setCeiling none,
    .set 2 "c" 9, .get 3 "b", .setCeiling (some 12), .delete "c"]

theorem accounts_of_switchedCeiling :
    (1 : Int) ≤ 2 ∧
      ∃ start, create "sample" 2 none none (fun key value => key.length + value) = .ok start ∧
        ((start.run switchedCeiling).keys.Pairwise fun first second => (first == second) = false) ∧
        (start.run switchedCeiling).size ≤ (start.run switchedCeiling).capacity ∧
        (start.run switchedCeiling).usage =
          ((start.run switchedCeiling).entries.map fun entry =>
            ((entry.key.length + entry.value : Nat) : Int)).sum ∧
        ∀ bytes, (start.run switchedCeiling).ceiling = some bytes →
          (start.run switchedCeiling).usage ≤ bytes ∨ (start.run switchedCeiling).size ≤ 1 :=
  ⟨by decide, accounts_of_run "sample" (by decide) none none _ switchedCeiling⟩

end Lru

end BooleanSearch.Cache
