import BooleanSearch.Cache.Registry
import BooleanSearch.Proofs.Cache.Shedding
import BooleanSearch.Proofs.Decimal.Magnitudes
import Mathlib.Data.List.Nodup

/-!
# Trimming under pressure

Under pressure every cache of a registry keeps the share of its entries that its profile grants, the most
recently used ones, and the trim tells how many entries each cache lost.  What was lost is also reported
with the names of the caches beside the words that a report is made of, so a trim cannot be reported if a
cache with such a name lost entries.
-/

namespace BooleanSearch.Cache

variable {ν : Type}

/-- The shares that profiles leave under pressure are at most three quarters. -/
theorem Profile.magnitude_keeps_le (profile : Profile) {pressure : Pressure}
    (scarce : pressure ≠ .low) : Decimal.magnitude (profile.keeps pressure) ≤ 3 / 4 := by
  cases pressure with
  | low => exact absurd rfl scarce
  | medium => cases profile <;> decide +kernel
  | high => cases profile <;> decide +kernel

theorem Profile.target_le (profile : Profile) {pressure : Pressure} (scarce : pressure ≠ .low)
    (size : Nat) : profile.target pressure size ≤ size := by
  unfold target
  cases whole : Decimal.truncate? (Decimal.ofInt size * profile.keeps pressure) with
  | none => exact Nat.zero_le _
  | some number => exact Decimal.truncate_share_le (profile.magnitude_keeps_le scarce) whole

namespace Lru

variable {κ : Type}

theorem evictions_dropOldestBy (cache : Lru κ ν) (count : Nat) (enough : count ≤ cache.size) :
    (cache.dropOldestBy count).evictions = cache.evictions + count := by
  induction count generalizing cache with
  | zero => rfl
  | succ count inductionHypothesis =>
      cases shape : cache.entries with
      | nil => simp [size, shape] at enough
      | cons oldest rest =>
          have less : count ≤ cache.dropOldest.size := by
            rw [size_dropOldest]
            omega
          have further := inductionHypothesis cache.dropOldest less
          rw [dropOldestBy, further]
          simp only [dropOldest_of_cons shape]
          omega

end Lru

namespace Registered

/-- How many of its entries a cache keeps under some pressure. -/
def kept (registered : Registered ν) (pressure : Pressure) : Nat :=
  if pressure = .low then registered.cache.size
  else (registered.profile.getD .heavy).target pressure registered.cache.size

/-- How many entries a cache loses under some pressure. -/
def lost (registered : Registered ν) (pressure : Pressure) : Nat :=
  registered.cache.size - registered.kept pressure

theorem kept_le (registered : Registered ν) (pressure : Pressure) :
    registered.kept pressure ≤ registered.cache.size := by
  unfold kept
  split
  · exact Nat.le_refl _
  · next scarce => exact Profile.target_le _ scarce _

/-- A cache before and after a trim. -/
structure Trimmed (pressure : Pressure) (before after : Registered ν) : Prop where
  profile : after.profile = before.profile
  entries : after.cache.entries = before.cache.entries.drop (before.lost pressure)
  size : after.cache.size = before.kept pressure
  evictions : after.cache.evictions = before.cache.evictions + before.lost pressure

theorem trimmed_low (registered : Registered ν) : registered.Trimmed .low registered := by
  have keeps : registered.kept .low = registered.cache.size := if_pos rfl
  have loses : registered.lost .low = 0 := by simp [lost, keeps]
  refine ⟨rfl, ?_, keeps.symm, ?_⟩
  · rw [loses, List.drop_zero]
  · rw [loses, Nat.add_zero]

theorem trimOne_eq {pressure : Pressure} (scarce : pressure ≠ .low) (registered : Registered ν) :
    Registry.trimOne pressure registered =
      (registered.lost pressure,
        { registered with cache := registered.cache.dropOldestBy (registered.lost pressure) }) := by
  simp only [Registry.trimOne, Lru.trimTo, lost, kept, if_neg scarce]

theorem trimmed_trimOne {pressure : Pressure} (scarce : pressure ≠ .low)
    (registered : Registered ν) :
    registered.Trimmed pressure (Registry.trimOne pressure registered).2 := by
  have bound := registered.kept_le pressure
  have fewer : registered.lost pressure ≤ registered.cache.size := Nat.sub_le _ _
  rw [trimOne_eq scarce]
  refine ⟨rfl, Lru.entries_dropOldestBy _ _, ?_, Lru.evictions_dropOldestBy _ _ fewer⟩
  rw [Lru.size_dropOldestBy]
  unfold lost
  omega

end Registered

namespace Registry

/-- Every cache of a registry has a profile. -/
def Profiled (registry : Registry ν) : Prop :=
  ∀ entry ∈ registry.caches, entry.2.profile.isSome

theorem unprofiled?_eq_none_iff (registry : Registry ν) :
    registry.unprofiled? = none ↔ registry.Profiled := by
  simp only [unprofiled?, Option.map_eq_none_iff, List.find?_eq_none, Profiled]
  simp [Option.isSome_iff_ne_none]

/-- The names of the caches that lose entries, with the number of entries lost. -/
def losses (registry : Registry ν) (pressure : Pressure) : List (String × Nat) :=
  (registry.caches.map fun entry => (entry.1, entry.2.lost pressure)).filter fun entry => entry.2 != 0

theorem mem_losses {registry : Registry ν} {pressure : Pressure} {name : String} {count : Nat} :
    (name, count) ∈ registry.losses pressure ↔
      count ≠ 0 ∧ ∃ registered, (name, registered) ∈ registry.caches ∧
        registered.lost pressure = count := by
  simp only [losses, List.mem_filter, List.mem_map, bne_iff_ne, ne_eq, Prod.mk.injEq, Prod.exists]
  constructor
  · rintro ⟨⟨_, registered, member, rfl, rfl⟩, some⟩
    exact ⟨some, registered, member, rfl⟩
  · rintro ⟨some, registered, member, rfl⟩
    exact ⟨⟨name, registered, member, rfl, rfl⟩, some⟩

theorem nodup_losses {registry : Registry ν} (distinct : registry.names.Nodup)
    (pressure : Pressure) : ((registry.losses pressure).map Prod.fst).Nodup := by
  have names : (registry.caches.map fun entry => (entry.1, entry.2.lost pressure)).map Prod.fst =
      registry.names := by
    simp [names, Function.comp_def]
  have part := (List.filter_sublist
    (l := registry.caches.map fun entry => (entry.1, entry.2.lost pressure))
    (p := fun entry => entry.2 != 0)).map Prod.fst
  rw [names] at part
  exact distinct.sublist part

/-- The words that the name of a cache must differ from for its losses to be reported. -/
def takenWords : List String :=
  "pressure" :: reportWords

theorem trimFault?_eq_none_iff (removed : List (String × Nat)) :
    trimFault? removed = none ↔ ∀ entry ∈ removed, entry.1 ∉ takenWords := by
  unfold trimFault?
  by_cases named : removed.any fun entry => entry.1 == "pressure"
  · rw [if_pos named]
    obtain ⟨entry, member, same⟩ := List.any_eq_true.mp named
    refine ⟨nofun, fun free => absurd ?_ (free entry member)⟩
    rw [takenWords, eq_of_beq same]
    exact List.mem_cons_self
  · rw [if_neg named]
    simp only [Option.map_eq_none_iff, List.find?_eq_none, takenWords, List.mem_cons, not_or,
      List.contains_iff_mem]
    simp only [List.any_eq_true, not_exists, not_and, beq_iff_eq] at named
    exact ⟨fun free entry member => ⟨named entry member, free entry member⟩,
      fun free entry member => (free entry member).2⟩

theorem applyPressure_of_unprofiled {registry : Registry ν} {pressure : Pressure}
    (scarce : pressure ≠ .low) (unprofiled : ¬registry.Profiled) :
    ∃ name, registry.applyPressure pressure = .error (.missingKey (Text.quoted name)) := by
  rw [← unprofiled?_eq_none_iff] at unprofiled
  obtain ⟨name, first⟩ := Option.ne_none_iff_exists'.mp unprofiled
  refine ⟨name, ?_⟩
  simp only [applyPressure, beq_iff_eq, if_neg scarce, first]

/-- A trim of a registry of which every cache has a profile. -/
theorem applyPressure_of_profiled {registry : Registry ν} (profiled : registry.Profiled)
    (pressure : Pressure) :
    ∃ trim, registry.applyPressure pressure = .ok trim ∧
      trim.removed = registry.losses pressure ∧
      trim.failure = trimFault? (registry.losses pressure) ∧
      List.Forall₂ (fun before after => after.1 = before.1 ∧
        before.2.Trimmed pressure after.2) registry.caches trim.registry.caches := by
  by_cases low : pressure = .low
  · subst low
    have nothing : registry.losses .low = [] := by
      refine List.eq_nil_iff_forall_not_mem.mpr ?_
      rintro ⟨name, count⟩ member
      obtain ⟨some, registered, -, rfl⟩ := mem_losses.mp member
      exact some (by simp [Registered.lost, Registered.kept])
    refine ⟨⟨[], [], none, registry⟩, rfl, nothing.symm, by rw [nothing]; rfl, ?_⟩
    exact List.forall₂_same.mpr fun entry _ => ⟨rfl, entry.2.trimmed_low⟩
  · have known := (unprofiled?_eq_none_iff registry).mpr profiled
    refine ⟨_, by simp only [applyPressure, beq_iff_eq, if_neg low, known]; rfl, ?_, ?_, ?_⟩
    · simp [losses, Registered.trimOne_eq low, Function.comp_def]
    · simp [losses, Registered.trimOne_eq low, Function.comp_def]
    · simp only [List.map_map, List.forall₂_map_right_iff]
      exact List.forall₂_same.mpr fun entry _ =>
        ⟨rfl, Registered.trimmed_trimOne low entry.2⟩

/-- A trim leaves each cache the share of its profile, and finds exactly the caches that lose entries.
It can tell them exactly if none of them has a name that the report takes for itself. -/
theorem applyPressure_tells_iff {registry : Registry ν} (distinct : registry.names.Nodup)
    (profiled : registry.Profiled) (pressure : Pressure) :
    ∃ trim, registry.applyPressure pressure = .ok trim ∧
      List.Forall₂ (fun before after => after.1 = before.1 ∧
        before.2.Trimmed pressure after.2) registry.caches trim.registry.caches ∧
      (∀ name count, (name, count) ∈ trim.removed ↔
        count ≠ 0 ∧ ∃ registered, (name, registered) ∈ registry.caches ∧
          registered.lost pressure = count) ∧
      (trim.removed.map Prod.fst).Nodup ∧
      (trim.outcome = .ok trim.removed ↔ ∀ entry ∈ trim.removed, entry.1 ∉ takenWords) := by
  obtain ⟨trim, done, removed, failure, trimmed⟩ := applyPressure_of_profiled profiled pressure
  refine ⟨trim, done, trimmed, ?_, ?_, ?_⟩
  · intro name count
    rw [removed]
    exact mem_losses
  · rw [removed]
    exact nodup_losses distinct pressure
  · rw [← trimFault?_eq_none_iff, removed, ← failure]
    unfold Trim.outcome
    cases trim.failure with
    | none => exact iff_of_true (by rw [removed]) rfl
    | some fault => exact iff_of_false nofun nofun

/-- A registry in which caches of some names and profiles hold ten entries each. -/
def filled (wanted : List (String × String)) : Registry Nat :=
  wanted.foldl (fun registry (name, profile) =>
    ((registry.create name ⟨10, none, none, profile⟩ fun _ _ => 1).2).update name fun cache =>
      (List.range 10).foldl (fun cache index => cache.set 0 (toString index) index) cache) empty

theorem applyPressure_tells_lightAndHeavy :
    (filled [("stats", "light"), ("texts", "heavy")]).names.Nodup ∧
      (filled [("stats", "light"), ("texts", "heavy")]).Profiled ∧
      ∃ trim, (filled [("stats", "light"), ("texts", "heavy")]).applyPressure .medium = .ok trim ∧
        trim.removed = [("stats", 3), ("texts", 5)] ∧ trim.outcome = .ok trim.removed := by
  have distinct : (filled [("stats", "light"), ("texts", "heavy")]).names.Nodup := by decide +kernel
  have profiled : (filled [("stats", "light"), ("texts", "heavy")]).Profiled :=
    (unprofiled?_eq_none_iff _).mp (by decide +kernel)
  obtain ⟨trim, done, -, -, -, told⟩ := applyPressure_tells_iff distinct profiled .medium
  obtain ⟨other, same, removed, -, -⟩ := applyPressure_of_profiled profiled .medium
  have lost : (filled [("stats", "light"), ("texts", "heavy")]).losses .medium =
      [("stats", 3), ("texts", 5)] := by decide +kernel
  obtain rfl : trim = other := Except.ok.inj (done.symm.trans same)
  rw [lost] at removed
  refine ⟨distinct, profiled, trim, done, removed, told.mpr ?_⟩
  rw [removed]
  decide

theorem applyPressure_untold_of_pressure :
    ∃ trim, (filled [("pressure", "heavy")]).applyPressure .high = .ok trim ∧
      trim.removed = [("pressure", 10)] ∧
      trim.outcome = .error (.badKind ("fileseek.utils.logging.log_with_context() got multiple "
        ++ "values for keyword argument 'pressure'")) := by
  have profiled : (filled [("pressure", "heavy")]).Profiled :=
    (unprofiled?_eq_none_iff _).mp (by decide +kernel)
  obtain ⟨trim, done, removed, failure, -⟩ := applyPressure_of_profiled profiled .high
  have lost : (filled [("pressure", "heavy")]).losses .high = [("pressure", 10)] := by
    decide +kernel
  rw [lost] at removed failure
  refine ⟨trim, done, removed, ?_⟩
  simp only [Trim.outcome, failure]
  rfl

end Registry

end BooleanSearch.Cache
