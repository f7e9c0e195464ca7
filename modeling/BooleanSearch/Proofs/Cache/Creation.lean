import BooleanSearch.Proofs.Cache.Accounting
import BooleanSearch.Proofs.Cache.Pressure
import Mathlib.Data.List.Induction

/-!
# Failed creations

A registry looks at the name of a new cache, then at its capacity, and only after the cache was added at
its profile.  A creation that fails for the name or for the capacity leaves the registry as it was.  One
that gets as far as the profile leaves a cache without one, and no trim is possible as long as that cache
is there.  The run lemmas say that nothing else gets a registry into such a state.
-/

namespace BooleanSearch.Cache

variable {ν : Type}

/-- The names of the profiles. -/
def profileNames : List String :=
  ["light", "heavy"]

theorem exists_profile_iff (name : String) :
    (∃ profile, Profile.ofName name = .ok profile) ↔ name ∈ profileNames := by
  unfold Profile.ofName profileNames
  split
  · simp
  · simp
  · next light heavy =>
      simp only [List.mem_cons, List.not_mem_nil, or_false]
      exact iff_of_false (fun ⟨_, found⟩ => nomatch found) (not_or.mpr ⟨light, heavy⟩)

/-- A request for a cache under some name; one that reuses takes what is there. -/
structure Creation (ν : Type) where
  name : String
  settings : Registry.Settings
  weigh : String → ν → Nat
  reuse : Bool

namespace Registry

def attempt (registry : Registry ν) (creation : Creation ν) :
    Except Failure (Lru String ν) × Registry ν :=
  if creation.reuse then
    registry.getOrCreate creation.name creation.settings creation.weigh
  else registry.create creation.name creation.settings creation.weigh

/-- A creation comes as far as the profile, and the profile is unknown. -/
structure HalfAdds (registry : Registry ν) (creation : Creation ν) : Prop where
  free : registry.find? creation.name = none
  roomy : 1 ≤ creation.settings.capacity
  unknown : creation.settings.profile ∉ profileNames

/-- The registry with one more cache. -/
def withCache (registry : Registry ν) (name : String) (registered : Registered ν) : Registry ν :=
  ⟨registry.caches ++ [(name, registered)]⟩

/-- What may come of a creation. -/
inductive Attempted (registry : Registry ν) (creation : Creation ν) :
    Except Failure (Lru String ν) × Registry ν → Prop
  | refused (failure : Failure) (whole : ¬registry.HalfAdds creation) :
      Attempted registry creation (.error failure, registry)
  | found (cache : Lru String ν) (whole : ¬registry.HalfAdds creation) :
      Attempted registry creation (.ok cache, registry)
  | added (cache : Lru String ν) (profile : Profile) (free : registry.find? creation.name = none)
      (whole : ¬registry.HalfAdds creation) :
      Attempted registry creation
        (.ok cache, registry.withCache creation.name ⟨cache, some profile⟩)
  | halfAdded (cache : Lru String ν) (failure : Failure) (half : registry.HalfAdds creation) :
      Attempted registry creation
        (.error failure, registry.withCache creation.name ⟨cache, none⟩)

theorem attempted_add {registry : Registry ν} {creation : Creation ν}
    (free : registry.find? creation.name = none) :
    registry.Attempted creation
      (registry.add creation.name creation.settings creation.weigh) := by
  unfold add Lru.create
  by_cases small : creation.settings.capacity < 1
  · rw [if_pos small]
    refine .refused noRoom fun half => ?_
    have roomy := half.roomy
    omega
  · rw [if_neg small]
    cases known : Profile.ofName creation.settings.profile with
    | ok profile =>
        refine .added _ profile free fun half => half.unknown ?_
        exact (exists_profile_iff _).mp ⟨profile, known⟩
    | error failure =>
        refine .halfAdded _ failure ⟨free, by omega, fun member => ?_⟩
        obtain ⟨profile, found⟩ := (exists_profile_iff _).mpr member
        rw [known] at found
        cases found

theorem attempted_attempt (registry : Registry ν) (creation : Creation ν) :
    registry.Attempted creation (registry.attempt creation) := by
  unfold attempt getOrCreate create
  cases taken : registry.find? creation.name with
  | none =>
      simp only [Option.isSome_none, if_false, Bool.false_eq_true, ite_self]
      exact attempted_add taken
  | some cache =>
      have whole : ¬registry.HalfAdds creation := fun half => by
        have free := half.free
        rw [taken] at free
        cases free
      simp only [Option.isSome_some, if_true]
      split
      · exact .found cache whole
      · exact .refused _ whole

theorem attempt_keeps_iff {registry : Registry ν} {creation : Creation ν} {failure : Failure}
    (failed : (registry.attempt creation).1 = .error failure) :
    (registry.attempt creation).2 = registry ↔ ¬registry.HalfAdds creation := by
  have attempted := registry.attempted_attempt creation
  generalize registry.attempt creation = result at attempted failed
  cases attempted with
  | refused _ whole => exact iff_of_true rfl whole
  | found _ _ => cases failed
  | added _ _ _ _ => cases failed
  | halfAdded cache _ half =>
      refine iff_of_false (fun same => ?_) (not_not_intro half)
      have longer := congrArg (fun other => other.caches.length) same
      simp [withCache] at longer

/-! ## Names and profiles -/

theorem find?_eq_none_iff (registry : Registry ν) (name : String) :
    registry.find? name = none ↔ name ∉ registry.names := by
  rw [find?, Option.map_eq_none_iff, List.lookup_eq_none_iff]
  simp only [names, List.mem_map, not_exists, not_and, bne_iff_ne, ne_eq]
  exact ⟨fun apart entry member same => apart entry member same.symm,
    fun apart entry member same => apart entry member same.symm⟩

/-- The names of the caches with their profiles. -/
def labels (registry : Registry ν) : List (String × Option Profile) :=
  registry.caches.map fun entry => (entry.1, entry.2.profile)

theorem names_eq (registry : Registry ν) : registry.names = registry.labels.map Prod.fst := by
  simp [names, labels, Function.comp_def]

theorem profiled_iff (registry : Registry ν) :
    registry.Profiled ↔ ∀ label ∈ registry.labels, label.2.isSome := by
  simp only [Profiled, labels, List.forall_mem_map]

theorem labels_withCache (registry : Registry ν) (name : String) (registered : Registered ν) :
    (registry.withCache name registered).labels = registry.labels ++ [(name, registered.profile)] := by
  simp [labels, withCache]

theorem profiled_withCache_iff (registry : Registry ν) (name : String)
    (registered : Registered ν) :
    (registry.withCache name registered).Profiled ↔
      registry.Profiled ∧ registered.profile.isSome := by
  simp [Profiled, withCache, or_imp, forall_and]

theorem labels_remove (registry : Registry ν) (name : String) :
    (registry.remove name).2.labels = registry.labels.filter fun label => label.1 != name := by
  simp [labels, remove, List.filter_map, Function.comp_def]

theorem labels_update (registry : Registry ν) (name : String)
    (change : Lru String ν → Lru String ν) :
    (registry.update name change).labels = registry.labels := by
  simp only [labels, update, List.map_map]
  refine List.map_congr_left fun entry _ => ?_
  by_cases same : entry.1 = name
  · simp [same]
  · simp [same]

theorem labels_clearAll (registry : Registry ν) : registry.clearAll.2.labels = registry.labels := by
  simp [labels, clearAll]

theorem labels_applyPressure {registry : Registry ν} {pressure : Pressure} {trim : Trim ν}
    (done : registry.applyPressure pressure = .ok trim) :
    trim.registry.labels = registry.labels := by
  unfold applyPressure at done
  split at done
  · cases done
    rfl
  · split at done
    · cases done
    · cases done
      simp [labels, trimOne, Function.comp_def]

/-! ## Runs -/

/-- What may be done to a registry and its caches. -/
inductive Action (ν : Type)
  | build (creation : Creation ν)
  | remove (name : String)
  | operate (name : String) (action : Cache.Action String ν)
  | clearAll
  | trim (pressure : Pressure)

/-- The registry after an action, whether it succeeds or not. -/
def perform (registry : Registry ν) : Action ν → Registry ν
  | .build creation => (registry.attempt creation).2
  | .remove name => (registry.remove name).2
  | .operate name action => registry.update name fun cache => cache.perform action
  | .clearAll => registry.clearAll.2
  | .trim pressure => ((registry.applyPressure pressure).toOption.map Trim.registry).getD registry

/-- The registry after some actions; there are no caches at first. -/
def run (actions : List (Action ν)) : Registry ν :=
  actions.foldl perform empty

/-- What creates no cache adds no name, and changes no profile. -/
theorem labels_perform_sublist (registry : Registry ν) {action : Action ν}
    (other : ∀ creation, action ≠ .build creation) :
    (registry.perform action).labels.Sublist registry.labels := by
  cases action with
  | build creation => exact absurd rfl (other creation)
  | remove name =>
      rw [perform, labels_remove]
      exact List.filter_sublist
  | operate name action =>
      rw [perform, labels_update]
  | clearAll =>
      rw [perform, labels_clearAll]
  | trim pressure =>
      cases outcome : registry.applyPressure pressure with
      | error failure =>
          simp only [perform, outcome]
          exact List.Sublist.refl _
      | ok trim =>
          have same := labels_applyPressure outcome
          simp only [perform, outcome, Except.toOption, Option.map_some, Option.getD_some, same]
          exact List.Sublist.refl _

theorem nodup_names_perform {registry : Registry ν} (distinct : registry.names.Nodup)
    (action : Action ν) : (registry.perform action).names.Nodup := by
  by_cases builds : ∃ creation, action = .build creation
  · obtain ⟨creation, rfl⟩ := builds
    have append : ∀ {registered}, registry.find? creation.name = none →
        (registry.withCache creation.name registered).names.Nodup := by
      intro registered free
      rw [names_eq, labels_withCache, List.map_append, ← names_eq, List.map_singleton]
      exact distinct.append (List.nodup_singleton _) (List.disjoint_singleton.mpr
        ((find?_eq_none_iff registry creation.name).mp free))
    have attempted := registry.attempted_attempt creation
    rw [perform]
    generalize registry.attempt creation = result at attempted
    cases attempted with
    | refused _ _ => exact distinct
    | found _ _ => exact distinct
    | added _ _ free _ => exact append free
    | halfAdded _ _ half => exact append half.free
  · have part := (registry.labels_perform_sublist (not_exists.mp builds)).map Prod.fst
    rw [← names_eq, ← names_eq] at part
    exact distinct.sublist part

/-- Only a creation that adds half a cache leaves one without a profile. -/
theorem profiled_perform_iff {registry : Registry ν} (profiled : registry.Profiled)
    (action : Action ν) :
    (registry.perform action).Profiled ↔
      ∀ creation, action = .build creation → ¬registry.HalfAdds creation := by
  by_cases builds : ∃ creation, action = .build creation
  · obtain ⟨creation, rfl⟩ := builds
    have only : (∀ other, Action.build creation = .build other → ¬registry.HalfAdds other) ↔
        ¬registry.HalfAdds creation :=
      ⟨fun all => all creation rfl, fun whole other same => Action.build.inj same ▸ whole⟩
    have attempted := registry.attempted_attempt creation
    rw [only, perform]
    generalize registry.attempt creation = result at attempted
    cases attempted with
    | refused _ whole => exact iff_of_true profiled whole
    | found _ whole => exact iff_of_true profiled whole
    | added _ _ _ whole =>
        refine iff_of_true ?_ whole
        exact (profiled_withCache_iff _ _ _).mpr ⟨profiled, rfl⟩
    | halfAdded _ _ half =>
        refine iff_of_false (fun all => ?_) (not_not_intro half)
        exact nomatch ((profiled_withCache_iff _ _ _).mp all).2
  · have part := registry.labels_perform_sublist (not_exists.mp builds)
    refine iff_of_true ?_ fun creation same => absurd ⟨creation, same⟩ builds
    rw [profiled_iff] at profiled ⊢
    exact fun label member => profiled label (part.subset member)

theorem run_concat (actions : List (Action ν)) (action : Action ν) :
    run (actions ++ [action]) = (run actions).perform action :=
  List.foldl_concat perform empty action actions

theorem nodup_names_run (actions : List (Action ν)) : (run actions).names.Nodup := by
  induction actions using List.reverseRecOn with
  | nil => exact List.nodup_nil
  | append_singleton actions action inductionHypothesis =>
      rw [run_concat]
      exact nodup_names_perform inductionHypothesis action

theorem profiled_run_iff (actions : List (Action ν)) :
    (∀ done, done <+: actions → (run done).Profiled) ↔
      ∀ done creation, done ++ [.build creation] <+: actions → ¬(run done).HalfAdds creation := by
  constructor
  · intro profiled done creation part
    have before := profiled done ((List.prefix_append done _).trans part)
    have after := profiled _ part
    rw [run_concat, profiled_perform_iff before] at after
    exact after creation rfl
  · intro whole done
    induction done using List.reverseRecOn with
    | nil => exact fun _ => nofun
    | append_singleton done action inductionHypothesis =>
        intro part
        have before := inductionHypothesis ((List.prefix_append done _).trans part)
        rw [run_concat, profiled_perform_iff before]
        rintro creation rfl
        exact whole done creation part

theorem profiled_iff_trims (registry : Registry ν) :
    registry.Profiled ↔ ∀ pressure, ∃ trim, registry.applyPressure pressure = .ok trim := by
  constructor
  · intro profiled pressure
    obtain ⟨trim, done, -⟩ := applyPressure_of_profiled profiled pressure
    exact ⟨trim, done⟩
  · intro trims
    by_contra unprofiled
    have scarce : Pressure.high ≠ .low := nofun
    obtain ⟨trim, done⟩ := trims .high
    obtain ⟨name, failed⟩ := applyPressure_of_unprofiled scarce unprofiled
    rw [failed] at done
    cases done

/-- In any run the names stay apart; a creation that fails leaves the registry as it was exactly if it does
not get as far as an unknown profile; and every cache has a profile, so that any trim can be made,
exactly as long as no creation got there. -/
theorem failed_creation_keeps_iff (actions : List (Action ν)) :
    (run actions).names.Nodup ∧
      (∀ creation failure, ((run actions).attempt creation).1 = .error failure →
        (((run actions).attempt creation).2 = run actions ↔ ¬(run actions).HalfAdds creation)) ∧
      ((∀ done, done <+: actions → (run done).Profiled ∧
          ∀ pressure, ∃ trim, (run done).applyPressure pressure = .ok trim) ↔
        ∀ done creation, done ++ [.build creation] <+: actions →
          ¬(run done).HalfAdds creation) := by
  refine ⟨nodup_names_run actions, fun creation failure failed => attempt_keeps_iff failed, ?_⟩
  rw [← profiled_run_iff]
  exact forall₂_congr fun done _ =>
    ⟨And.left, fun profiled => ⟨profiled, (profiled_iff_trims _).mp profiled⟩⟩

/-- A request for a cache under a new name. -/
def fresh (name : String) (capacity : Int) (profile : String) : Creation Nat :=
  ⟨name, ⟨capacity, none, none, profile⟩, fun _ _ => 1, false⟩

/-- A name that is taken and a capacity that is too small are refused, and trims stay possible. -/
theorem failed_creation_keeps_light :
    ((run [.build (fresh "a" 1 "light")]).attempt (fresh "a" 2 "hot")).2 =
        run [.build (fresh "a" 1 "light")] ∧
      ((run [.build (fresh "a" 1 "light")]).attempt (fresh "b" 0 "hot")).2 =
        run [.build (fresh "a" 1 "light")] ∧
      ∀ pressure, ∃ trim,
        (run [.build (fresh "a" 1 "light")]).applyPressure pressure = .ok trim := by
  obtain ⟨-, keeps, trims⟩ := failed_creation_keeps_iff [.build (fresh "a" 1 "light")]
  refine ⟨(keeps (fresh "a" 2 "hot") _ rfl).mpr fun half => Option.some_ne_none _ half.free,
    (keeps (fresh "b" 0 "hot") _ rfl).mpr fun half => absurd half.roomy (by decide), ?_⟩
  refine (trims.mpr ?_ _ (List.prefix_refl _)).2
  intro done creation part half
  cases done with
  | nil =>
      obtain rfl : creation = fresh "a" 1 "light" := by simpa using part
      exact half.unknown (by decide)
  | cons first rest => simpa using part.length_le

/-- A cache of unknown profile is registered although its creation fails, and no trim is possible. -/
theorem failed_creation_adds_hot :
    ((run []).attempt (fresh "a" 1 "hot")).1 =
        .error (.badValue "'hot' is not a valid CacheProfile") ∧
      ((run []).attempt (fresh "a" 1 "hot")).2.names = ["a"] ∧
      ((((run []).attempt (fresh "a" 1 "hot")).2.applyPressure .high).map Trim.outcome) =
        .error (.missingKey "'a'") :=
  ⟨rfl, rfl, rfl⟩

end Registry

end BooleanSearch.Cache
