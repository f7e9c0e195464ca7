import BooleanSearch.Proofs.Cache.Accounting
import Mathlib.Data.List.Forall2

/-!
# Larger caches

Two caches that only differ in their room are asked the same, not necessarily at the same times.
The smaller one holds part of what the larger one holds, in the same order of use.  A hit may
reorder the larger cache alone, so this is kept only together with a bound: the larger cache is
ahead by no more entries than it has more room.  When it gives up an entry, it is full, so the
smaller one is full as well and gives up its oldest.
-/

namespace BooleanSearch.Cache

variable {κ ν : Type}

/-- Two actions ask the same of a cache: to store, to find, to test for or to remove something under
a key. The times of both are their own. -/
inductive SameRequest : Action κ ν → Action κ ν → Prop
  | get (first second : Float) (key : κ) : SameRequest (.get first key) (.get second key)
  | set (first second : Float) (key : κ) (value : ν) :
    SameRequest (.set first key value) (.set second key value)
  | contains (first second : Float) (key : κ) :
    SameRequest (.contains first key) (.contains second key)
  | delete (key : κ) : SameRequest (.delete key) (.delete key)

theorem SameRequest.symm {first second : Action κ ν} (same : SameRequest first second) :
    SameRequest second first := by
  cases same with
  | get firstTime secondTime key => exact .get secondTime firstTime key
  | set firstTime secondTime key value => exact .set secondTime firstTime key value
  | contains firstTime secondTime key => exact .contains secondTime firstTime key
  | delete key => exact .delete key

namespace Lru

/-- The keys of a cache with their values, from the least to the most recently used. -/
def contents (cache : Lru κ ν) : List (κ × ν) :=
  cache.entries.map fun entry => (entry.key, entry.value)

theorem keys_eq_contents (cache : Lru κ ν) : cache.keys = cache.contents.map Prod.fst := by
  rw [contents, List.map_map]
  rfl

theorem size_eq_contents (cache : Lru κ ν) : cache.size = cache.contents.length :=
  (List.length_map _).symm

/-- A cache has room for a number of entries, which never expire and are not weighed. -/
structure RoomOnly (room : Nat) (cache : Lru κ ν) : Prop where
  capacity : cache.capacity = room
  lasting : cache.timeToLive = none
  unweighed : cache.ceiling = none

/-- Where entries are not weighed, only those that are too many are given up. -/
theorem contents_keep {cache : Lru κ ν} (unweighed : cache.ceiling = none) :
    cache.keepCapacity.keepCeiling.contents = cache.contents.drop (cache.size - cache.capacity) := by
  have bound : cache.keepCapacity.ceiling = none := (sheds_keepCapacity cache).ceiling.trans unweighed
  have same : cache.keepCapacity.keepCeiling = cache.keepCapacity := by
    unfold keepCeiling
    rw [bound]
  rw [same, contents, keepCapacity, trimTo, entries_dropOldestBy, List.map_drop]
  rfl

variable [BEq κ]

/-- A pair stands under a key. -/
def under (key : κ) (pair : κ × ν) : Bool :=
  pair.1 == key

theorem pair_of_entry (cache : Lru κ ν) (key : κ) :
    (cache.entry? key).map (fun entry => (entry.key, entry.value)) =
      cache.contents.find? (under key) := by
  unfold entry? contents
  rw [List.find?_map]
  rfl

theorem contents_without (cache : Lru κ ν) (key : κ) :
    (cache.without key).contents = cache.contents.eraseP (under key) := by
  rw [contents, entries_without, contents, List.eraseP_map]
  rfl

section RoomOnly

variable {room : Nat} {cache : Lru κ ν}

omit [BEq κ] in
theorem RoomOnly.expired_eq_false (only : cache.RoomOnly room) (now : Float)
    (entry : Entry κ ν) : cache.expired now entry = false := by
  rw [expired, only.lasting]
  rfl

theorem RoomOnly.get_value (only : cache.RoomOnly room) (now : Float) (key : κ) :
    (cache.get now key).1 = (cache.contents.find? (under key)).map Prod.snd := by
  rw [← pair_of_entry]
  cases found : cache.entry? key with
  | none => simp [get, found]
  | some entry => simp [get, found, only.expired_eq_false]

/-- A pair that is found becomes the last. -/
theorem RoomOnly.contents_get (only : cache.RoomOnly room) (now : Float) (key : κ) :
    (cache.get now key).2.contents =
      cache.contents.eraseP (under key) ++ (cache.contents.find? (under key)).toList := by
  rw [← contents_without, ← pair_of_entry]
  cases found : cache.entry? key with
  | none => simp [get, found, without, contents]
  | some entry => simp [get, found, only.expired_eq_false, without, contents]

theorem RoomOnly.contains_eq (only : cache.RoomOnly room) (now : Float) (key : κ) :
    (cache.contains now key).2 = cache := by
  cases found : cache.entry? key with
  | none => simp [contains, found]
  | some entry => simp [contains, found, only.expired_eq_false]

theorem RoomOnly.contents_set (only : cache.RoomOnly room) (now : Float) (key : κ) (value : ν) :
    (cache.set now key value).contents =
      (cache.contents.eraseP (under key) ++ [(key, value)]).drop
        ((cache.contents.eraseP (under key)).length + 1 - room) := by
  have shed := sheds_without cache key
  have unweighed : (cache.withStored now key value).ceiling = none :=
    shed.ceiling.trans only.unweighed
  have capacity : (cache.withStored now key value).capacity = room :=
    shed.capacity.trans only.capacity
  have stored : (cache.withStored now key value).contents =
      cache.contents.eraseP (under key) ++ [(key, value)] := by
    rw [← contents_without, contents, withStored, List.map_append]
    rfl
  rw [set_eq, contents_keep unweighed, capacity, size_eq_contents, stored, List.length_append,
    List.length_singleton]

theorem RoomOnly.perform (only : cache.RoomOnly room) {action other : Action κ ν}
    (request : SameRequest action other) : (cache.perform action).RoomOnly room := by
  cases request with
  | get now _ key =>
      have shed := sheds_get cache now key
      exact ⟨shed.capacity.trans only.capacity, (timeToLive_get cache now key).trans only.lasting,
        shed.ceiling.trans only.unweighed⟩
  | set now _ key value =>
      have kept := (sheds_keepCapacity (cache.withStored now key value)).trans
        (sheds_keepCeiling _)
      exact ⟨(capacity_set cache now key value).trans only.capacity,
        (timeToLive_set cache now key value).trans only.lasting,
        kept.ceiling.trans ((sheds_without cache key).ceiling.trans only.unweighed)⟩
  | contains now _ key =>
      change (cache.contains now key).2.RoomOnly room
      rw [only.contains_eq]
      exact only
  | delete key =>
      have shed := sheds_delete cache key
      exact ⟨shed.capacity.trans only.capacity, (timeToLive_without cache key).trans only.lasting,
        shed.ceiling.trans only.unweighed⟩

end RoomOnly

/-! ## Pairs of one list among those of another -/

section Pairs

variable [PartialEquivBEq κ] {small large : List (κ × ν)} {key : κ}

/-- No two pairs stand under equal keys. -/
def Apart (pairs : List (κ × ν)) : Prop :=
  pairs.Pairwise fun first second => (first.1 == second.1) = false

omit [PartialEquivBEq κ] in
theorem apart_contents {cache : Lru κ ν} (distinct : cache.Distinct) : Apart cache.contents :=
  List.pairwise_map.mpr distinct

/-- In a list without equal keys, a pair is found under its key. -/
theorem find?_under_of_mem (apart : Apart large) {pair : κ × ν} (member : pair ∈ large)
    (holds : under key pair = true) : large.find? (under key) = some pair := by
  induction large with
  | nil => cases member
  | cons first rest inductionHypothesis =>
      obtain ⟨others, apartRest⟩ := List.pairwise_cons.mp apart
      rcases List.mem_cons.mp member with rfl | later
      · exact List.find?_cons_of_pos holds
      · have differs : ¬under key first = true := by
          intro same
          have equal : (first.1 == pair.1) = true := BEq.trans same (BEq.symm holds)
          rw [others pair later] at equal
          cases equal
        rw [List.find?_cons_of_neg differs]
        exact inductionHypothesis apartRest later

/-- What is found among some pairs is found among more of them. -/
theorem find?_under_of_sublist (included : small.Sublist large) (apart : Apart large)
    {pair : κ × ν} (found : small.find? (under key) = some pair) :
    large.find? (under key) = some pair :=
  find?_under_of_mem apart (included.subset (List.mem_of_find?_eq_some found))
    (List.find?_some found)

omit [PartialEquivBEq κ] in
theorem length_eraseP_under (pairs : List (κ × ν)) (key : κ) :
    (pairs.eraseP (under key)).length + (pairs.find? (under key)).toList.length = pairs.length := by
  induction pairs with
  | nil => rfl
  | cons first rest inductionHypothesis =>
      by_cases holds : under key first = true
      · rw [List.eraseP_cons_of_pos holds, List.find?_cons_of_pos holds]
        rfl
      · rw [List.eraseP_cons_of_neg holds, List.find?_cons_of_neg holds, List.length_cons,
          List.length_cons]
        omega

theorem length_found_le (included : small.Sublist large) (apart : Apart large) (key : κ) :
    (small.find? (under key)).toList.length ≤ (large.find? (under key)).toList.length := by
  cases found : small.find? (under key) with
  | none => exact Nat.zero_le _
  | some pair => rw [find?_under_of_sublist included apart found]

/-- Taking out a key leaves the longer list no further ahead. -/
theorem ahead_eraseP {few many : Nat} (included : small.Sublist large) (apart : Apart large)
    (ahead : large.length + few ≤ small.length + many) (key : κ) :
    (large.eraseP (under key)).length + few ≤ (small.eraseP (under key)).length + many := by
  have fromSmall := length_eraseP_under small key
  have fromLarge := length_eraseP_under large key
  have found := length_found_le included apart key
  omega

/-- What is found goes to the end of both lists. -/
theorem sublist_refreshed (included : small.Sublist large) (apart : Apart large) (key : κ) :
    (small.eraseP (under key) ++ (small.find? (under key)).toList).Sublist
      (large.eraseP (under key) ++ (large.find? (under key)).toList) := by
  refine included.eraseP.append ?_
  cases found : small.find? (under key) with
  | none => exact List.nil_sublist _
  | some pair => rw [find?_under_of_sublist included apart found]

end Pairs

/-- The shorter of two lists gives up at least as many of its first elements, unless the longer one
is further ahead than its room. -/
theorem sublist_drop_surplus {α : Type} {small large : List α} {few many : Nat}
    (included : small.Sublist large) (ahead : large.length + few ≤ small.length + many) :
    (small.drop (small.length - few)).Sublist (large.drop (large.length - many)) := by
  have fewer : large.length - many ≤ small.length - few := by omega
  exact (List.drop_sublist_drop_left small fewer).trans (included.drop _)

/-! ## Steps and runs -/

/-- A larger cache holds all that a smaller one does, and is ahead by no more entries than it has
more room. -/
structure Includes (many few : Nat) (large small : Lru κ ν) : Prop where
  largeRoom : large.RoomOnly many
  smallRoom : small.RoomOnly few
  sound : large.Sound
  contents : small.contents.Sublist large.contents
  ahead : large.contents.length + few ≤ small.contents.length + many

variable [PartialEquivBEq κ] {many few : Nat} {large small : Lru κ ν}

theorem Includes.get_value (includes : Includes many few large small) (now later : Float) {key : κ}
    {value : ν} (hit : (small.get now key).1 = some value) : (large.get later key).1 = some value := by
  rw [includes.smallRoom.get_value] at hit
  obtain ⟨pair, found, rfl⟩ := Option.map_eq_some_iff.mp hit
  rw [includes.largeRoom.get_value,
    find?_under_of_sublist includes.contents (apart_contents includes.sound.distinct) found]
  rfl

theorem Includes.perform (includes : Includes many few large small) {action other : Action κ ν}
    (request : SameRequest action other) :
    Includes many few (large.perform other) (small.perform action) := by
  have apart := apart_contents includes.sound.distinct
  have included := includes.contents
  have ahead := includes.ahead
  suffices held : (small.perform action).contents.Sublist (large.perform other).contents ∧
      (large.perform other).contents.length + few ≤ (small.perform action).contents.length + many from
    ⟨includes.largeRoom.perform request.symm, includes.smallRoom.perform request,
      sound_perform includes.sound other, held.1, held.2⟩
  cases request with
  | get now later key =>
      have fromSmall := length_eraseP_under small.contents key
      have fromLarge := length_eraseP_under large.contents key
      simp only [Lru.perform, includes.smallRoom.contents_get, includes.largeRoom.contents_get]
      refine ⟨sublist_refreshed included apart key, ?_⟩
      simp only [List.length_append]
      omega
  | set now later key value =>
      have others := ahead_eraseP included apart ahead key
      have stored : (small.contents.eraseP (under key) ++ [(key, value)]).Sublist
          (large.contents.eraseP (under key) ++ [(key, value)]) :=
        included.eraseP.append (List.Sublist.refl _)
      have surplus : (large.contents.eraseP (under key) ++ [(key, value)]).length + few ≤
          (small.contents.eraseP (under key) ++ [(key, value)]).length + many := by
        simp only [List.length_append, List.length_singleton]
        omega
      have kept := sublist_drop_surplus stored surplus
      simp only [List.length_append, List.length_singleton] at kept
      simp only [Lru.perform, includes.smallRoom.contents_set, includes.largeRoom.contents_set]
      refine ⟨kept, ?_⟩
      simp only [List.length_drop, List.length_append, List.length_singleton]
      omega
  | contains now later key =>
      simp only [Lru.perform, includes.smallRoom.contains_eq, includes.largeRoom.contains_eq]
      exact ⟨included, ahead⟩
  | delete key =>
      simp only [Lru.perform, delete, contents_without]
      exact ⟨included.eraseP, ahead_eraseP included apart ahead key⟩

theorem Includes.run (includes : Includes many few large small) {actions others : List (Action κ ν)}
    (requests : List.Forall₂ SameRequest actions others) :
    Includes many few (large.run others) (small.run actions) := by
  induction requests generalizing large small with
  | nil => exact includes
  | cons request _ inductionHypothesis => exact inductionHypothesis (includes.perform request)

omit [PartialEquivBEq κ] in
theorem includes_of_created {smallName largeName : String} {few many : Int} (more : few ≤ many)
    {weighSmall weighLarge : κ → ν → Nat} {small large : Lru κ ν}
    (createdSmall : create smallName few none none weighSmall = .ok small)
    (createdLarge : create largeName many none none weighLarge = .ok large) :
    Includes many.toNat few.toNat large small := by
  have sound := (sound_create createdLarge).1
  unfold create at createdSmall createdLarge
  split at createdSmall <;> cases createdSmall
  split at createdLarge <;> cases createdLarge
  exact ⟨⟨rfl, rfl, rfl⟩, ⟨rfl, rfl, rfl⟩, sound, List.Sublist.refl _,
    by simp only [contents, List.map_nil, List.length_nil]; omega⟩

/-- Two caches of which one has more room, without expiry and ceilings, are asked the same.  After
every request the keys of the smaller one are some of those of the larger one, in the same order of
use, and what is found in the smaller one is found in the larger one with the same value. -/
theorem larger_includes_smaller (smallName largeName : String) {few many : Int} (roomy : 1 ≤ few)
    (more : few ≤ many) (weighSmall weighLarge : κ → ν → Nat) {actions others : List (Action κ ν)}
    (requests : List.Forall₂ SameRequest actions others) :
    ∃ small large, create smallName few none none weighSmall = .ok small ∧
      create largeName many none none weighLarge = .ok large ∧
      ∀ count,
        (small.run (actions.take count)).keys.Sublist (large.run (others.take count)).keys ∧
        ∀ now later key value, ((small.run (actions.take count)).get now key).1 = some value →
          ((large.run (others.take count)).get later key).1 = some value := by
  obtain ⟨small, createdSmall⟩ : ∃ small, create smallName few none none weighSmall = .ok small :=
    ⟨_, if_neg (by omega)⟩
  obtain ⟨large, createdLarge⟩ : ∃ large, create largeName many none none weighLarge = .ok large :=
    ⟨_, if_neg (by omega)⟩
  have start := includes_of_created more createdSmall createdLarge
  refine ⟨small, large, createdSmall, createdLarge, fun count => ?_⟩
  have includes := start.run (List.forall₂_take count requests)
  refine ⟨?_, fun now later key value hit => includes.get_value now later hit⟩
  rw [keys_eq_contents, keys_eq_contents]
  exact includes.contents.map Prod.fst

/-- Requests after which the larger cache holds its keys in another order than they were stored
in. -/
def reorderedRequests (times : Nat → Float) : List (Action String Nat) :=
  [.set (times 0) "a" 1, .set (times 1) "b" 2, .set (times 2) "c" 3, .get (times 3) "a",
    .set (times 4) "d" 4, .delete "c", .contains (times 5) "b", .set (times 6) "e" 5]

theorem larger_includes_smaller_reordered :
    (1 : Int) ≤ 2 ∧ (2 : Int) ≤ 3 ∧
      List.Forall₂ SameRequest (reorderedRequests fun _ => 0) (reorderedRequests Float.ofNat) ∧
      ∃ small large, create "small" 2 none none (fun _ (_ : Nat) => 1) = .ok small ∧
        create "large" 3 none none (fun _ (_ : Nat) => 1) = .ok large ∧
        (small.run (reorderedRequests fun _ => 0)).keys = ["d", "e"] ∧
        (large.run (reorderedRequests Float.ofNat)).keys = ["a", "d", "e"] ∧
        ∀ count,
          (small.run ((reorderedRequests fun _ => 0).take count)).keys.Sublist
            (large.run ((reorderedRequests Float.ofNat).take count)).keys ∧
          ∀ now later key value,
            ((small.run ((reorderedRequests fun _ => 0).take count)).get now key).1 = some value →
              ((large.run ((reorderedRequests Float.ofNat).take count)).get later key).1 =
                some value := by
  have requests : List.Forall₂ SameRequest (reorderedRequests fun _ => 0)
      (reorderedRequests Float.ofNat) := by
    unfold reorderedRequests
    repeat' constructor
  obtain ⟨small, large, createdSmall, createdLarge, holds⟩ :=
    larger_includes_smaller "small" "large" (show (1 : Int) ≤ 2 by decide)
      (show (2 : Int) ≤ 3 by decide) (fun _ _ => 1) (fun _ _ => 1) requests
  refine ⟨by decide, by decide, requests, small, large, createdSmall, createdLarge, ?_, ?_, holds⟩
  · cases createdSmall
    decide +kernel
  · cases createdLarge
    decide +kernel

end Lru

end BooleanSearch.Cache
