import BooleanSearch.Cache.Lru

/-!
# Where the entries of a cache come from

No operation of a cache makes up an entry: what is stored afterwards was stored before, or is the
value just set.  A look-up answers with the value of an entry under its key.
-/

namespace BooleanSearch.Cache.Lru

variable {κ ν : Type}

/-! ## Giving up entries -/

theorem entries_dropOldestBy (count : Nat) (cache : Lru κ ν) :
    (cache.dropOldestBy count).entries = cache.entries.drop count := by
  induction count generalizing cache with
  | zero => rfl
  | succ count inductionHypothesis =>
      refine (inductionHypothesis cache.dropOldest).trans ?_
      unfold dropOldest
      split
      · next empty => simp [empty]
      · next oldest rest shape => simp [shape]

theorem mem_entries_of_mem_dropOldest {cache : Lru κ ν} {entry : Entry κ ν}
    (member : entry ∈ cache.dropOldest.entries) :
    entry ∈ cache.entries := by
  unfold dropOldest at member
  split at member
  · exact member
  · next oldest rest shape =>
      rw [shape]
      exact List.mem_cons_of_mem oldest member

theorem mem_entries_of_mem_dropOldestBy {entry : Entry κ ν} :
    ∀ (count : Nat) {cache : Lru κ ν},
      entry ∈ (cache.dropOldestBy count).entries → entry ∈ cache.entries
  | 0, _, member => member
  | count + 1, _, member =>
      mem_entries_of_mem_dropOldest (mem_entries_of_mem_dropOldestBy count member)

theorem mem_entries_of_mem_trimTo {cache : Lru κ ν} {target : Nat} {entry : Entry κ ν}
    (member : entry ∈ (cache.trimTo target).2.entries) :
    entry ∈ cache.entries :=
  mem_entries_of_mem_dropOldestBy _ member

theorem mem_entries_of_mem_keepCeilingWithin {ceiling : Int} {entry : Entry κ ν} :
    ∀ (fuel : Nat) {cache : Lru κ ν},
      entry ∈ (keepCeilingWithin ceiling fuel cache).entries → entry ∈ cache.entries
  | 0, _, member => member
  | fuel + 1, cache, member => by
      unfold keepCeilingWithin at member
      split at member
      · exact mem_entries_of_mem_dropOldest
          (mem_entries_of_mem_keepCeilingWithin fuel member)
      · exact member

theorem mem_entries_of_mem_keepCeiling {cache : Lru κ ν} {entry : Entry κ ν}
    (member : entry ∈ cache.keepCeiling.entries) :
    entry ∈ cache.entries := by
  unfold keepCeiling at member
  split at member
  · exact member
  · exact mem_entries_of_mem_keepCeilingWithin _ member

theorem mem_entries_of_mem_removeExpired {cache : Lru κ ν} {now : Float} {entry : Entry κ ν}
    (member : entry ∈ (cache.removeExpired now).2.entries) :
    entry ∈ cache.entries :=
  (List.mem_filter.mp member).1

/-! ## The newest entry -/

/-- An entry is the most recently used one. -/
def Newest (cache : Lru κ ν) (entry : Entry κ ν) : Prop :=
  ∃ front, cache.entries = front ++ [entry]

theorem Newest.mem {cache : Lru κ ν} {entry : Entry κ ν} (newest : cache.Newest entry) :
    entry ∈ cache.entries := by
  obtain ⟨front, shape⟩ := newest
  rw [shape]
  exact List.mem_append_right front (List.mem_singleton_self entry)

/-- The newest entry is the last to be given up. -/
theorem Newest.dropOldestBy {cache : Lru κ ν} {entry : Entry κ ν} (newest : cache.Newest entry)
    {count : Nat} (less : count < cache.size) : (cache.dropOldestBy count).Newest entry := by
  obtain ⟨front, shape⟩ := newest
  refine ⟨front.drop count, ?_⟩
  have enough : count ≤ front.length := by
    rw [size, shape, List.length_append, List.length_singleton] at less
    omega
  rw [entries_dropOldestBy, shape, List.drop_append_of_le_length enough]

theorem Newest.size_pos {cache : Lru κ ν} {entry : Entry κ ν} (newest : cache.Newest entry) :
    0 < cache.size :=
  List.length_pos_of_mem newest.mem

theorem Newest.keepCapacity {cache : Lru κ ν} {entry : Entry κ ν} (newest : cache.Newest entry)
    (roomy : 1 ≤ cache.capacity) : cache.keepCapacity.Newest entry := by
  have some := newest.size_pos
  exact newest.dropOldestBy (show cache.size - cache.capacity < cache.size by omega)

theorem Newest.keepCeilingWithin {entry : Entry κ ν} (ceiling : Int) (fuel : Nat)
    {cache : Lru κ ν} (newest : cache.Newest entry) :
    (keepCeilingWithin ceiling fuel cache).Newest entry := by
  induction fuel generalizing cache with
  | zero => exact newest
  | succ fuel inductionHypothesis =>
      rw [Lru.keepCeilingWithin]
      by_cases beyond : (ceiling < cache.memory && 1 < cache.size) = true
      · rw [if_pos beyond]
        have several : 1 < cache.size := by
          simp only [Bool.and_eq_true, decide_eq_true_eq] at beyond
          exact beyond.2
        exact inductionHypothesis (newest.dropOldestBy several)
      · rw [if_neg beyond]
        exact newest

theorem Newest.keepCeiling {cache : Lru κ ν} {entry : Entry κ ν} (newest : cache.Newest entry) :
    cache.keepCeiling.Newest entry := by
  unfold Lru.keepCeiling
  split
  · exact newest
  · exact newest.keepCeilingWithin _ _

/-! ## Keyed operations -/

variable [BEq κ]

theorem mem_entries_of_mem_without {cache : Lru κ ν} {key : κ} {entry : Entry κ ν}
    (member : entry ∈ (cache.without key).entries) :
    entry ∈ cache.entries := by
  unfold without at member
  split at member
  · exact member
  · exact List.mem_of_mem_eraseP member

theorem mem_entries_of_mem_set {cache : Lru κ ν} {now : Float} {key : κ} {value : ν}
    {entry : Entry κ ν} (member : entry ∈ (cache.set now key value).entries) :
    entry ∈ cache.entries ∨ entry.key = key ∧ entry.value = value := by
  unfold set at member
  have stored := mem_entries_of_mem_trimTo (mem_entries_of_mem_keepCeiling member)
  rcases List.mem_append.mp stored with old | new
  · exact Or.inl (mem_entries_of_mem_without old)
  · rw [List.mem_singleton.mp new]
    exact Or.inr ⟨rfl, rfl⟩

/-- In a cache with room for an entry, what was stored last is there. -/
theorem exists_newest_set {cache : Lru κ ν} (roomy : 1 ≤ cache.capacity) (now : Float) (key : κ)
    (value : ν) :
    ∃ entry, (cache.set now key value).Newest entry ∧ entry.key = key ∧ entry.value = value := by
  have room : 1 ≤ (cache.without key).capacity := by
    unfold without
    split <;> exact roomy
  unfold set
  dsimp only
  refine ⟨⟨key, value, now, _⟩, Newest.keepCeiling (Newest.keepCapacity ⟨_, rfl⟩ room), rfl, rfl⟩

variable [LawfulBEq κ]

/-- An entry that is found stands in the cache, under the key that was asked for. -/
theorem entry?_eq_some {cache : Lru κ ν} {key : κ} {entry : Entry κ ν}
    (found : cache.entry? key = some entry) :
    entry ∈ cache.entries ∧ entry.key = key := by
  constructor
  · exact List.mem_of_find?_eq_some found
  · simpa using List.find?_some found

theorem mem_entries_of_mem_get {cache : Lru κ ν} {now : Float} {key : κ} {entry : Entry κ ν}
    (member : entry ∈ (cache.get now key).2.entries) :
    entry ∈ cache.entries := by
  unfold get at member
  split at member
  · exact member
  · next found shape =>
      split at member
      · exact mem_entries_of_mem_without member
      · rcases List.mem_append.mp member with other | same
        · exact List.mem_of_mem_eraseP other
        · rw [List.mem_singleton.mp same]
          exact (entry?_eq_some shape).1

theorem exists_entry_of_get {cache : Lru κ ν} {now : Float} {key : κ} {value : ν}
    (hit : (cache.get now key).1 = some value) :
    ∃ entry ∈ cache.entries, entry.key = key ∧ entry.value = value := by
  unfold get at hit
  split at hit
  · cases hit
  · next found shape =>
      split at hit
      · cases hit
      · obtain ⟨member, keyEq⟩ := entry?_eq_some shape
        exact ⟨found, member, keyEq, Option.some.inj hit⟩

/-! ## A cache of one entry -/

/-- A cache has room for one entry, which never expires and is not weighed. -/
structure HoldsOne (cache : Lru κ ν) : Prop where
  capacity : cache.capacity = 1
  lasting : cache.timeToLive = none
  unweighed : cache.ceiling = none

namespace HoldsOne

omit [BEq κ] [LawfulBEq κ] in
theorem dropOldest {cache : Lru κ ν} (one : cache.HoldsOne) : cache.dropOldest.HoldsOne := by
  unfold Lru.dropOldest
  split
  · exact one
  · exact ⟨one.capacity, one.lasting, one.unweighed⟩

omit [BEq κ] [LawfulBEq κ] in
theorem dropOldestBy (count : Nat) {cache : Lru κ ν} (one : cache.HoldsOne) :
    (cache.dropOldestBy count).HoldsOne := by
  induction count generalizing cache with
  | zero => exact one
  | succ count inductionHypothesis => exact inductionHypothesis one.dropOldest

omit [LawfulBEq κ] in
theorem without {cache : Lru κ ν} (one : cache.HoldsOne) (key : κ) :
    (cache.without key).HoldsOne := by
  unfold Lru.without
  split
  · exact one
  · exact ⟨one.capacity, one.lasting, one.unweighed⟩

omit [LawfulBEq κ] in
theorem get {cache : Lru κ ν} (one : cache.HoldsOne) (now : Float) (key : κ) :
    (cache.get now key).2.HoldsOne := by
  have rest := one.without key
  unfold Lru.get
  split
  · exact ⟨one.capacity, one.lasting, one.unweighed⟩
  · split
    · exact ⟨rest.capacity, rest.lasting, rest.unweighed⟩
    · exact ⟨one.capacity, one.lasting, one.unweighed⟩

omit [BEq κ] [LawfulBEq κ] in
/-- Keeping to the bounds leaves the entry that was added last. -/
theorem keepLast {stored : Lru κ ν} (one : stored.HoldsOne) {front : List (Entry κ ν)}
    {entry : Entry κ ν} (entries : stored.entries = front ++ [entry]) :
    stored.keepCapacity.keepCeiling.HoldsOne ∧
      stored.keepCapacity.keepCeiling.entries = [entry] := by
  have kept := one.dropOldestBy (stored.size - stored.capacity)
  have same : stored.keepCapacity.keepCeiling =
      stored.dropOldestBy (stored.size - stored.capacity) := by
    unfold keepCeiling keepCapacity trimTo
    dsimp only
    rw [kept.unweighed]
  have surplus : stored.size - stored.capacity = front.length := by
    unfold size
    rw [entries, one.capacity]
    simp
  rw [same]
  refine ⟨kept, ?_⟩
  rw [entries_dropOldestBy, surplus, entries, List.drop_left]

omit [LawfulBEq κ] in
/-- Storing leaves a cache of one entry, and that entry is the one just stored. -/
theorem set {cache : Lru κ ν} (one : cache.HoldsOne) (now : Float) (key : κ) (value : ν) :
    (cache.set now key value).HoldsOne ∧
      ∃ entry, (cache.set now key value).entries = [entry] ∧ entry.key = key ∧
        entry.value = value := by
  have rest := one.without key
  have stores : ∀ (stored : Lru κ ν) (entry : Entry κ ν), stored.HoldsOne →
      stored.entries = (cache.without key).entries ++ [entry] →
      entry.key = key → entry.value = value →
      stored.keepCapacity.keepCeiling.HoldsOne ∧
        ∃ last, stored.keepCapacity.keepCeiling.entries = [last] ∧ last.key = key ∧
          last.value = value := by
    intro stored entry storedOne entries sameKey sameValue
    obtain ⟨kept, left⟩ := storedOne.keepLast entries
    exact ⟨kept, entry, left, sameKey, sameValue⟩
  unfold Lru.set
  refine stores _ ⟨key, value, now, _⟩ ?_ rfl rfl rfl
  exact ⟨rest.capacity, rest.lasting, rest.unweighed⟩

/-- What is the only entry is found under its key. -/
theorem get_of_entries {cache : Lru κ ν} (one : cache.HoldsOne) {entry : Entry κ ν}
    (entries : cache.entries = [entry]) (now : Float) :
    (cache.get now entry.key).1 = some entry.value := by
  have found : cache.entry? entry.key = some entry := by
    unfold entry?
    rw [entries]
    simp
  have lasting : cache.expired now entry = false := by
    unfold expired isExpired
    rw [one.lasting]
  unfold Lru.get
  rw [found]
  simp [lasting]

end HoldsOne

end BooleanSearch.Cache.Lru
