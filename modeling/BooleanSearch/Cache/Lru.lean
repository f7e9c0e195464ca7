import BooleanSearch.Decimal.Number
import BooleanSearch.Error

/-!
# Bounded caches

A cache keeps its entries in the order of their last use and gives up the least recently used ones
when it holds more than its capacity, or more than its ceiling of estimated bytes.  Entries may
expire.  Time is a number of seconds that the caller supplies.
-/

namespace BooleanSearch.Cache

/-- An entry of a cache.  Its size is counted only while the cache has a ceiling. -/
structure Entry (κ : Type) (ν : Type) where
  key : κ
  value : ν
  insertedAt : Float
  size : Int

/-- Whether something inserted at one time has outlived its time to live at another. -/
def isExpired (now insertedAt : Float) (timeToLive : Option Number) : Bool :=
  match timeToLive with
  | none => false
  | some limit => limit.toFloat < now - insertedAt

/-- A cache.  Its entries stand from the least to the most recently used; `weigh` estimates the
bytes of a key and its value. -/
structure Lru (κ : Type) (ν : Type) where
  name : String
  capacity : Nat
  timeToLive : Option Number
  ceiling : Option Int
  weigh : κ → ν → Nat
  entries : List (Entry κ ν)
  memory : Int
  hits : Nat
  misses : Nat
  evictions : Nat

/-- The counters of a cache at one moment. -/
structure Stats where
  name : String
  size : Int
  capacity : Int
  hits : Int
  misses : Int
  evictions : Int
  memory : Int
  timeToLive : Option Number
  deriving Inhabited

/-- The share of look-ups that were hits. -/
def Stats.hitRate (stats : Stats) : Float :=
  quotient stats.hits (stats.hits + stats.misses)

/-- The counters as plain data. -/
def Stats.toValue (stats : Stats) : Value :=
  .dict [(.text "name", .text stats.name), (.text "size", .int stats.size),
    (.text "capacity", .int stats.capacity), (.text "hits", .int stats.hits),
    (.text "misses", .int stats.misses), (.text "evictions", .int stats.evictions),
    (.text "hit_rate", .float (Decimal.roundTo stats.hitRate 4)),
    (.text "memory_bytes", .int stats.memory),
    (.text "time_to_live", (stats.timeToLive.map Number.toValue).getD .null)]

/-- The failure of a cache without room. -/
def noRoom : Failure :=
  .badValue "max_size must be at least 1"

namespace Lru

variable {κ ν : Type}

/-- An empty cache; it must have room for one entry. -/
def create (name : String) (capacity : Int) (timeToLive : Option Number) (ceiling : Option Int)
    (weigh : κ → ν → Nat) : Except Failure (Lru κ ν) :=
  if capacity < 1 then .error noRoom
  else .ok ⟨name, capacity.toNat, timeToLive, ceiling, weigh, [], 0, 0, 0, 0⟩

/-- The number of entries. -/
def size (cache : Lru κ ν) : Nat :=
  cache.entries.length

/-- The keys from the least to the most recently used. -/
def keys (cache : Lru κ ν) : List κ :=
  cache.entries.map Entry.key

def expired (cache : Lru κ ν) (now : Float) (entry : Entry κ ν) : Bool :=
  isExpired now entry.insertedAt cache.timeToLive

/-- Gives up the least recently used entry. -/
def dropOldest (cache : Lru κ ν) : Lru κ ν :=
  match cache.entries with
  | [] => cache
  | oldest :: rest =>
    { cache with
      entries := rest
      memory := cache.memory - oldest.size
      evictions := cache.evictions + 1 }

/-- Gives up `count` entries, the least recently used first. -/
def dropOldestBy (cache : Lru κ ν) : Nat → Lru κ ν
  | 0 => cache
  | count + 1 => cache.dropOldest.dropOldestBy count

/-- Gives up entries until no more than the target remain, and counts them. -/
def trimTo (cache : Lru κ ν) (target : Nat) : Nat × Lru κ ν :=
  let surplus := cache.size - target
  (surplus, cache.dropOldestBy surplus)

def keepCapacity (cache : Lru κ ν) : Lru κ ν :=
  (cache.trimTo cache.capacity).2

/-- Keeps to the ceiling, trying at most `fuel` times; the newest entry stays in any case. -/
def keepCeilingWithin (ceiling : Int) : Nat → Lru κ ν → Lru κ ν
  | 0, cache => cache
  | fuel + 1, cache =>
    if ceiling < cache.memory && 1 < cache.size then
      keepCeilingWithin ceiling fuel cache.dropOldest
    else cache

def keepCeiling (cache : Lru κ ν) : Lru κ ν :=
  match cache.ceiling with
  | none => cache
  | some ceiling => keepCeilingWithin ceiling cache.size cache

/-- The estimated bytes of all entries. -/
def usage (cache : Lru κ ν) : Int :=
  match cache.ceiling with
  | some _ => cache.memory
  | none =>
    (cache.entries.map fun entry => ((cache.weigh entry.key entry.value : Nat) : Int)).foldr
      (· + ·) 0

/-- The counters of a cache. -/
def stats (cache : Lru κ ν) : Stats :=
  ⟨cache.name, cache.size, cache.capacity, cache.hits, cache.misses, cache.evictions, cache.usage,
    cache.timeToLive⟩

/-- The description of a cache. -/
def describe (cache : Lru κ ν) : String :=
  "MemoryAwareLRUCache(name=" ++ Text.quoted cache.name ++ ", size=" ++ toString cache.size
    ++ ", max_size=" ++ toString cache.capacity ++ ")"

/-- Forgets all entries and counters, and counts the entries. -/
def clear (cache : Lru κ ν) : Nat × Lru κ ν :=
  (cache.size, { cache with entries := [], memory := 0, hits := 0, misses := 0, evictions := 0 })

/-- Gives up all expired entries and counts them. -/
def removeExpired (cache : Lru κ ν) (now : Float) : Nat × Lru κ ν :=
  let gone := cache.entries.filter (cache.expired now)
  (gone.length,
    { cache with
      entries := cache.entries.filter fun entry => !cache.expired now entry
      memory := cache.memory - (gone.map Entry.size).foldr (· + ·) 0
      evictions := cache.evictions + gone.length })

def setCapacity (cache : Lru κ ν) (capacity : Int) : Except Failure (Lru κ ν) :=
  if capacity < 1 then .error noRoom
  else
    let resized : Lru κ ν := { cache with capacity := capacity.toNat }
    .ok resized.keepCapacity

/-- Changes the time to live and gives up what is now expired. -/
def setTimeToLive (cache : Lru κ ν) (now : Float) (timeToLive : Option Number) : Lru κ ν :=
  let changed : Lru κ ν := { cache with timeToLive := timeToLive }
  (changed.removeExpired now).2

/-- Changes the ceiling.  A new ceiling weighs all entries afresh and is kept to. -/
def setCeiling (cache : Lru κ ν) (ceiling : Option Int) : Lru κ ν :=
  match ceiling with
  | none => { cache with ceiling := none }
  | some bytes =>
    let entries := cache.entries.map fun entry =>
      { entry with size := ((cache.weigh entry.key entry.value : Nat) : Int) }
    let weighed : Lru κ ν :=
      { cache with
        ceiling := some bytes
        entries := entries
        memory := (entries.map Entry.size).foldr (· + ·) 0 }
    weighed.keepCeiling

variable [BEq κ]

def entry? (cache : Lru κ ν) (key : κ) : Option (Entry κ ν) :=
  cache.entries.find? fun entry => entry.key == key

/-- The cache without the entry under a key. -/
def without (cache : Lru κ ν) (key : κ) : Lru κ ν :=
  match cache.entry? key with
  | none => cache
  | some entry =>
    { cache with
      entries := cache.entries.eraseP fun entry => entry.key == key
      memory := cache.memory - entry.size }

/-- Looks a key up.  A hit makes its entry the most recently used; an expired entry is given up. -/
def get (cache : Lru κ ν) (now : Float) (key : κ) : Option ν × Lru κ ν :=
  match cache.entry? key with
  | none => (none, { cache with misses := cache.misses + 1 })
  | some entry =>
    if cache.expired now entry then
      let rest := cache.without key
      (none, { rest with evictions := rest.evictions + 1, misses := rest.misses + 1 })
    else
      let others := cache.entries.eraseP fun other => other.key == key
      (some entry.value,
        { cache with entries := others ++ [entry], hits := cache.hits + 1 })

/-- Stores a value as the most recently used entry, and keeps to capacity and ceiling. -/
def set (cache : Lru κ ν) (now : Float) (key : κ) (value : ν) : Lru κ ν :=
  let rest := cache.without key
  let size : Int := if cache.ceiling.isSome then ((cache.weigh key value : Nat) : Int) else 0
  let stored : Lru κ ν :=
    { rest with
      entries := rest.entries ++ [⟨key, value, now, size⟩]
      memory := rest.memory + size }
  stored.keepCapacity.keepCeiling

/-- Removes the entry under a key and tells whether there was one. -/
def delete (cache : Lru κ ν) (key : κ) : Bool × Lru κ ν :=
  ((cache.entry? key).isSome, cache.without key)

/-- Whether a key has an entry that is not expired; an expired one is given up. -/
def contains (cache : Lru κ ν) (now : Float) (key : κ) : Bool × Lru κ ν :=
  match cache.entry? key with
  | none => (false, cache)
  | some entry =>
    if cache.expired now entry then
      let rest := cache.without key
      (false, { rest with evictions := rest.evictions + 1 })
    else (true, cache)

end Lru

end BooleanSearch.Cache
