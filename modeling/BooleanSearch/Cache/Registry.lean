import BooleanSearch.Cache.Lru
import BooleanSearch.Cache.Monitor

/-!
# Registries of caches

A registry holds caches by name, in the order of their creation.  Under memory pressure every cache
keeps only a part of its entries, which depends on its profile.
-/

namespace BooleanSearch.Cache

/-- How hard a cache is trimmed under pressure: light caches hold small values, heavy ones hold
contents or results. -/
inductive Profile
  | light
  | heavy
  deriving Repr, DecidableEq, Inhabited

def Profile.ofName (name : String) : Except Failure Profile :=
  match name with
  | "light" => .ok .light
  | "heavy" => .ok .heavy
  | _ => .error (.badValue (Text.quoted name ++ " is not a valid CacheProfile"))

/-- The fraction of entries that a cache keeps. -/
def Profile.keeps : Profile → Pressure → Float
  | _, .low => 1.0
  | .light, .medium => 0.7
  | .light, .high => 0.3
  | .heavy, .medium => 0.5
  | .heavy, .high => 0.0

/-- The number of entries that a cache of some size keeps: the whole part of its fraction. -/
def Profile.target (profile : Profile) (pressure : Pressure) (size : Nat) : Nat :=
  ((Decimal.truncate? (Decimal.ofInt size * profile.keeps pressure)).getD 0).toNat

/-- A cache of a registry.  Its profile is missing if it was created with an unknown one. -/
structure Registered (ν : Type) where
  cache : Lru String ν
  profile : Option Profile

/-- Caches by name, in the order of their creation. -/
structure Registry (ν : Type) where
  caches : List (String × Registered ν)

def trimRecord (pressure : Pressure) (removed : List (String × Nat)) : Log.Record where
  level := Log.infoLevel
  logger := "fileseek.cache.registry"
  message := "Trimmed caches under memory pressure"
  context := ("pressure", .text pressure.name)
    :: removed.map fun (name, count) => (name, Value.int count)

/-- The reports of a trim: one if anything was removed. -/
def trimRecords (pressure : Pressure) (removed : List (String × Nat)) : List Log.Record :=
  if removed.isEmpty then [] else [trimRecord pressure removed]

/-- The words that a report is made of; the report of a trim cannot give a cache such a name. -/
def reportWords : List String :=
  ["log", "level", "message"]

/-- Why a trim cannot be reported: one of the trimmed caches has a name that the report needs for
something else. -/
def trimFault? (removed : List (String × Nat)) : Option Failure :=
  if removed.any fun entry => entry.1 == "pressure" then
    some (.badKind ("fileseek.utils.logging.log_with_context() got multiple values for keyword "
      ++ "argument 'pressure'"))
  else
    (removed.find? fun entry => reportWords.contains entry.1).map fun entry =>
      .badKind ("log_with_context() got multiple values for argument '" ++ entry.1 ++ "'")

namespace Registry

variable {ν : Type}

/-- A registry without caches. -/
def empty : Registry ν := ⟨[]⟩

/-- The cache under a name. -/
def find? (registry : Registry ν) (name : String) : Option (Lru String ν) :=
  (registry.caches.lookup name).map Registered.cache

def names (registry : Registry ν) : List String :=
  registry.caches.map Prod.fst

/-- What a new cache is created with. -/
structure Settings where
  capacity : Int
  timeToLive : Option Number
  ceiling : Option Int
  profile : String

/-- Adds a cache under a new name.  A cache with an unknown profile is added without one, and the
failure is told. -/
def add (registry : Registry ν) (name : String) (settings : Settings) (weigh : String → ν → Nat) :
    Except Failure (Lru String ν) × Registry ν :=
  match Lru.create name settings.capacity settings.timeToLive settings.ceiling weigh with
  | .error failure => (.error failure, registry)
  | .ok cache =>
    match Profile.ofName settings.profile with
    | .ok profile => (.ok cache, ⟨registry.caches ++ [(name, ⟨cache, some profile⟩)]⟩)
    | .error failure => (.error failure, ⟨registry.caches ++ [(name, ⟨cache, none⟩)]⟩)

/-- Creates a cache; its name must be new. -/
def create (registry : Registry ν) (name : String) (settings : Settings)
    (weigh : String → ν → Nat) : Except Failure (Lru String ν) × Registry ν :=
  if (registry.find? name).isSome then
    (.error (.error (.ofText .cache ("Cache '" ++ name ++ "' already exists"))), registry)
  else registry.add name settings weigh

/-- The cache under a name, created if there is none. -/
def getOrCreate (registry : Registry ν) (name : String) (settings : Settings)
    (weigh : String → ν → Nat) : Except Failure (Lru String ν) × Registry ν :=
  match registry.find? name with
  | some cache => (.ok cache, registry)
  | none => registry.add name settings weigh

def remove (registry : Registry ν) (name : String) : Bool × Registry ν :=
  ((registry.find? name).isSome, ⟨registry.caches.filter fun entry => entry.1 != name⟩)

/-- Changes the cache under a name. -/
def update (registry : Registry ν) (name : String) (change : Lru String ν → Lru String ν) :
    Registry ν :=
  ⟨registry.caches.map fun (other, registered) =>
    if other == name then (other, { registered with cache := change registered.cache })
    else (other, registered)⟩

/-- Empties all caches and counts the entries removed. -/
def clearAll (registry : Registry ν) : Nat × Registry ν :=
  ((registry.caches.map fun entry => entry.2.cache.size).foldr (· + ·) 0,
    ⟨registry.caches.map fun (name, registered) =>
      (name, { registered with cache := registered.cache.clear.2 })⟩)

/-- The counters of all caches. -/
def stats (registry : Registry ν) : List Stats :=
  registry.caches.map fun entry => entry.2.cache.stats

/-- The estimated bytes of all caches. -/
def usage (registry : Registry ν) : Int :=
  (registry.caches.map fun entry => entry.2.cache.usage).foldr (· + ·) 0

/-- The first name whose cache has no profile. -/
def unprofiled? (registry : Registry ν) : Option String :=
  (registry.caches.find? fun entry => entry.2.profile.isNone).map Prod.fst

/-- Trims one cache and tells how many entries it gave up. -/
def trimOne (pressure : Pressure) (registered : Registered ν) : Nat × Registered ν :=
  let profile := registered.profile.getD .heavy
  let (removed, cache) := registered.cache.trimTo (profile.target pressure registered.cache.size)
  (removed, { registered with cache := cache })

/-- What a trim removed from each cache, with what was reported, or why it could not be. -/
structure Trim (ν : Type) where
  removed : List (String × Nat)
  records : List Log.Record
  failure : Option Failure
  registry : Registry ν

/-- What a trim tells: what it removed, unless it could not be reported. -/
def Trim.outcome (trim : Trim ν) : Except Failure (List (String × Nat)) :=
  match trim.failure with
  | none => .ok trim.removed
  | some failure => .error failure

/-- Trims every cache according to its profile; caches that lose nothing are not told.  Nothing is
trimmed if some cache has no profile. -/
def applyPressure (registry : Registry ν) (pressure : Pressure) : Except Failure (Trim ν) :=
  if pressure == .low then .ok ⟨[], [], none, registry⟩
  else
    match registry.unprofiled? with
    | some name => .error (.missingKey (Text.quoted name))
    | none =>
      let trimmed := registry.caches.map fun (name, registered) =>
        (name, trimOne pressure registered)
      let removed := (trimmed.map fun (name, count, _) => (name, count)).filter
        fun entry => entry.2 != 0
      let failure := trimFault? removed
      let records := if failure.isSome then [] else trimRecords pressure removed
      .ok ⟨removed, records, failure,
        ⟨trimmed.map fun (name, _, registered) => (name, registered)⟩⟩

end Registry

end BooleanSearch.Cache
