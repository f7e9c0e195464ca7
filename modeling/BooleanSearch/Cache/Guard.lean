import BooleanSearch.Cache.Registry

/-!
# Caches under watch

A registry whose caches are trimmed when a monitor reports pressure, among other listeners that are
told in the order in which they joined.
-/

namespace BooleanSearch.Cache

/-- Who is told of samples: the registry itself, or a listener with a name. -/
inductive Listener
  | registry
  | named (name : String)
  deriving Repr, DecidableEq

/-- A registry, a monitor and the monitor's listeners. -/
structure Guard (ν : Type) where
  registry : Registry ν
  monitor : Monitor
  listeners : List Listener

/-- What happened while listeners were told: who heard it, and what was reported. -/
structure Notice where
  heard : List (String × Sample)
  records : List Log.Record

namespace Guard

variable {ν : Type}

def listen (guard : Guard ν) (listener : Listener) : Guard ν :=
  if guard.listeners.contains listener then guard
  else { guard with listeners := guard.listeners ++ [listener] }

/-- Removes a listener. -/
def unlisten (guard : Guard ν) (listener : Listener) : Guard ν :=
  { guard with listeners := guard.listeners.erase listener }

/-- Tells listeners of a sample, in order, until one of them fails. -/
def tell (sample : Sample) :
    List Listener → Registry ν → Notice → Option Failure × Registry ν × Notice
  | [], registry, notice => (none, registry, notice)
  | .named name :: rest, registry, notice =>
    tell sample rest registry { notice with heard := notice.heard ++ [(name, sample)] }
  | .registry :: rest, registry, notice =>
    match registry.applyPressure sample.pressure with
    | .error failure => (some failure, registry, notice)
    | .ok trim =>
      match trim.failure with
      | some failure => (some failure, trim.registry, notice)
      | none =>
        tell sample rest trim.registry { notice with records := notice.records ++ trim.records }

/-- Checks a reading of the memory in use; without one the sampler has failed. -/
def check (guard : Guard ν) (used : Option Number) :
    Except Failure Sample × Guard ν × Notice :=
  match used with
  | none => (.error (.sampler "sampler failed"), guard, ⟨[], []⟩)
  | some used =>
    let (found, monitor) := guard.monitor.check used
    let notice : Notice := ⟨[], found.records⟩
    if found.notify then
      let (failure, registry, notice) := tell found.sample guard.listeners guard.registry notice
      let outcome := match failure with
        | none => .ok found.sample
        | some failure => .error failure
      (outcome, { guard with registry := registry, monitor := monitor }, notice)
    else (.ok found.sample, { guard with monitor := monitor }, notice)

end Guard

end BooleanSearch.Cache
