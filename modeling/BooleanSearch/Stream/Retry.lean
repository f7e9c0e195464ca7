import BooleanSearch.Decimal.Number

/-!
# Attempts

An operation that fails for a passing reason is tried again after a pause.  Pauses double, between a
least and a greatest length, and after some attempts the last failure stands.
-/

namespace BooleanSearch.Stream

/-- How often an operation is tried, and the lengths of the pauses in seconds. -/
structure RetryPolicy where
  attempts : Nat := 3
  unit : Float := 0.05
  least : Float := 0.05
  greatest : Float := 0.5

/-- The course of an operation: its outcome, the number of attempts and the pauses between them. -/
structure Course (ε α : Type) where
  outcome : Except ε α
  attempts : Nat
  pauses : List Float

namespace RetryPolicy

/-- The pause after the attempt of a number, the first one being zero. -/
def pause (policy : RetryPolicy) (attempt : Nat) : Float :=
  let wanted := policy.unit * Decimal.ofInt (Nat.pow 2 attempt)
  let capped := if policy.greatest < wanted then policy.greatest else wanted
  if capped < policy.least then policy.least else capped

/-- Runs an operation, given by the outcome of every attempt; `left` attempts may follow the one of
number `attempt`. -/
def runFrom {ε α : Type} (policy : RetryPolicy) (passing : ε → Bool) (outcomes : Nat → Except ε α)
    (attempt : Nat) : Nat → Course ε α
  | 0 => ⟨outcomes attempt, 1, []⟩
  | left + 1 =>
    match outcomes attempt with
    | .ok value => ⟨.ok value, 1, []⟩
    | .error failure =>
      if passing failure then
        let rest := runFrom policy passing outcomes (attempt + 1) left
        ⟨rest.outcome, rest.attempts + 1, policy.pause attempt :: rest.pauses⟩
      else ⟨.error failure, 1, []⟩

/-- Runs an operation, given by the outcome of every attempt, as often as the policy allows. -/
def run {ε α : Type} (policy : RetryPolicy) (passing : ε → Bool) (outcomes : Nat → Except ε α) :
    Course ε α :=
  runFrom policy passing outcomes 0 (policy.attempts - 1)

end RetryPolicy

end BooleanSearch.Stream
