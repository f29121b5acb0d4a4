import TrialRun.Act

/-!
# Polling

To wait for a condition is to fetch a state, look at it, and sleep before the next fetch, until the
condition holds or the time is up.  Only five things end a wait at a fetch: a state that satisfies
the condition, a fault of the condition itself, a fault that settles the wait, a fault of the
question whether it does, and a fault that nothing may deal with.  Any other fault of a fetch means
that the condition does not hold yet.

The last sleep is cut so that the last fetch begins at the deadline.  It is the deadline that ends a
wait: in exact time there are never more looks than the timeout has room for.  A measured clock may
stand still or lose its reading, and then only a fetch ends the wait; the bound on the looks
(`Timescale.looks`) is far beyond what any wait takes.
-/

set_option autoImplicit false

namespace TrialRun

/-- How long a sleep between two looks usually is, in seconds. -/
def Polling.usualInterval : Nat := 2

/-- What a condition is called that has no name of its own. -/
def Polling.usualDescription : String := "condition"

/-- What is waited for, and how. -/
structure Polling (τ σ α : Type) where
  fetch : Act τ σ α
  /-- Whether a state is the one waited for. -/
  satisfied : α → Except Fault Bool
  timeout : τ
  interval : τ
  description : String
  /-- Whether a fault of a fetch is itself what is waited for. -/
  settled : Option (Fault → Except Fault Bool) := none
  /-- How a state reads in messages. -/
  display : α → String

namespace Polling

variable {τ σ α : Type} [Timescale τ]

def mismatch (p : Polling τ σ α) : Fault :=
  .plain .badValue
    (s!"Polling interval {Timescale.text p.interval} " ++
      s!"must be less than timeout: {Timescale.text p.timeout}")

/-- The time is up.  The text tells the last state that was seen, and the fault of the last fetch if
that was how it ended. -/
def expired (p : Polling τ σ α) (seen : Option α) (fault : Option Fault) : Fault :=
  let state := match seen with
    | some v => s!", last observed state: {p.display v}"
    | none => ""
  let error := match fault with
    | some f => s!", last error: {f.text}"
    | none => ""
  .timedOut (s!"Timeout waiting for {p.description} after {Timescale.text p.timeout}s" ++
    state ++ error)

/-- Sleeps until the next look, cut to the time that remains; answers whether there is one. -/
def pause (p : Polling τ σ α) (deadline : τ) : Act τ σ Bool := do
  let remaining := Timescale.sub deadline (← Act.world).clock
  if Timescale.le remaining (Timescale.seconds 0) then pure false
  else
    Act.sleep (if Timescale.lt remaining p.interval then remaining else p.interval)
    pure true

/-- Looks until the wait ends, at most as often as given. -/
def look (p : Polling τ σ α) (deadline : τ) :
    (looks : Nat) → (seen : Option α) → (fault : Option Fault) → Act τ σ (Option α)
  | 0, seen, fault => Act.fail (p.expired seen fault)
  | looks + 1, seen, _ => do
    match ← p.fetch.attempt with
    | .ok v =>
      if ← p.satisfied v then pure (some v)
      else if ← p.pause deadline then p.look deadline looks (some v) none
      else Act.fail (p.expired (some v) none)
    | .error f =>
      if f.isOrdinary then
        let settled ← match p.settled with
          | some settles => Act.ofExcept (settles f)
          | none => pure false
        if settled then
          Act.log .debug s!"Condition {p.description} is met by error: {f.text}"
          pure none
        else
          Act.log .debug s!"Failed to fetch state for {p.description}: {f.text}"
          if ← p.pause deadline then p.look deadline looks seen (some f)
          else Act.fail (p.expired seen (some f))
      else Act.fail f

/-- Waits.  The answer is the first state that satisfies the condition, or none if a fault settled
the wait. -/
def wait (p : Polling τ σ α) : Act τ σ (Option α) := do
  if Timescale.lt p.timeout p.interval then Act.fail p.mismatch
  else if !Timescale.fits p.timeout then Act.fail .overflow
  else
    let deadline := Timescale.add (← Act.world).clock p.timeout
    p.look deadline (Timescale.looks p.timeout p.interval) none none

end Polling

end TrialRun
