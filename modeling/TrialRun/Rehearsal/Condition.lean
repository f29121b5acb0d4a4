import TrialRun.Polling
import TrialRun.Rehearsal.Script

/-!
# Rehearsals of polling

Polling is rehearsed without a server: the states that are fetched come from a list of cues, and
what is waited for is a condition on JSON values, or one on faults.
-/

set_option autoImplicit false

namespace TrialRun

/-- A condition on a state. -/
inductive Condition where
  | always
  | never
  /-- The state counts as given. -/
  | given
  | equals (v : Json)
  /-- What is found by going from field to field is a value. -/
  | pathEquals (path : List String) (v : Json)
  | length (n : Json)
  | raise (f : Fault)

namespace Condition

def follow : List String → Json → Except Fault Json
  | [], v => .ok v
  | name :: rest, v => do follow rest (← v.field name)

def holds : Condition → Json → Except Fault Bool
  | .always, _ => .ok true
  | .never, _ => .ok false
  | .given, v => .ok v.isGiven
  | .equals wanted, v => .ok (v.agrees wanted)
  | .pathEquals path wanted, v => do pure ((← follow path v).agrees wanted)
  | .length n, v => do pure ((Json.int (← v.size)).agrees n)
  | .raise f, _ => .error f

end Condition

/-- A condition on the fault of a fetch. -/
inductive FaultCondition where
  | notFound
  | always
  | never
  | timeout
  deriving DecidableEq, Repr

def FaultCondition.holds : FaultCondition → Fault → Bool
  | .notFound, f => f.isNotFound
  | .always, _ => true
  | .never, _ => false
  | .timeout, f => f.kind.isTimeout

namespace Polling

variable {τ : Type}

abbrev States (τ : Type) := List (Cue τ (Except Fault Json))

variable [Timescale τ]

/-- Fetches the next state; without any cue it is null. -/
def fetchNext : Act τ (States τ) Json := do
  Act.record .fetched
  match Cue.next? (← Act.world).outside with
  | none => pure .null
  | some (cue, rest) =>
    Act.change fun w => { w with outside := rest }
    Act.spend cue.cost
    cue.action

def rehearsal (condition : Condition) (settled : Option FaultCondition)
    (timeout interval : τ) (description : String := usualDescription) :
    Polling τ (States τ) Json where
  fetch := fetchNext
  satisfied := condition.holds
  timeout := timeout
  interval := interval
  description := description
  settled := settled.map fun c f => .ok (c.holds f)
  display := Json.display

end Polling

/-- A site without a server and without a dashboard. -/
def Site.closed {τ σ : Type} [Timescale τ] : Site τ σ where
  answer c s := (⟨Timescale.seconds 0, Response.notFound.outcome c⟩, s)
  react _ s := (⟨Timescale.seconds 0, .failed (.plain .unreachable "")⟩, s)
  obstacle _ s := (none, s)
  temporary := Path.ofText
  settings := {}
  apiKeys := .null

end TrialRun
