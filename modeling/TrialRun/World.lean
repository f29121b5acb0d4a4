import TrialRun.Cluster.Call
import TrialRun.Dashboard.Request
import TrialRun.Files.Volume
import TrialRun.Settings
import TrialRun.Step
import TrialRun.Timescale

/-!
# The world of a trial

A trial talks to an API server and to a dashboard, sleeps, logs and writes files.  How the outside
answers is a `Site`: any functions of the call and of a state of the outside that they may change at
will.  What the trial itself can see and change is its `World`: the clock, the files, its own notes,
and the record of everything that happened so far.

The record keeps each call together with its answer, so that "after a reply that said so" is a
statement about the record alone.
-/

set_option autoImplicit false

namespace TrialRun

/-! ## Answers -/

/-- How a call of the API server ends. -/
inductive Outcome (α : Type) where
  /-- The call itself fails. -/
  | refused (f : Fault)
  /-- The call is made, but waiting for its answer fails. -/
  | late (f : Fault)
  | served (v : α)

/-- The end of a call, and the time that passes until then. -/
structure Answer (τ α : Type) where
  cost : τ
  outcome : Outcome α

/-- How a request to the dashboard ends. -/
inductive Exchange where
  | response (status : Int) (body : List UInt8)
  /-- An answer with an error status. -/
  | errorStatus (code : Int)
  /-- A fault on the way to the response, or in reading it. -/
  | failed (f : Fault)

/-- The end of a request, and the time that passes until then. -/
structure Reaction (τ : Type) where
  cost : τ
  exchange : Exchange

/-- What a trial does to the files. -/
inductive DiskAction where
  | makeDirectory (p : Path)
  | writeFile (p : Path) (contents : String)
  /-- Makes a fresh directory whose name begins in the given way. -/
  | makeTemporary (beginning : String)

/-! ## The outside -/

/-- How the outside answers, from a state of type `σ`. -/
structure Site (τ σ : Type) where
  /-- The API server. -/
  answer : {f : Cluster.Form} → Cluster.Call f → σ → Answer τ f.Carrier × σ
  /-- The dashboard. -/
  react : Dashboard.Request → σ → Reaction τ × σ
  /-- A fault of the disk that keeps an action from being done, if there is one. -/
  obstacle : DiskAction → σ → Option Fault × σ
  /-- The fresh directory for names that begin in a way. -/
  temporary : String → Path
  settings : Settings
  /-- What the cluster is accessed with: nothing, or an object of keys by their use. -/
  apiKeys : Json

/-! ## The record -/

/-- The levels of log records. -/
inductive Level where
  | debug
  | info
  | warning
  | error
  deriving DecidableEq, Repr

/-- What can happen in a trial. -/
inductive Event (τ : Type) where
  | log (level : Level) (text : String)
  | slept (span : τ)
  /-- A state was fetched that is not served by the cluster. -/
  | fetched
  | marked (v : Json)
  | called {f : Cluster.Form} (call : Cluster.Call f) (outcome : Outcome f.Carrier)
  /-- The answer to the last call was waited for, for a number of seconds at most. -/
  | awaited (seconds : Nat)
  | requested (request : Dashboard.Request) (exchange : Exchange)
  | wrote (p : Path) (contents : String)

/-! ## The inside -/

/-- What a trial keeps in mind. -/
structure Trial (τ : Type) where
  name : String
  failed : Bool := false
  pollingInterval : τ
  /-- What was put off, the last first. -/
  pending : List (Step τ) := []
  outputDirectory : Option Path := none
  dashboard : Option Dashboard := none

/-- All that a trial can see and change, and the state of the outside. -/
structure World (τ σ : Type) where
  clock : τ
  outside : σ
  volume : Volume
  trial : Trial τ
  /-- What happened so far, the last first. -/
  record : List (Event τ) := []

end TrialRun
