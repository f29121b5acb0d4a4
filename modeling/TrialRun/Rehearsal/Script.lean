import TrialRun.Rehearsal.Served
import TrialRun.World

/-!
# Rehearsals

A trial is rehearsed at a site that answers by a script.  The script has a list of cues for each
kind of call, and one for the requests to the dashboard: the first call of its kind takes the first
cue, and so on, and the last cue stays for all calls that follow.  Where the script is silent, the
API server creates and deletes what it is asked to, and has nothing else.

The state of such a site is the script that is still to come.
-/

set_option autoImplicit false

namespace TrialRun

/-- Something that happens at its turn, and the time that passes until it does. -/
structure Cue (τ α : Type) where
  cost : τ
  action : α

namespace Cue

variable {τ α : Type}

/-- The first of some cues, and those that are still to come; the last one stays. -/
def next? : List (Cue τ α) → Option (Cue τ α × List (Cue τ α))
  | [] => none
  | [cue] => some (cue, [cue])
  | cue :: rest => some (cue, rest)

/-- The cue, or in its place what happens if it takes longer than a clock can tell. -/
def orElse [Timescale τ] (cue : Cue τ α) (action : α) : Cue τ α :=
  if Timescale.fits cue.cost then cue else ⟨Timescale.seconds 0, action⟩

end Cue

/-- How the API server answers a call in a rehearsal. -/
inductive Response where
  | refuse (f : Fault)
  | late (f : Fault)
  /-- The object that was sent, with a name if it had none: what it says that names begin with, and
  a suffix. -/
  | echo (suffix : String)
  | reply (v : Json)

namespace Response

/-- An object as the server sends it back: one that only says how its name begins gets the rest of
its name. -/
def named (suffix : String) (body : Json) : Json :=
  match body with
  | .object fields =>
    match Json.lookup "metadata" fields with
    | some (.object metadata) =>
      match Json.lookup "name" metadata with
      | some _ => body
      | none =>
        let beginning := ((Json.lookup "generateName" metadata).getD .null).orElse (.text "")
        let name : Json := .text (beginning.display ++ suffix)
        .object (Json.insertField "metadata" (.object (Json.insertField "name" name metadata))
          fields)
    | _ => body
  | v => v

def namedMetadata (suffix : String) (m : Cluster.Metadata) : Cluster.Metadata :=
  match m.name with
  | .null => { m with name := .text ((m.generateName.orElse (.text "")).display ++ suffix) }
  | _ => m

/-- What was sent with a call, as the server sends it back.  A call that sends nothing gets
nothing. -/
def sentBack (suffix : String) : {f : Cluster.Form} → Cluster.Call f → f.Carrier
  | _, .createNamespace body => { body with metadata := namedMetadata suffix body.metadata }
  | _, .createConfigMap _ body => { body with metadata := namedMetadata suffix body.metadata }
  | _, .createObject _ _ body => named suffix body
  | f, _ => f.ofShort .null

def outcome {f : Cluster.Form} (c : Cluster.Call f) : Response → Outcome f.Carrier
  | .refuse fault => .refused fault
  | .late fault => .late fault
  | .echo suffix => .served (sentBack suffix c)
  | .reply v => .served (f.ofShort v)

/-- The suffix of the names that the server makes up. -/
def usualSuffix : String := "x7k2p"

def notFound : Response := .refuse (.plain (.refused (.int 404)) "(404)\nReason: Not Found\n")

/-- The answer to a call that the script is silent about. -/
def usual {f : Cluster.Form} : Cluster.Call f → Response
  | .createNamespace _ | .createConfigMap _ _ | .createObject _ _ _ => .echo usualSuffix
  | .deleteNamespace _ | .deleteObject _ _ _ => .reply .null
  | _ => notFound

end Response

/-- What a site does in a rehearsal. -/
structure Script (τ : Type) where
  /-- The cues for calls of the API server, by the kind of the call. -/
  calls : List (String × List (Cue τ Response)) := []
  requests : List (Cue τ Exchange) := []

namespace Script

variable {τ : Type} {f : Cluster.Form}

/-- The type of custom resource that a call is about. -/
def resourceType? : Cluster.Call f → Option ResourceType
  | .createObject type _ _ => some type
  | .getObject type _ _ => some type
  | .listObjects type _ => some type
  | .deleteObject type _ _ => some type
  | _ => none

/-- The kind of a call: its method, and for custom resources their name. -/
def key (c : Cluster.Call f) : String :=
  match resourceType? c with
  | some type => s!"{c.method}:{type.plural}"
  | none => c.method

/-- The script with other cues for a kind of call. -/
def withCalls (s : Script τ) (key : String) (cues : List (Cue τ Response)) : Script τ :=
  { s with calls := s.calls.map fun entry => if entry.1 = key then (key, cues) else entry }

variable [Timescale τ]

/-- The cue for a call, and the script that is still to come. -/
def answer (s : Script τ) (c : Cluster.Call f) : Cue τ Response × Script τ :=
  match Cue.next? ((s.calls.lookup (key c)).getD []) with
  | some (cue, rest) => (cue.orElse (.refuse .overflow), s.withCalls (key c) rest)
  | none => (⟨Timescale.seconds 0, Response.usual c⟩, s)

/-- The cue for a request, and the script that is still to come.  A dashboard that the script is
silent about has an empty object everywhere. -/
def react (s : Script τ) : Cue τ Exchange × Script τ :=
  match Cue.next? s.requests with
  | some (cue, rest) => (cue.orElse (.failed .overflow), { s with requests := rest })
  | none => (⟨Timescale.seconds 0, .response 200 (Text.Utf8.encode "\x7b\x7d")⟩, s)

end Script

/-- A site that answers by a script.  Its disk has no faults of its own, and fresh directories are
made in one that is given. -/
def Site.rehearsal {τ : Type} [Timescale τ] (settings : Settings) (apiKeys : Json)
    (home : String) : Site τ (Script τ) where
  answer c s :=
    let (cue, rest) := s.answer c
    (⟨cue.cost, cue.action.outcome c⟩, rest)
  react _ s :=
    let (cue, rest) := s.react
    (⟨cue.cost, cue.action⟩, rest)
  obstacle _ s := (none, s)
  temporary beginning := Path.ofText s!"{home}/{beginning}0"
  settings := settings
  apiKeys := apiKeys

end TrialRun
