import TrialRun.Cluster.ResourceType
import TrialRun.Json.Memory
import TrialRun.Workload.Names
import TrialRun.Workload.Status

/-!
# Wrappers

A wrapper holds one object as its single component and is queued in its place.  The object goes in
as it is, but for the time of its creation, which only the server may set.
-/

set_option autoImplicit false

namespace TrialRun.Workload

/-- The metadata without the time of creation.  Only an object has fields to take away. -/
def withoutCreationTime (metadata : Json) : Except Fault Json :=
  match metadata with
  | .object fields => .ok (.object (Json.removeField "creationTimestamp" fields))
  | v => .error v.cannotPop

/-- The object as it goes into a wrapper. -/
def wrappedTemplate (object : Json) : Except Fault Json :=
  match object with
  | .object fields =>
    match Json.lookup "metadata" fields with
    | none => .ok (.object fields)
    | some metadata => do
      let metadata ← withoutCreationTime metadata
      pure (.object (Json.replaceField "metadata" metadata fields))
  | v => .error (.noAttribute v "get")

/-- A wrapper with that template. -/
def wrapper (ns name template localQueue : Json) : Json :=
  .ofFields
    [("apiVersion", ResourceType.appWrapper.apiVersion), ("kind", ResourceType.appWrapper.kind),
      ("metadata", .ofFields
        [("generateName", name), ("namespace", ns),
          ("labels", .ofFields [(queueNameLabel, localQueue)])]),
      ("spec", .ofFields [("components", .list [.ofFields [("template", template)]])])]

/-- The wrapper of an object, queued by the label that the object itself then lacks. -/
def appWrapper (ns object localQueue : Json) : Except Fault Json := do
  let template ← wrappedTemplate object
  pure (wrapper ns (← name object) template localQueue)

/-! ## In memory -/

/-- Takes the time of creation away from an object where it is kept. -/
def removeCreationTime (object : Held) : InMemory Unit := do
  let metadata ← InMemory.getField object "metadata" (← InMemory.empty)
  InMemory.popField metadata "creationTimestamp"

/-- Makes the wrapper of an object.  Only a copy of the object is changed.  The copy succeeds for
objects of any depth (`InMemory.copy`). -/
def wrap (ns : Json) (object : Held) (localQueue : Json) : InMemory Json := do
  let template ← InMemory.copy object
  removeCreationTime template
  let m ← get
  pure (wrapper ns (← name (m.read object)) (m.read template) localQueue)

end TrialRun.Workload
