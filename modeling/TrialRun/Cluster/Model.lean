import TrialRun.Json.Access
import TrialRun.Text.Base64
import TrialRun.Workload.Names

/-!
# Objects that are served in a typed form

Namespaces, config maps, ingresses, jobs, pods and events are not taken apart as JSON: the API
server's client gives them a form with named parts, where a missing part is null.  What stands in a
part is kept as the server sent it.

Two parts are taken to be always there, as every server sends them: the metadata of an object, and
the spec of a job or a pod.  So the forms have no null for these, and nothing is said here of a
reply that lacks them.
-/

set_option autoImplicit false

namespace TrialRun.Cluster

/-- An object of the fields that are not null. -/
def presentFields (fields : List (String × Json)) : Json :=
  .ofFields (fields.filter fun f => match f.2 with
    | .null => false
    | _ => true)

/-- A value that may be missing. -/
def orNull {α : Type} (toJson : α → Json) : Option α → Json
  | some v => toJson v
  | none => .null

def labelsJson (labels : List (String × String)) : Json :=
  .ofFields (labels.map fun l => (l.1, .text l.2))

/-! ## Namespaces and config maps -/

/-- What an object says about its own name and place. -/
structure Metadata where
  name : Json := .null
  ns : Json := .null
  generateName : Json := .null
  labels : Option (List (String × String)) := none
  deriving Inhabited

def Metadata.toJson (m : Metadata) : Json :=
  presentFields
    [("name", m.name), ("namespace", m.ns), ("generateName", m.generateName),
      ("labels", orNull labelsJson m.labels)]

/-- A namespace.  Its metadata is always there; the name in it may be null. -/
structure Namespace where
  metadata : Metadata
  deriving Inhabited

def Namespace.toJson (n : Namespace) : Json := .ofFields [("metadata", n.metadata.toJson)]

/-- A namespace for a trial.  Without a name, or with an empty one, a name is generated. -/
def testNamespace (name : Json) : Namespace where
  metadata :=
    { name := name
      generateName := if name.isGiven then .null else .text Workload.testNamespacePrefix
      labels := some [(Workload.testNamespaceLabel, "true")] }

/-- A config map; its data is bytes in Base64, by file name. -/
structure ConfigMap where
  metadata : Metadata
  apiVersion : Option String := none
  kind : Option String := none
  binaryData : Option (List (String × String)) := none
  immutable : Option Bool := none
  deriving Inhabited

def ConfigMap.toJson (c : ConfigMap) : Json :=
  presentFields
    [("apiVersion", Json.textOrNull c.apiVersion), ("kind", Json.textOrNull c.kind),
      ("metadata", c.metadata.toJson), ("binaryData", orNull labelsJson c.binaryData),
      ("immutable", orNull .bool c.immutable)]

/-- The immutable config map that holds the training script.  A script has to be there. -/
def mnistConfigMap (ns : Json) (script : List UInt8) : Except Fault ConfigMap :=
  if script.isEmpty then .error (.plain .badValue "MNIST training script must not be empty")
  else
    .ok
      { metadata := { name := Workload.mnistName, ns := ns }
        apiVersion := some "v1"
        kind := some "ConfigMap"
        binaryData :=
          some [(Workload.mnistScript, String.ofList (Text.Base64.encode script))]
        immutable := some true }

/-! ## Ingresses -/

/-- A point at which a load balancer takes requests. -/
structure LoadBalancerPoint where
  ip : Json := .null
  hostname : Json := .null
  deriving Inhabited

def LoadBalancerPoint.toJson (p : LoadBalancerPoint) : Json :=
  presentFields [("ip", p.ip), ("hostname", p.hostname)]

/-- What is known of a load balancer. -/
structure LoadBalancer where
  ingress : Option (List LoadBalancerPoint) := none
  deriving Inhabited

/-- The status of an ingress. -/
structure IngressStatus where
  loadBalancer : Option LoadBalancer := none
  deriving Inhabited

/-- The rules of an ingress, by their hosts. -/
structure IngressSpec where
  hosts : Option (List Json) := none
  deriving Inhabited

/-- An ingress, with the text it is shown as in messages. -/
structure Ingress where
  spec : Option IngressSpec := none
  status : Option IngressStatus := none
  shown : String := ""
  deriving Inhabited

def Ingress.toJson (i : Ingress) : Json :=
  let rule := fun (host : Json) => presentFields [("host", host)]
  let points := fun (ps : List LoadBalancerPoint) => Json.list (ps.map (·.toJson))
  presentFields
    [("spec", orNull
        (fun s => presentFields [("rules", orNull (fun hs => .list (hs.map rule)) s.hosts)])
        i.spec),
      ("status", orNull
        (fun s => presentFields
          [("loadBalancer", orNull
            (fun b => presentFields [("ingress", orNull points b.ingress)]) s.loadBalancer)])
        i.status)]

/-- The points at which an ingress is admitted; a part that is missing on the way counts as none. -/
def Ingress.loadBalancerPoints (i : Ingress) : List LoadBalancerPoint :=
  ((i.status.bind (·.loadBalancer)).bind (·.ingress)).getD []

/-- The host of the first rule.  It is a fault if there is no rule, but not if the rule has no
host. -/
def Ingress.firstHost (i : Ingress) : Except Fault Json :=
  match i.spec with
  | none => .error (.noAttribute .null "rules")
  | some spec =>
    match spec.hosts with
    | none => .error (.notSubscriptable .null)
    | some [] => .error (.outOfRange "list")
    | some (host :: _) => .ok host

/-! ## Jobs, pods and events -/

/-- What selects the pods of a job. -/
structure LabelSelector where
  matchLabels : Option (List (String × Json)) := none
  deriving Inhabited

/-- A job, with the text it is shown as in messages.  Its metadata and its spec are always there;
the spec may be without a selector. -/
structure Job where
  metadata : Metadata
  selector : Option LabelSelector := none
  shown : String := ""
  deriving Inhabited

def Job.toJson (j : Job) : Json :=
  .ofFields
    [("metadata", j.metadata.toJson),
      ("spec", presentFields
        [("selector", orNull
            (fun s => presentFields [("matchLabels", orNull .ofFields s.matchLabels)]) j.selector),
          ("template", .object [])])]

/-- The selector of a job's pods as a text: no labels select all pods, no selector is a fault. -/
def Job.podSelector (j : Job) : Except Fault String :=
  match j.selector with
  | none => .error (.noAttribute .null "match_labels")
  | some s =>
    .ok (",".intercalate ((s.matchLabels.getD []).map fun l => s!"{l.1}={l.2.display}"))

/-- A pod with the names of its containers.  Its metadata and its spec are always there; a name may
be null. -/
structure Pod where
  name : Json := .null
  containers : List Json := []
  deriving Inhabited

def Pod.toJson (p : Pod) : Json :=
  let container := fun (name : Json) => presentFields [("name", name)]
  .ofFields
    [("metadata", presentFields [("name", p.name)]),
      ("spec", .ofFields [("containers", .list (p.containers.map container))])]

/-- Something that happened to an object of the cluster. -/
structure Occurrence where
  kind : Json := .null
  name : Json := .null
  type : Json := .null
  reason : Json := .null
  message : Json := .null
  lastTimestamp : Json := .null
  deriving Inhabited

def Occurrence.toJson (o : Occurrence) : Json :=
  presentFields
    [("involvedObject", presentFields [("kind", o.kind), ("name", o.name)]),
      ("lastTimestamp", o.lastTimestamp), ("message", o.message), ("metadata", .object []),
      ("reason", o.reason), ("type", o.type)]

def Occurrence.line (o : Occurrence) : String :=
  s!"{o.lastTimestamp.display} {o.type.display} {o.kind.display}/{o.name.display}: " ++
    s!"{o.reason.display} {o.message.display}"

end TrialRun.Cluster
