import TrialRun.Cluster.Call

/-!
# Short forms of served objects

A rehearsal tells what the API server answers in JSON.  Objects that are served in a typed form are
told in a short form that names only the parts a trial looks at; a part that is left out is missing
from the object.
-/

set_option autoImplicit false

namespace TrialRun.Cluster

/-- A part of a short form; null if it is left out. -/
def shortPart (v : Json) (name : String) : Json := (v.field? name).getD .null

def shortText (v : Json) (name usual : String) : String :=
  match v.field? name with
  | some (.text s) => s
  | _ => usual

def shortItems : Json → Option (List Json)
  | .list items => some items
  | _ => none

def Metadata.ofShort (v : Json) : Metadata where
  name := shortPart v "name"
  ns := shortPart v "namespace"

def Namespace.ofShort (v : Json) : Namespace where
  metadata := .ofShort v

def ConfigMap.ofShort (v : Json) : ConfigMap where
  metadata := .ofShort v

/-- A point of a load balancer by its address or its name. -/
def LoadBalancerPoint.ofShort (v : Json) : LoadBalancerPoint where
  ip := shortPart v "ip"
  hostname := shortPart v "hostname"

def LoadBalancer.ofShort? : Json → Option LoadBalancer
  | .null => none
  | v =>
    some { ingress := (shortItems (shortPart v "ingress")).map (·.map LoadBalancerPoint.ofShort) }

/-- The status of an ingress by its load balancer. -/
def IngressStatus.ofShort? : Json → Option IngressStatus
  | .null => none
  | v => some { loadBalancer := LoadBalancer.ofShort? (shortPart v "loadBalancer") }

/-- An ingress by the hosts of its rules and by its status.  Without hosts it has no rules to ask
for at all; null hosts leave the rules missing. -/
def Ingress.ofShort (v : Json) : Ingress where
  spec := (v.field? "hosts").map fun hosts => { hosts := shortItems hosts }
  status := IngressStatus.ofShort? (shortPart v "status")
  shown := shortText v "text" "INGRESS"

def label? : Json → Option (String × Json)
  | .list [name, value] => some (name.display, value)
  | _ => none

/-- The labels with one more; a label of the same name changes its value and keeps its place. -/
def withLabel (name : String) (value : Json) : List (String × Json) → List (String × Json)
  | [] => [(name, value)]
  | (other, old) :: rest =>
    if name = other then (other, value) :: rest else (other, old) :: withLabel name value rest

/-- A job by its name and the labels of its pods, which keep their order.  Without labels it has no
selector; null labels leave the selector without any. -/
def Job.ofShort (v : Json) : Job where
  metadata := .ofShort v
  selector := (v.field? "match_labels").map fun labels =>
    { matchLabels := (shortItems labels).map fun items =>
        (items.filterMap label?).foldl (fun labels l => withLabel l.1 l.2 labels) [] }
  shown := shortText v "text" "JOB"

def Pod.ofShort (v : Json) : Pod where
  name := shortPart v "name"
  containers := (shortItems (shortPart v "containers")).getD []

def Occurrence.ofShort (v : Json) : Occurrence where
  kind := shortPart v "kind"
  name := shortPart v "name"
  type := shortPart v "type"
  reason := shortPart v "reason"
  message := shortPart v "message"
  lastTimestamp := shortPart v "last_timestamp"

def Form.ofShort : (f : Form) → Json → f.Carrier
  | .value, v => v
  | .namespace, v => Namespace.ofShort v
  | .configMap, v => ConfigMap.ofShort v
  | .ingress, v => Ingress.ofShort v
  | .job, v => Job.ofShort v
  | .pods, v => (shortItems v).map (·.map Pod.ofShort)
  | .occurrences, v => (shortItems v).map (·.map Occurrence.ofShort)
  | .groups, v => shortItems v

end TrialRun.Cluster
