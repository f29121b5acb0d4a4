import TrialRun.Cluster.Model
import TrialRun.Cluster.ResourceType

/-!
# Calls of the API server

A call says what is asked of the API server, and its type says what an answer to it is made of
(`Form`).  On the wire a call is a method of one of the server's interfaces, with arguments by
position and by name; every call is made asynchronously, so that its answer can be awaited for a
limited time.

A custom resource is asked for within a namespace if one is given, and of the whole cluster
otherwise.
-/

set_option autoImplicit false

namespace TrialRun.Cluster

/-- What the answers to a call are made of. -/
inductive Form where
  | value
  | namespace
  | configMap
  | ingress
  | job
  | pods
  | occurrences
  | groups
  deriving DecidableEq, Repr

/-- The answers of a form.  A list may be null. -/
abbrev Form.Carrier : Form → Type
  | .value => Json
  | .namespace => Namespace
  | .configMap => ConfigMap
  | .ingress => Ingress
  | .job => Job
  | .pods => Option (List Pod)
  | .occurrences => Option (List Occurrence)
  | .groups => Option (List Json)

/-- A call, by the form of its answers.  Names are what a reply or a caller gave; a null or empty
namespace of a custom resource stands for the whole cluster. -/
inductive Call : Form → Type where
  | listGroups : Call .groups
  | createNamespace (body : Namespace) : Call .namespace
  | readNamespace (name : Json) : Call .namespace
  | deleteNamespace (name : Json) : Call .value
  | createConfigMap (ns : Json) (body : ConfigMap) : Call .configMap
  | readConfigMap (ns name : Json) : Call .configMap
  | readIngress (ns name : Json) : Call .ingress
  | readJob (ns name : Json) : Call .job
  | listPods (ns selector : Json) : Call .pods
  | readPodLog (ns name container : Json) : Call .value
  | listOccurrences (ns : Json) : Call .occurrences
  | createObject (type : ResourceType) (ns body : Json) : Call .value
  | getObject (type : ResourceType) (ns name : Json) : Call .value
  | listObjects (type : ResourceType) (ns : Json) : Call .value
  | deleteObject (type : ResourceType) (ns name : Json) : Call .value

namespace Call

variable {f : Form}

/-- The interface of the API server that serves the call. -/
def interface : Call f → String
  | .listGroups => "apis"
  | .readIngress .. => "networking"
  | .readJob .. => "batch"
  | .createObject .. | .getObject .. | .listObjects .. | .deleteObject .. => "custom"
  | _ => "core"

/-- The reach of a call of a custom resource. -/
def reach (ns : Json) : String := if ns.isGiven then "namespaced" else "cluster"

def method : Call f → String
  | .listGroups => "get_api_versions"
  | .createNamespace _ => "create_namespace"
  | .readNamespace _ => "read_namespace"
  | .deleteNamespace _ => "delete_namespace"
  | .createConfigMap .. => "create_namespaced_config_map"
  | .readConfigMap .. => "read_namespaced_config_map"
  | .readIngress .. => "read_namespaced_ingress"
  | .readJob .. => "read_namespaced_job"
  | .listPods .. => "list_namespaced_pod"
  | .readPodLog .. => "read_namespaced_pod_log"
  | .listOccurrences _ => "list_namespaced_event"
  | .createObject _ ns _ => s!"create_{reach ns}_custom_object"
  | .getObject _ ns _ => s!"get_{reach ns}_custom_object"
  | .listObjects _ _ => "list_namespaced_custom_object"
  | .deleteObject _ ns _ => s!"delete_{reach ns}_custom_object"

/-- Where a custom resource is served, within a namespace if one is given. -/
def place (type : ResourceType) (ns : Json) : List Json :=
  if ns.isGiven then [.text type.group, .text type.version, ns, .text type.plural]
  else [.text type.group, .text type.version, .text type.plural]

def arguments : Call f → List Json
  | .listGroups => []
  | .createNamespace body => [body.toJson]
  | .readNamespace name => [name]
  | .deleteNamespace name => [name]
  | .createConfigMap ns body => [ns, body.toJson]
  | .readConfigMap ns name => [name, ns]
  | .readIngress ns name => [name, ns]
  | .readJob ns name => [name, ns]
  | .listPods ns _ => [ns]
  | .readPodLog .. => []
  | .listOccurrences ns => [ns]
  | .createObject type ns body => place type ns ++ [body]
  | .getObject type ns name => place type ns ++ [name]
  | .listObjects type ns => [.text type.group, .text type.version, ns, .text type.plural]
  | .deleteObject type ns _ => place type ns

def options : Call f → Json
  | .deleteNamespace _ =>
    .ofFields [("async_req", .bool true), ("propagation_policy", .text "Background")]
  | .listPods _ selector => .ofFields [("async_req", .bool true), ("label_selector", selector)]
  | .readPodLog ns name container =>
    .ofFields
      [("async_req", .bool true), ("name", name), ("namespace", ns), ("container", container)]
  | .deleteObject _ _ name => .ofFields [("async_req", .bool true), ("name", name)]
  | _ => .ofFields [("async_req", .bool true)]

end Call

end TrialRun.Cluster
