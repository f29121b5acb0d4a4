import TrialRun.Act

/-!
# Asking the cluster

Every operation makes one call and waits for its answer.  What goes wrong is told in one way
throughout (`Cluster.ask`): an answer that does not come in time is a timeout, any other ordinary
fault is a failure of the operation, and the fault itself is kept as the cause.  That an object was
created or deleted is logged only behind an answer that says so.
-/

set_option autoImplicit false

namespace TrialRun.Cluster

variable {τ σ : Type} [Timescale τ]

/-- The fault of an operation whose call has a fault. -/
def operationFault (task : String) (f : Fault) : Fault :=
  match f.kind with
  | .awaitTimedOut => f.leadsTo .timedOut s!"Timeout to {task}"
  | _ => f.leadsTo .failure s!"Failed to {task}"

/-- Makes a call for a task. -/
def ask {f : Form} (task : String) (c : Call f) : Act τ σ f.Carrier :=
  (Act.call c).rescue fun fault => Act.fail (operationFault task fault)

/-- How an object is referred to: by its namespace, if it has one, and its name. -/
def reference (ns name : Json) : String :=
  if ns.isGiven then s!"{ns.display}/{name.display}" else name.display

/-! ## The cluster itself -/

def isOpenshift : Act τ σ Bool := do
  let groups ← ask "list API groups" .listGroups
  pure ((groups.getD []).any fun g => g.agrees (.text ResourceType.route.group))

/-! ## Namespaces and config maps -/

/-- Creates a test namespace; without a name, one is generated. -/
def createNamespace (name : Json) : Act τ σ Namespace := do
  let asked := name.orElse (.text "")
  let created ← ask s!"create Namespace: {asked.display}" (.createNamespace (testNamespace name))
  Act.log .debug s!"Namespace {created.metadata.name.display} has been created"
  pure created

def getNamespace (name : Json) : Act τ σ Namespace :=
  ask s!"get Namespace: {name.display}" (.readNamespace name)

/-- Deletes a namespace, and behind the answer what it holds. -/
def deleteNamespace (name : Json) : Act τ σ Unit := do
  let _ ← ask s!"delete Namespace: {name.display}" (.deleteNamespace name)
  Act.log .debug s!"Namespace {name.display} has been deleted"

def createConfigMap (ns : Json) (configMap : ConfigMap) : Act τ σ ConfigMap := do
  let name := configMap.metadata.name.display
  let created ← ask s!"create ConfigMap: {ns.display}/{name}" (.createConfigMap ns configMap)
  Act.log .debug s!"ConfigMap {ns.display}/{name} has been created"
  pure created

def getConfigMap (ns name : Json) : Act τ σ ConfigMap :=
  ask s!"get ConfigMap: {ns.display}/{name.display}" (.readConfigMap ns name)

/-! ## Custom resources -/

/-- The name an object asks for: its own, or the beginning of a generated one. -/
def requestedName (body : Json) : Except Fault Json := do
  let metadata ← body.get "metadata" (.object [])
  let name ← metadata.get "name"
  if name.isGiven then pure name else metadata.get "generateName" (.text "")

/-- Creates an object, in a namespace if one is given. -/
def createObject (type : ResourceType) (ns body : Json) : Act τ σ Json := do
  let name ← requestedName body
  let created ← ask s!"create {type.kind}: {reference ns name}" (.createObject type ns body)
  let name ← (← created.field "metadata").field "name"
  Act.log .debug s!"{type.kind} {reference ns name} has been created"
  pure created

def getObject (type : ResourceType) (ns name : Json) : Act τ σ Json :=
  ask s!"get {type.kind}: {reference ns name}" (.getObject type ns name)

def listObjects (type : ResourceType) (ns : Json) : Act τ σ Json := do
  let response ← ask s!"list {type.kind}s in namespace: {ns.display}" (.listObjects type ns)
  response.get "items" (.list [])

def deleteObject (type : ResourceType) (ns name : Json) : Act τ σ Unit := do
  let _ ← ask s!"delete {type.kind}: {reference ns name}" (.deleteObject type ns name)
  Act.log .debug s!"{type.kind} {reference ns name} has been deleted"

/-! ## Ingresses, pods, jobs and occurrences -/

def getIngress (ns name : Json) : Act τ σ Ingress :=
  ask s!"get Ingress: {ns.display}/{name.display}" (.readIngress ns name)

/-- Reads the pods of a namespace that a selector picks; a null list is an empty one. -/
def listPods (ns : Json) (selector : Json := .null) : Act τ σ (List Pod) := do
  let pods ← ask s!"list Pods in namespace: {ns.display}" (.listPods ns selector)
  pure (pods.getD [])

def readPodLogs (ns name : Json) (container : Json := .null) : Act τ σ Json :=
  ask s!"read logs for the pod {ns.display}/{name.display}" (.readPodLog ns name container)

def getJob (ns name : Json) : Act τ σ Job :=
  ask s!"get Job: {ns.display}/{name.display}" (.readJob ns name)

/-- Reads what happened in a namespace; a null list is an empty one. -/
def listOccurrences (ns : Json) : Act τ σ (List Occurrence) := do
  let occurrences ← ask s!"list Events in namespace: {ns.display}" (.listOccurrences ns)
  pure (occurrences.getD [])

/-! ## Operations as data -/

/-- Does an operation; its result is given as it would be sent. -/
def Operation.run : Operation → Act τ σ Json
  | .isOpenshift => return .bool (← Cluster.isOpenshift)
  | .createNamespace name => return (← Cluster.createNamespace name).toJson
  | .getNamespace name => return (← Cluster.getNamespace name).toJson
  | .deleteNamespace name => do
    Cluster.deleteNamespace name
    pure .null
  | .createConfigMap ns script => do
    let configMap ← mnistConfigMap ns script
    return (← Cluster.createConfigMap ns configMap).toJson
  | .getConfigMap ns name => return (← Cluster.getConfigMap ns name).toJson
  | .create type ns body => createObject type ns body
  | .get type ns name => getObject type ns name
  | .list type ns => listObjects type ns
  | .delete type ns name => do
    deleteObject type ns name
    pure .null
  | .getIngress ns name => return (← Cluster.getIngress ns name).toJson
  | .listPods ns selector => return .list ((← Cluster.listPods ns selector).map (·.toJson))
  | .readPodLogs ns name container => Cluster.readPodLogs ns name container
  | .getJob ns name => return (← Cluster.getJob ns name).toJson
  | .listOccurrences ns =>
    return .list ((← Cluster.listOccurrences ns).map (·.toJson))

/-- The token that the cluster is accessed with: the authorization key without the word that
introduces it and without blanks around it. -/
def bearerToken (apiKeys : Json) : Except Fault (Option String) := do
  match ← (apiKeys.orElse (.object [])).get "authorization" with
  | .text s =>
    if s = "" then pure none
    else
      let introduction := "Bearer ".toList
      let chars := s.toList
      let token := if chars.take introduction.length = introduction
        then chars.drop introduction.length else chars
      pure (some (String.ofList (Text.strip token)))
  | token =>
    if token.isGiven then .error (.noAttribute token "removeprefix") else pure none

end TrialRun.Cluster
