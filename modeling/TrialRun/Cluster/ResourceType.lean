/-!
# Types of custom resources

A custom resource is served under a group, a version and a plural name, and names its kind in every
object.
-/

set_option autoImplicit false

namespace TrialRun

/-- A reference to a type of custom resources. -/
structure ResourceType where
  group : String
  version : String
  plural : String
  kind : String
  deriving DecidableEq, Repr

namespace ResourceType

def apiVersion (r : ResourceType) : String := s!"{r.group}/{r.version}"

def rayCluster : ResourceType := ⟨"ray.io", "v1", "rayclusters", "RayCluster"⟩

def rayJob : ResourceType := ⟨"ray.io", "v1", "rayjobs", "RayJob"⟩

/-- Flavors of the resources that queues share out. -/
def resourceFlavor : ResourceType :=
  ⟨"kueue.x-k8s.io", "v1beta1", "resourceflavors", "ResourceFlavor"⟩

def clusterQueue : ResourceType := ⟨"kueue.x-k8s.io", "v1beta1", "clusterqueues", "ClusterQueue"⟩

/-- Queues of a namespace, which feed a queue of the cluster. -/
def localQueue : ResourceType := ⟨"kueue.x-k8s.io", "v1beta1", "localqueues", "LocalQueue"⟩

/-- Wrappers that are queued in place of what they wrap. -/
def appWrapper : ResourceType :=
  ⟨"workload.codeflare.dev", "v1beta2", "appwrappers", "AppWrapper"⟩

/-- Routes that make a service reachable from outside. -/
def route : ResourceType := ⟨"route.openshift.io", "v1", "routes", "Route"⟩

end ResourceType

end TrialRun
