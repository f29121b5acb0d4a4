import TrialRun.Cluster.ResourceType
import TrialRun.Json.Basic

/-!
# Operations on the cluster

What a trial can ask of the cluster, as data: so that it can be put off and done later.

Custom resources are created, read, listed and deleted in one way for all types.  What is done with
each type has its own name here: it is that operation with the type, and with no namespace where an
object belongs to the whole cluster.
-/

set_option autoImplicit false

namespace TrialRun.Cluster

/-- An operation on the cluster.  Names are what a reply or a caller gave. -/
inductive Operation where
  | isOpenshift
  | createNamespace (name : Json)
  | getNamespace (name : Json)
  | deleteNamespace (name : Json)
  /-- Creates the config map of the training script. -/
  | createConfigMap (ns : Json) (script : List UInt8)
  | getConfigMap (ns name : Json)
  | create (type : ResourceType) (ns body : Json)
  | get (type : ResourceType) (ns name : Json)
  | list (type : ResourceType) (ns : Json)
  | delete (type : ResourceType) (ns name : Json)
  | getIngress (ns name : Json)
  | listPods (ns selector : Json)
  | readPodLogs (ns name container : Json)
  | getJob (ns name : Json)
  | listOccurrences (ns : Json)

namespace Operation

/-! ## Queues -/

def createResourceFlavor (flavor : Json) : Operation := .create .resourceFlavor .null flavor

def deleteResourceFlavor (name : Json) : Operation := .delete .resourceFlavor .null name

def createClusterQueue (queue : Json) : Operation := .create .clusterQueue .null queue

def deleteClusterQueue (name : Json) : Operation := .delete .clusterQueue .null name

def createLocalQueue (ns queue : Json) : Operation := .create .localQueue ns queue

def getLocalQueue (ns name : Json) : Operation := .get .localQueue ns name

/-! ## Ray clusters and their jobs -/

def createRayCluster (ns rayCluster : Json) : Operation := .create .rayCluster ns rayCluster

def getRayCluster (ns name : Json) : Operation := .get .rayCluster ns name

def listRayClusters (ns : Json) : Operation := .list .rayCluster ns

def deleteRayCluster (ns name : Json) : Operation := .delete .rayCluster ns name

def createRayJob (ns rayJob : Json) : Operation := .create .rayJob ns rayJob

def getRayJob (ns name : Json) : Operation := .get .rayJob ns name

def deleteRayJob (ns name : Json) : Operation := .delete .rayJob ns name

/-! ## Wrappers and routes -/

def createAppWrapper (ns wrapper : Json) : Operation := .create .appWrapper ns wrapper

def getAppWrapper (ns name : Json) : Operation := .get .appWrapper ns name

def listAppWrappers (ns : Json) : Operation := .list .appWrapper ns

def deleteAppWrapper (ns name : Json) : Operation := .delete .appWrapper ns name

def getRoute (ns name : Json) : Operation := .get .route ns name

end Operation

end TrialRun.Cluster
