import TrialRun.Proofs.Json.Objects
import TrialRun.Proofs.Workload.Quantities
import TrialRun.Workload.Queue
import TrialRun.Workload.RayCluster
import TrialRun.Workload.RayJob

/-!
# What is read in a workload

A workload is described by three objects that different readers take apart: the specification of a
cluster queue by the queues' controller, a Ray cluster and a training job by the controller of Ray,
and the pods of both by the API server.  Here is what these readers find as far as resources, nodes
and images go.  They look at the objects only, not at what these are made from, and refuse an object
that lacks what has to be there or whose amounts are no quantities.
-/

set_option autoImplicit false

namespace TrialRun

namespace Json

def text? : Json → Option String
  | .text s => some s
  | _ => none

def count? : Json → Option Nat
  | .number (.int n) => n.toNat?
  | _ => none

def items? : Json → Option (List Json)
  | .list items => some items
  | _ => none

@[simp]
theorem text?_text (s : String) : (Json.text s).text? = some s := rfl

/-- A number that is not negative is read as a count. -/
@[simp]
theorem count?_int (n : Nat) : (Json.int n).count? = some n := rfl

@[simp]
theorem items?_list (items : List Json) : (Json.list items).items? = some items := rfl

/-- The value of an optional field. -/
def part? (v : Json) (name : String) (absent : Json) : Option Json :=
  match v with
  | .object fields => some ((lookup name fields).getD absent)
  | _ => none

/-- An empty object has no parts, so every part is taken to be `absent`. -/
@[simp]
theorem part?_empty (name : String) (absent : Json) :
    (Json.object []).part? name absent = some absent := rfl

/-- The parts of an object are those it is made of, provided no name is given twice. -/
theorem part?_ofFields {fields : List (String × Json)} (nodup : (fields.map Prod.fst).Nodup)
    (name : String) (absent : Json) :
    (ofFields fields).part? name absent = some ((lookup name fields).getD absent) := by
  rw [← field?_ofFields nodup]
  rfl

end Json

namespace Workload

/-! ## Pods -/

/-- How much there is of each resource that is named. -/
def Amounts := String → Option Rat

namespace Amounts

/-- How much there is of a resource; nothing if it is not named. -/
def of (a : Amounts) (name : String) : Rat := (a name).getD 0

def quantity? (v : Json) : Option Rat := v.text?.bind Quantity.read

@[simp]
theorem quantity?_text (s : String) : quantity? (.text s) = Quantity.read s := rfl

/-- The amounts in the fields of an object, all of which have to be quantities. -/
def read : Json → Option Amounts
  | .object fields =>
    if fields.all fun f => (quantity? f.2).isSome then
      some fun name => (Json.lookup name fields).bind quantity?
    else none
  | _ => none

/-- No amount of anything. -/
def nothing : Amounts := fun _ => none

/-- Who asks for no resource has the empty list of quantities. -/
@[simp]
theorem read_empty : read (.object []) = some nothing := rfl

/-- Quantities are read resource by resource, if each of them can be read. -/
theorem read_ofFields {fields : List (String × Json)} (nodup : (fields.map Prod.fst).Nodup)
    (readable : ∀ f ∈ fields, (quantity? f.2).isSome) :
    read (.ofFields fields) = some fun name => (Json.lookup name fields).bind quantity? := by
  rw [Json.ofFields, read, if_pos]
  · congr 1
    funext name
    rw [Json.lookup_sorted nodup]
    exact congrArg (·.bind quantity?) Option.or_none
  · apply List.all_eq_true.mpr
    intro f inside
    exact readable f ((Json.mem_of_mem_sorted inside).resolve_right List.not_mem_nil)

end Amounts

/-- A container: its image, and how much of each resource it asks for and is limited to. -/
structure Container where
  image : String
  requests : Amounts
  limits : Amounts

def Container.read (v : Json) : Option Container := do
  let resources ← v.part? "resources" (.object [])
  pure
    { image := ← (← v.field? "image").text?
      requests := ← Amounts.read (← resources.part? "requests" (.object []))
      limits := ← Amounts.read (← resources.part? "limits" (.object [])) }

/-- A taint that a pod puts up with on its node. -/
structure Toleration where
  key : String
  operator : String
  effect : String

def Toleration.read (v : Json) : Option Toleration := do
  pure
    { key := ← (← v.part? "key" "").text?
      operator := ← (← v.part? "operator" "Equal").text?
      effect := ← (← v.part? "effect" "").text? }

/-- Whether all taints of a key are covered, whatever their value and their effect.  Without a key
of its own a toleration covers all keys. -/
def Toleration.Covers (t : Toleration) (key : String) : Prop :=
  t.operator = "Exists" ∧ t.effect = "" ∧ (t.key = "" ∨ t.key = key)

structure Pod where
  containers : List Container
  tolerations : List Toleration

namespace Pod

/-- Reads a pod, which has at least one container, and none that runs before the others. -/
def read (v : Json) : Option Pod := do
  let containers ← (← v.field? "containers").items?
  guard (containers ≠ [] ∧ (v.field? "initContainers").isNone)
  pure
    { containers := ← containers.mapM Container.read
      tolerations := ← (← (← v.part? "tolerations" (.list [])).items?).mapM Toleration.read }

/-- The pod in a template. -/
def readTemplate (v : Json) : Option Pod := do read (← v.field? "spec")

def Requests (p : Pod) (name : String) : Prop := ∃ c ∈ p.containers, (c.requests name).isSome

def Tolerates (p : Pod) (key : String) : Prop := ∃ t ∈ p.tolerations, t.Covers key

/-- What the containers of a pod ask for together. -/
def requested (p : Pod) (name : String) : Rat := (p.containers.map (·.requests.of name)).sum

/-- What the containers of a pod are limited to together. -/
def limit (p : Pod) (name : String) : Rat := (p.containers.map (·.limits.of name)).sum

end Pod

/-! ## The three objects -/

/-- What a cluster queue shares out: the resources it covers, and the quotas of its flavor. -/
structure Supply where
  covered : List String
  quotas : List (String × Rat)

/-- Reads the specification of a cluster queue with one group of resources and one flavor. -/
def Supply.read (v : Json) : Option Supply := do
  let [group] ← (← v.field? "resourceGroups").items? | none
  let [flavor] ← (← group.field? "flavors").items? | none
  pure
    { covered := ← (← (← group.field? "coveredResources").items?).mapM Json.text?
      quotas := ← (← (← flavor.field? "resources").items?).mapM fun quota => do
        pure (← (← quota.field? "name").text?,
          ← Amounts.quantity? (← quota.field? "nominalQuota")) }

/-- What a Ray cluster starts with. -/
structure Demand where
  head : Pod
  worker : Pod
  workers : Nat

namespace Demand

/-- Reads a Ray cluster with one group of workers. -/
def read (v : Json) : Option Demand := do
  let spec ← v.field? "spec"
  let head ← spec.field? "headGroupSpec"
  let [group] ← (← spec.field? "workerGroupSpecs").items? | none
  pure
    { head := ← Pod.readTemplate (← head.field? "template")
      worker := ← Pod.readTemplate (← group.field? "template")
      workers := ← (← group.field? "replicas").count? }

def containers (d : Demand) : List Container := d.head.containers ++ d.worker.containers

/-- What all pods ask for together. -/
def requested (d : Demand) (name : String) : Rat :=
  d.head.requested name + d.workers * d.worker.requested name

end Demand

/-- What a training job adds: a pod that submits it, and what its entrypoint asks Ray for. -/
structure Submission where
  submitter : Pod
  cpus : Nat
  gpus : Nat

def Submission.read (v : Json) : Option Submission := do
  let spec ← v.field? "spec"
  pure
    { submitter := ← Pod.readTemplate (← spec.field? "submitterPodTemplate")
      cpus := ← (← spec.field? "entrypointNumCpus").count?
      gpus := ← (← spec.field? "entrypointNumGpus").count? }

end Workload

end TrialRun
