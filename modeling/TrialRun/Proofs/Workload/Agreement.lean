import TrialRun.Proofs.Workload.Views

/-!
# The objects of a workload agree

The cluster queue, the Ray cluster and the training job of a trial are built apart from each other.
A workload that asks for what its queue does not cover, or for more than there is of it, is never
admitted, and nothing tells of it but a timeout.  `builders_agree` keeps this from happening, for
all accelerators whose resource is neither the processors nor the memory.

Each object is first read on its own (`read_clusterQueueSpec`, `RayCluster.read_toJson`,
`RayJob.read_toJson`): what is found in it depends on the accelerator only by the resource that
there is to ask for, if there is one.  The rest is about what was found.
-/

set_option autoImplicit false

namespace TrialRun.Workload

/-- What a queue shares out, what a Ray cluster starts with and what a job adds go together, where
`label` is the resource of the accelerator. -/
structure Agree (label : String) (supply : Supply) (demand : Demand) (job : Submission) : Prop where
  /-- No resource is covered twice. -/
  nodup : supply.covered.Nodup
  /-- There is a quota for each resource that is covered, in the same order. -/
  quotas : supply.covered = supply.quotas.map Prod.fst
  /-- Whatever a container asks for or is limited to is covered. -/
  covered : ∀ c ∈ demand.containers, ∀ name,
    (c.requests name).isSome ∨ (c.limits name).isSome → name ∈ supply.covered
  /-- All pods at the start fit into the quotas together. -/
  admitted : ∀ quota ∈ supply.quotas, demand.requested quota.1 ≤ quota.2
  /-- No container asks for more than it is limited to. -/
  limited : ∀ c ∈ demand.containers, ∀ name amount, c.requests name = some amount →
    ∃ limit, c.limits name = some limit ∧ amount ≤ limit
  /-- The accelerator is asked for, and all that goes with it is there, if there is a resource to
  ask for. -/
  requested : demand.worker.Requests label ↔ label ≠ ""
  tolerated : demand.worker.Tolerates label ↔ label ≠ ""
  shared : label ∈ supply.quotas.map Prod.fst ↔ label ≠ ""
  used : job.gpus = 1 ↔ label ≠ ""
  /-- What the entrypoint asks for fits on one worker. -/
  cpus : job.cpus ≤ demand.worker.limit cpuLabel
  gpus : job.gpus ≤ demand.worker.limit label

/-! ## Resources -/

/-- The resource of an accelerator, if there is one to ask for. -/
def share (a : Accelerator) : Option String := if a.isGpu then some a.resourceLabel else none

/-- There is a resource to ask for if the accelerator has a label that is not empty. -/
theorem share_eq_some_iff {a : Accelerator} {name : String} :
    share a = some name ↔ name = a.resourceLabel ∧ name ≠ "" := by
  unfold share
  split <;> grind [Accelerator.isGpu]

theorem share_eq_self_iff {a : Accelerator} :
    share a = some a.resourceLabel ↔ a.resourceLabel ≠ "" :=
  share_eq_some_iff.trans (and_iff_right rfl)

/-- A resource that is neither the processors nor the memory. -/
def IsExtended (name : String) : Prop := name ≠ cpuLabel ∧ name ≠ memoryLabel

/-- The names of all resources that matter beside an accelerator. -/
def resourceNames (accelerator : Option String) : List String :=
  cpuLabel :: memoryLabel :: accelerator.toList

/-- One piece of an accelerator, as a container asks for it. -/
def pieces (accelerator : Option String) : List (String × Json) :=
  accelerator.toList.map (·, .text "1")

/-- One piece is asked for of the accelerator, and nothing else. -/
theorem lookup_pieces (accelerator : Option String) (name : String) :
    Json.lookup name (pieces accelerator) =
      if accelerator = some name then some (.text "1") else none := by
  cases accelerator with
  | none => rfl
  | some other =>
    simp only [pieces, Option.toList, List.map, Json.lookup, Option.some.injEq, eq_comm]

/-- A Ray cluster asks for the accelerator it was given, if there is one to ask for. -/
theorem RayCluster.acceleratorShare_eq (c : RayCluster) :
    c.acceleratorShare = pieces (share c.accelerator) := by
  unfold acceleratorShare share
  split <;> rfl

section Tables

variable {accelerator : Option String}

/-- An accelerator that goes by the name of another resource is the only way to name one twice. -/
theorem nodup_resourceNames_iff :
    (resourceNames accelerator).Nodup ↔ ∀ name ∈ accelerator, IsExtended name := by
  have distinct : cpuLabel ≠ memoryLabel := by decide
  cases accelerator with
  | none => simp [resourceNames, distinct]
  | some name => simp [resourceNames, IsExtended, distinct, eq_comm]

namespace Amounts

/-- The amounts of processors and memory, and one piece of an accelerator. -/
def table (cpu memory : Rat) (accelerator : Option String) : Amounts := fun name =>
  if name = cpuLabel then some cpu
  else if name = memoryLabel then some memory
  else if accelerator = some name then some 1
  else none

variable {cpu cpu' memory memory' : Rat} {name : String}

/-- The amounts of a table: processors and memory as given, and one piece of the accelerator. -/
@[simp]
theorem of_table_cpu : (table cpu memory accelerator).of cpuLabel = cpu := rfl

@[simp]
theorem of_table_memory : (table cpu memory accelerator).of memoryLabel = memory := rfl

/-- A resource that is neither has an amount only if it is the accelerator's. -/
theorem of_table_extended (extended : IsExtended name) :
    (table cpu memory accelerator).of name = if accelerator = some name then 1 else 0 := by
  rw [of, table, if_neg extended.1, if_neg extended.2]
  split <;> rfl

/-- A table has amounts for the resources that matter, and for no others. -/
theorem table_isSome :
    (table cpu memory accelerator name).isSome ↔ name ∈ resourceNames accelerator := by
  unfold table resourceNames
  split_ifs <;> simp_all

/-- A table with at least as much of processors and memory has as much of each resource. -/
theorem exists_table_le (moreCpu : cpu ≤ cpu') (moreMemory : memory ≤ memory') {amount : Rat}
    (given : table cpu memory accelerator name = some amount) :
    ∃ limit, table cpu' memory' accelerator name = some limit ∧ amount ≤ limit := by
  unfold table at given ⊢
  split_ifs at given ⊢ <;> cases given
  · exact ⟨_, rfl, moreCpu⟩
  · exact ⟨_, rfl, moreMemory⟩
  · exact ⟨_, rfl, le_rfl⟩

theorem read_one : Quantity.read "1" = some 1 :=
  (Quantity.read_whole 1 "" rfl).trans (by norm_num)

/-- A table is read from quantities of processors and memory, and one piece of an accelerator. -/
theorem read_table (extended : ∀ name ∈ accelerator, IsExtended name) {cpuText memoryText : String}
    (readCpu : Quantity.read cpuText = some cpu)
    (readMemory : Quantity.read memoryText = some memory) :
    read (.ofFields
        ((cpuLabel, .text cpuText) :: (memoryLabel, .text memoryText) :: pieces accelerator)) =
      some (table cpu memory accelerator) := by
  rw [read_ofFields]
  · congr 1
    funext name
    rw [Json.lookup, Json.lookup, lookup_pieces, table]
    split_ifs <;> simp [readCpu, readMemory, read_one]
  · have names : (pieces accelerator).map Prod.fst = accelerator.toList := by
      simp [pieces, Function.comp_def]
    rw [List.map_cons, List.map_cons, names]
    exact nodup_resourceNames_iff.mpr extended
  · cases accelerator <;> simp [pieces, readCpu, readMemory, read_one]

end Amounts

end Tables

/-! ## Containers -/

/-- What the quantities of some resources are worth. -/
structure Worth where
  cpuRequest : Rat
  memoryRequest : Rat
  cpuLimit : Rat
  memoryLimit : Rat

namespace Worth

def head : Worth := ⟨1 / 4, 2 * 10 ^ 9, 1, 4 * 10 ^ 9⟩

def worker : Worth := ⟨1 / 4, 10 ^ 9, 2, 4 * 10 ^ 9⟩

/-- A container with these resources, and one piece of an accelerator. -/
def container (w : Worth) (image : String) (accelerator : Option String) : Container where
  image := image
  requests := .table w.cpuRequest w.memoryRequest accelerator
  limits := .table w.cpuLimit w.memoryLimit accelerator

end Worth

structure Resources.IsWorth (r : Resources) (w : Worth) : Prop where
  cpuRequest : Quantity.read r.cpuRequest = some w.cpuRequest
  memoryRequest : Quantity.read r.memoryRequest = some w.memoryRequest
  cpuLimit : Quantity.read r.cpuLimit = some w.cpuLimit
  memoryLimit : Quantity.read r.memoryLimit = some w.memoryLimit

/-- What the quantities of a head are worth, as the server reads them. -/
theorem Resources.head_isWorth : head.IsWorth .head where
  cpuRequest := (Quantity.read_whole 250 "m" rfl).trans (by norm_num [Worth.head])
  memoryRequest := Quantity.read_whole 2 "G" rfl
  cpuLimit := (Quantity.read_whole 1 "" rfl).trans (by norm_num [Worth.head])
  memoryLimit := Quantity.read_whole 4 "G" rfl

/-- What the quantities of a worker are worth. -/
theorem Resources.worker_isWorth : worker.IsWorth .worker where
  cpuRequest := (Quantity.read_whole 250 "m" rfl).trans (by norm_num [Worth.worker])
  memoryRequest := (Quantity.read_whole 1 "G" rfl).trans (by norm_num [Worth.worker])
  cpuLimit := (Quantity.read_whole 2 "" rfl).trans (by norm_num [Worth.worker])
  memoryLimit := Quantity.read_whole 4 "G" rfl

/-- A container is read from its image and its resources, whatever else it has. -/
theorem Container.read_eq {accelerator : Option String}
    (extended : ∀ name ∈ accelerator, IsExtended name) {v : Json} {image : String} {r : Resources}
    {w : Worth} (worth : r.IsWorth w) (named : v.field? "image" = some (.text image))
    (given : v.part? "resources" (.object []) = some (r.toJson (pieces accelerator))) :
    Container.read v = some (w.container image accelerator) := by
  have requests := Amounts.read_table extended worth.cpuRequest worth.memoryRequest
  have limits := Amounts.read_table extended worth.cpuLimit worth.memoryLimit
  simp [Container.read, given, named, Resources.toJson, Json.part?_ofFields, Json.lookup, requests,
    limits, Worth.container]

/-! ## What is read in each object -/

/-- Processors, memory and one piece of an accelerator. -/
def Supply.sharing (accelerator : Option String) : Supply where
  covered := resourceNames accelerator
  quotas := (cpuLabel, 8) :: (memoryLabel, 12 * 2 ^ 30) :: accelerator.toList.map (·, 1)

/-- The queue covers and shares out what matters, the accelerator included if there is one to ask
for. -/
theorem read_clusterQueueSpec (flavor : Json) (a : Accelerator) :
    Supply.read (clusterQueueSpec flavor a) = some (.sharing (share a)) := by
  have cpu : Quantity.read "8" = some 8 := (Quantity.read_whole 8 "" rfl).trans (by norm_num)
  have memory : Quantity.read "12Gi" = some (12 * 2 ^ 30) := Quantity.read_whole 12 "Gi" rfl
  cases gpu : a.isGpu <;>
    simp [Supply.read, clusterQueueSpec, Supply.sharing, resourceNames, quotas, share, gpu, cpu,
      memory, Amounts.read_one, Json.field?_ofFields, Json.lookup]

/-- A head without accelerator, and workers that ask for one piece of it and tolerate the nodes kept
for it. -/
def Demand.starting (image : String) (accelerator : Option String) : Demand where
  head := ⟨[Worth.head.container image none], []⟩
  worker :=
    { containers := [Worth.worker.container image accelerator]
      tolerations := accelerator.toList.map (⟨·, "Exists", ""⟩) }
  workers := RayCluster.workers

namespace RayCluster

variable (c : RayCluster)

/-- The head asks for no accelerator, with or without secrets to pull its image. -/
theorem read_headPod : Pod.read c.headPod = some (Demand.starting c.image none).head := by
  have container : Container.read c.headContainer = some (Worth.head.container c.image none) := by
    apply Container.read_eq (by simp) Resources.head_isWorth
    · simp [headContainer, Json.field?_ofFields, Json.lookup]
    · simp [headContainer, Json.part?_ofFields, Json.lookup, pieces]
  unfold headPod
  split <;>
    simp [Pod.read, container, Demand.starting, Json.field?_ofFields, Json.part?_ofFields,
      Json.lookup]

/-- The workers ask for the accelerator and tolerate its nodes, if there is one to ask for. -/
theorem read_workerPod (extended : ∀ name ∈ share c.accelerator, IsExtended name) :
    Pod.read c.workerPod = some (Demand.starting c.image (share c.accelerator)).worker := by
  have container : Container.read c.workerContainer =
      some (Worth.worker.container c.image (share c.accelerator)) := by
    apply Container.read_eq extended Resources.worker_isWorth
    · simp [workerContainer, Json.field?_ofFields, Json.lookup]
    · simp [workerContainer, Json.part?_ofFields, Json.lookup, acceleratorShare_eq]
  unfold share workerPod at *
  split at container <;>
    simp_all [Pod.read, Toleration.read, Demand.starting, Json.field?_ofFields,
      Json.part?_ofFields, Json.lookup]

/-- A Ray cluster starts with one head and its workers. -/
theorem read_toJson (extended : ∀ name ∈ share c.accelerator, IsExtended name) :
    Demand.read c.toJson = some (.starting c.image (share c.accelerator)) := by
  simp [Demand.read, toJson, Pod.readTemplate, read_headPod, read_workerPod c extended,
    Demand.starting, Json.field?_ofFields, Json.lookup]

end RayCluster

/-- The submitter asks for nothing itself; its entrypoint asks for processors and perhaps for a
piece of the accelerator. -/
theorem RayJob.read_toJson (j : RayJob) :
    Submission.read j.toJson = some
      { submitter := ⟨[⟨j.image, .nothing, .nothing⟩], []⟩
        cpus := entrypointCpus
        gpus := j.entrypointGpus } := by
  simp [Submission.read, toJson, Pod.readTemplate, Pod.read, Container.read, Json.field?_ofFields,
    Json.part?_ofFields, Json.lookup]

/-! ## Agreement -/

section Starting

variable {accelerator : Option String} (image : String)

/-- All pods at the start are one head and some workers that are alike. -/
theorem Demand.starting_requested (name : String) :
    (Demand.starting image accelerator).requested name =
      (Worth.head.container image none).requests.of name +
        RayCluster.workers * (Worth.worker.container image accelerator).requests.of name := by
  simp [requested, starting, Pod.requested]

/-- All pods at the start take half a processor, less than a quarter of the memory, and all there is
of the accelerator. -/
theorem Demand.starting_admitted (extended : ∀ name ∈ accelerator, IsExtended name) :
    ∀ quota ∈ (Supply.sharing accelerator).quotas,
      (Demand.starting image accelerator).requested quota.1 ≤ quota.2 := by
  simp only [Supply.sharing, List.forall_mem_cons, starting_requested, Worth.container,
    Amounts.of_table_cpu, Amounts.of_table_memory]
  refine ⟨?cpu, ?memory, ?pieces⟩
  case cpu => norm_num [Worth.head, Worth.worker, RayCluster.workers]
  case memory => norm_num [Worth.head, Worth.worker, RayCluster.workers]
  case pieces =>
    intro quota listed
    obtain ⟨name, given, rfl⟩ := List.mem_map.mp listed
    have given : accelerator = some name := Option.mem_toList.mp given
    simp [Amounts.of_table_extended (extended name given), given, RayCluster.workers]

/-- Head and workers are limited to at least what they ask for. -/
theorem Demand.starting_limited : ∀ c ∈ (Demand.starting image accelerator).containers,
    ∀ name amount, c.requests name = some amount →
      ∃ limit, c.limits name = some limit ∧ amount ≤ limit := by
  simp only [containers, starting, List.cons_append, List.nil_append, List.forall_mem_cons]
  refine ⟨fun _ _ => ?_, fun _ _ => ?_, nofun⟩
  · exact Amounts.exists_table_le (by norm_num [Worth.head]) (by norm_num [Worth.head])
  · exact Amounts.exists_table_le (by norm_num [Worth.worker]) (by norm_num [Worth.worker])

/-- No container names a resource that does not matter. -/
theorem Demand.starting_covered : ∀ c ∈ (Demand.starting image accelerator).containers, ∀ name,
    (c.requests name).isSome ∨ (c.limits name).isSome → name ∈ resourceNames accelerator := by
  simp only [containers, starting, Worth.container, List.cons_append, List.nil_append,
    List.forall_mem_cons, Amounts.table_isSome, or_self]
  refine ⟨fun name named => ?_, fun _ => id, nofun⟩
  exact List.mem_cons.mpr ((List.mem_cons.mp named).imp id fun rest => by simp_all)

variable {name : String}

/-- The worker tolerates the nodes that are kept for the accelerator, and no others. -/
theorem Demand.starting_tolerates_iff (named : accelerator ≠ some "") :
    (Demand.starting image accelerator).worker.Tolerates name ↔ accelerator = some name := by
  constructor
  · rintro ⟨t, tolerated, -, -, covers⟩
    obtain ⟨key, given, rfl⟩ := List.mem_map.mp tolerated
    have given : accelerator = some key := Option.mem_toList.mp given
    rcases covers with everything | same
    · exact absurd (everything ▸ given) named
    · exact same ▸ given
  · rintro rfl
    exact ⟨_, List.mem_singleton.mpr rfl, rfl, rfl, .inr rfl⟩

variable (extended : IsExtended name)

include extended

theorem Supply.mem_quotas_sharing_iff :
    name ∈ (Supply.sharing accelerator).quotas.map Prod.fst ↔ accelerator = some name := by
  simp [sharing, extended.1, extended.2]

/-- The worker asks for the accelerator, and for no other one. -/
theorem Demand.starting_requests_iff :
    (Demand.starting image accelerator).worker.Requests name ↔ accelerator = some name := by
  simp [starting, Pod.Requests, Worth.container, Amounts.table_isSome, resourceNames, extended.1,
    extended.2]

/-- A worker may use one piece of the accelerator, and nothing of another one. -/
theorem Demand.starting_worker_limit : (Demand.starting image accelerator).worker.limit name =
    if accelerator = some name then 1 else 0 := by
  simp [starting, Pod.limit, Worth.container, Amounts.of_table_extended extended]

end Starting

/-- The builders agree on what the workload needs, for all accelerators whose resource is neither
the processors nor the memory, and all names, images and settings. -/
theorem builders_agree {a : Accelerator} (notCpu : a.resourceLabel ≠ cpuLabel)
    (notMemory : a.resourceLabel ≠ memoryLabel) (flavor : Json) {c : RayCluster} {j : RayJob}
    (ofCluster : c.accelerator = a) (ofJob : j.accelerator = a) :
    ∃ supply demand job, Supply.read (clusterQueueSpec flavor a) = some supply ∧
      Demand.read c.toJson = some demand ∧ Submission.read j.toJson = some job ∧
      Agree a.resourceLabel supply demand job ∧
      (c.image = j.image → ∀ container ∈ demand.containers ++ job.submitter.containers,
        container.image = c.image) := by
  have extended : IsExtended a.resourceLabel := ⟨notCpu, notMemory⟩
  have shares : ∀ name ∈ share a, IsExtended name :=
    fun name given => (share_eq_some_iff.mp given).1 ▸ extended
  have named : share a ≠ some "" := fun given => (share_eq_some_iff.mp given).2 rfl
  subst ofCluster
  refine ⟨_, _, _, read_clusterQueueSpec flavor _, c.read_toJson shares, j.read_toJson, ?_, ?_⟩
  · exact
      { nodup := nodup_resourceNames_iff.mpr shares
        quotas := by simp [Supply.sharing, resourceNames, Function.comp_def]
        covered := Demand.starting_covered _
        admitted := Demand.starting_admitted _ shares
        limited := Demand.starting_limited _
        requested := (Demand.starting_requests_iff _ extended).trans share_eq_self_iff
        tolerated := (Demand.starting_tolerates_iff _ named).trans share_eq_self_iff
        shared := (Supply.mem_quotas_sharing_iff extended).trans share_eq_self_iff
        used := by simp [RayJob.entrypointGpus, ofJob, Accelerator.isGpu]
        cpus := by
          simp [Demand.starting, Pod.limit, Worth.container, RayJob.entrypointCpus, Worth.worker]
        gpus := by
          rw [Demand.starting_worker_limit _ extended]
          simp [share_eq_self_iff, RayJob.entrypointGpus, ofJob, Accelerator.isGpu] }
  · intro same
    simp [Demand.containers, Demand.starting, Worth.container, same]

/-- A Ray cluster with a graphics processor. -/
def gpuCluster : RayCluster where
  ns := "test-ns-x7k2p"
  localQueue := "lq-x7k2p"
  configMap := mnistName
  accelerator := .nvidia
  image := "quay.io/modh/ray:2.35.0-py311-cu121"

/-- A training on a graphics processor. -/
def gpuJob : RayJob where
  ns := "test-ns-x7k2p"
  rayCluster := rayClusterName
  accelerator := .nvidia
  image := gpuCluster.image
  settings := {}

/-- All of it for the graphics processors that have a label of their own. -/
theorem builders_agree_nvidia :
    (Accelerator.nvidia.resourceLabel ≠ cpuLabel ∧ Accelerator.nvidia.resourceLabel ≠ memoryLabel ∧
      gpuCluster.accelerator = .nvidia ∧ gpuJob.accelerator = .nvidia) ∧
    ∃ supply demand job, Supply.read (clusterQueueSpec "rf-x7k2p" .nvidia) = some supply ∧
      Demand.read gpuCluster.toJson = some demand ∧ Submission.read gpuJob.toJson = some job ∧
      Agree "nvidia.com/gpu" supply demand job ∧
      ∀ container ∈ demand.containers ++ job.submitter.containers,
        container.image = gpuCluster.image := by
  obtain ⟨supply, demand, job, readSupply, readDemand, readJob, agree, sameImage⟩ :=
    builders_agree (a := .nvidia) (by decide) (by decide) "rf-x7k2p" (c := gpuCluster)
      (j := gpuJob) rfl rfl
  exact ⟨⟨by decide, by decide, rfl, rfl⟩,
    supply, demand, job, readSupply, readDemand, readJob, agree, sameImage rfl⟩

end TrialRun.Workload
