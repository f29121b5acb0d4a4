/-!
# Names in the workload

The names, labels and statuses that the objects of a trial, the controllers that act on them and the
checks of a trial have to agree on.
-/

set_option autoImplicit false

namespace TrialRun.Workload

/-! ## Namespaces -/

/-- How the generated names of test namespaces begin. -/
def testNamespacePrefix : String := "test-ns-"

/-- The label of every namespace that a trial creates. -/
def testNamespaceLabel : String := "codeflare.dev/e2e-test"

/-! ## Ray -/

/-- The label of the pods of a Ray cluster, with the cluster's name. -/
def rayClusterLabel : String := "ray.io/cluster"

/-- The key by which a Ray job selects the cluster it runs on. -/
def clusterSelectorKey : String := "ray.io/cluster"

/-- The state of a Ray cluster once all its pods are ready. -/
def rayClusterReady : String := "ready"

def jobPending : String := "PENDING"

def jobRunning : String := "RUNNING"

def jobStopped : String := "STOPPED"

def jobSucceeded : String := "SUCCEEDED"

def jobFailed : String := "FAILED"

/-- The statuses in which a job stays. -/
def terminalStatuses : List String := [jobFailed, jobStopped, jobSucceeded]

/-- How the name of what exposes the dashboard of a Ray cluster begins. -/
def dashboardPrefix : String := "ray-dashboard-"

def gcsPort : Nat := 6379

def dashboardPort : Nat := 8265

def clientPort : Nat := 10001

/-- The command run before a container of Ray stops. -/
def rayStopCommand : List String := ["/bin/sh", "-c", "ray stop"]

/-! ## Queues -/

/-- The label that assigns a workload to a local queue. -/
def queueNameLabel : String := "kueue.x-k8s.io/queue-name"

/-- The annotation of the local queue that workloads without a label go to. -/
def defaultQueueMark : String := "kueue.x-k8s.io/default-queue"

/-- How the generated names of resource flavors begin. -/
def resourceFlavorPrefix : String := "rf-"

/-- How the generated names of cluster queues begin. -/
def clusterQueuePrefix : String := "cq-"

/-- How the generated names of local queues begin. -/
def localQueuePrefix : String := "lq-"

/-- The phase of a wrapper once what it wraps is deployed. -/
def appWrapperRunning : String := "Running"

/-- The processors among the resources of a container. -/
def cpuLabel : String := "cpu"

/-- The memory among the resources of a container. -/
def memoryLabel : String := "memory"

/-! ## The training -/

/-- The name of the training job, its config map and the volume made from it. -/
def mnistName : String := "mnist"

def mnistScript : String := "mnist.py"

def mnistJobsPath : String := "/home/ray/jobs"

def mnistEntrypoint : String := s!"python {mnistJobsPath}/{mnistScript}"

def rayClusterName : String := "raycluster"

def workerGroupName : String := "small-group"

def pipPackages : List String :=
  ["pytorch_lightning==2.4.0", "torchmetrics==1.6.0", "torchvision==0.19.1"]

/-- The packages installed besides on GPUs of AMD. -/
def rocmPipPackages : List String :=
  ["--extra-index-url https://download.pytorch.org/whl/rocm6.1", "torch==2.4.1+rocm6.1"]

end TrialRun.Workload
