/-!
# Accelerators

What a training runs on.  The type is passed to the training script; the resource label names the
accelerator among the resources of a container and is empty when there is none to ask for.
-/

set_option autoImplicit false

namespace TrialRun

/-- An accelerator of the training workload. -/
structure Accelerator where
  type : String
  resourceLabel : String := ""
  deriving DecidableEq, Repr

namespace Accelerator

/-- Whether there is a resource to ask for. -/
def isGpu (a : Accelerator) : Bool := a.resourceLabel ≠ ""

def cpu : Accelerator := ⟨"cpu", ""⟩

def nvidia : Accelerator := ⟨"gpu", "nvidia.com/gpu"⟩

def amd : Accelerator := ⟨"gpu", "amd.com/gpu"⟩

end Accelerator

end TrialRun
