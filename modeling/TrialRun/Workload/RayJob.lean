import TrialRun.Cluster.ResourceType
import TrialRun.Settings
import TrialRun.Workload.Names
import TrialRun.Yaml.Document

/-!
# The training job

The job submits the training to a Ray cluster that is there already.  What the training needs is
handed on as a document of YAML: the packages to install and the variables to set.
-/

set_option autoImplicit false

namespace TrialRun.Workload

def runtimeEnvironment (a : Accelerator) (s : Settings) : Yaml.Document :=
  [("pip", .list (pipPackages ++ if a = .amd then rocmPipPackages else [])),
    ("env_vars", .map
      [(Settings.mnistDatasetUrlVariable, s.mnistDatasetUrl),
        (Settings.pipIndexUrlVariable, s.pipIndexUrl),
        (Settings.pipTrustedHostVariable, s.pipTrustedHost),
        ("ACCELERATOR", a.type)])]

def runtimeEnvironmentText (a : Accelerator) (s : Settings) : String :=
  (runtimeEnvironment a s).write

/-- What a training job is made from. -/
structure RayJob where
  ns : Json
  rayCluster : Json
  accelerator : Accelerator
  image : String
  settings : Settings

namespace RayJob

/-- The processors that the training itself asks for. -/
def entrypointCpus : Nat := 2

def entrypointGpus (j : RayJob) : Nat := if j.accelerator.isGpu then 1 else 0

def toJson (j : RayJob) : Json :=
  .ofFields
    [("apiVersion", ResourceType.rayJob.apiVersion), ("kind", ResourceType.rayJob.kind),
      ("metadata", .ofFields [("name", mnistName), ("namespace", j.ns)]),
      ("spec", .ofFields
        [("entrypoint", mnistEntrypoint),
          ("runtimeEnvYAML", runtimeEnvironmentText j.accelerator j.settings),
          ("clusterSelector", .ofFields [(clusterSelectorKey, j.rayCluster)]),
          ("shutdownAfterJobFinishes", .bool false),
          ("submitterPodTemplate", .ofFields
            [("spec", .ofFields
              [("restartPolicy", "Never"),
                ("containers", .list
                  [.ofFields [("image", j.image), ("name", "rayjob-submitter-pod")]])])]),
          ("entrypointNumCpus", .int entrypointCpus),
          ("entrypointNumGpus", .int j.entrypointGpus)])]

end RayJob

end TrialRun.Workload
