import TrialRun.Proofs.Yaml.Documents
import TrialRun.Workload.RayJob

/-!
# The runtime environment is read as it was meant

What the training needs is handed on as a text, and whoever reads it gets back what was written, for
every accelerator and all settings (`read_runtimeEnvironmentText`).
-/

set_option autoImplicit false

namespace TrialRun.Workload

open Yaml

/-- All names in the runtime environment are words, and there is something below each of its own. -/
theorem runtimeEnvironment_isReadable (a : Accelerator) (s : Settings) :
    (runtimeEnvironment a s).IsReadable := by
  have outer : ∀ name ∈ ["pip", "env_vars"], IsName name.toList := by decide
  have inner : ∀ name ∈ [Settings.mnistDatasetUrlVariable, Settings.pipIndexUrlVariable,
      Settings.pipTrustedHostVariable, "ACCELERATOR"], IsName name.toList := by decide
  exact
    { nonempty := nofun
      names := fun b inside => outer b.1 (List.mem_map_of_mem inside)
      blocks := List.forall_mem_cons.mpr ⟨nofun, List.forall_mem_singleton.mpr
        ⟨nofun, fun e inside => inner e.1 (List.mem_map_of_mem inside)⟩⟩ }

/-- The runtime environment is read as the packages and the variables: the packages for AMD are
among them for this accelerator only, and each variable has the given text, as a text. -/
theorem read_runtimeEnvironmentText (a : Accelerator) (s : Settings) :
    Reader.read (runtimeEnvironmentText a s) = some (.map
      [(.text "pip",
          .list ((pipPackages ++ if a = .amd then rocmPipPackages else []).map .text)),
        (.text "env_vars", .map
          [(.text Settings.mnistDatasetUrlVariable, .text s.mnistDatasetUrl),
            (.text Settings.pipIndexUrlVariable, .text s.pipIndexUrl),
            (.text Settings.pipTrustedHostVariable, .text s.pipTrustedHost),
            (.text "ACCELERATOR", .text a.type)])]) :=
  (runtimeEnvironment_isReadable a s).read_write

end TrialRun.Workload
