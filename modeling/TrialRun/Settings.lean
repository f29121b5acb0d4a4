import TrialRun.Accelerator
import TrialRun.Json.Basic

/-!
# Settings of a trial

The versions, images and addresses a trial works with.  Every setting has a default; settings come
from the environment, where an empty variable counts as none, or from the fields of an object, where
each field has to be a text.
-/

set_option autoImplicit false

namespace TrialRun

/-- An objection to a field of a configuration: a text was expected, or a thing of another kind. -/
inductive Objection where
  | notText
  | notInstance
  deriving DecidableEq, Repr

/-- A field of a configuration with what is wrong with it. -/
abbrev FieldObjection := String × Objection

/-- Settings of a trial. -/
structure Settings where
  rayVersion : String := "2.35.0"
  rayImage : String := "quay.io/modh/ray:2.35.0-py311-cu121"
  rayRocmImage : String := "quay.io/modh/ray:2.35.0-py311-rocm61"
  mnistDatasetUrl : String := "https://ossci-datasets.s3.amazonaws.com/mnist/"
  pipIndexUrl : String := "https://pypi.python.org/simple"
  pipTrustedHost : String := ""
  /-- Where output is written; a fresh directory if there is none or its name is empty. -/
  outputDir : Option String := none
  deriving DecidableEq, Repr

namespace Settings

/-! ## Settings from the environment -/

def rayVersionVariable : String := "CODEFLARE_TEST_RAY_VERSION"

def rayImageVariable : String := "CODEFLARE_TEST_RAY_IMAGE"

def rayRocmImageVariable : String := "CODEFLARE_TEST_RAY_ROCM_IMAGE"

def outputDirVariable : String := "CODEFLARE_TEST_OUTPUT_DIR"

/-- The variable of the dataset's address, also set for the training itself. -/
def mnistDatasetUrlVariable : String := "MNIST_DATASET_URL"

/-- The variable of the package index, also set for the training itself. -/
def pipIndexUrlVariable : String := "PIP_INDEX_URL"

/-- The variable of the host that packages are trusted from, also set for the training itself. -/
def pipTrustedHostVariable : String := "PIP_TRUSTED_HOST"

/-- The settings an environment asks for.  Unset and empty variables leave the default. -/
def ofEnvironment (lookup : String → Option String) : Settings :=
  let given := fun name => (lookup name).filter (· ≠ "")
  let defaults : Settings := {}
  { rayVersion := (given rayVersionVariable).getD defaults.rayVersion
    rayImage := (given rayImageVariable).getD defaults.rayImage
    rayRocmImage := (given rayRocmImageVariable).getD defaults.rayRocmImage
    mnistDatasetUrl := (given mnistDatasetUrlVariable).getD defaults.mnistDatasetUrl
    pipIndexUrl := (given pipIndexUrlVariable).getD defaults.pipIndexUrl
    pipTrustedHost := (given pipTrustedHostVariable).getD defaults.pipTrustedHost
    outputDir := given outputDirVariable }

/-! ## Settings from fields -/

/-- A text field of an object: the default if it is missing, an objection if it is no text. -/
def textField (config : Json) (name : String) (fallback : String) :
    Except FieldObjection String :=
  match config.field? name with
  | none => .ok fallback
  | some (.text s) => .ok s
  | some _ => .error (name, .notText)

def optionalField (config : Json) (name : String) : Except FieldObjection (Option String) :=
  match config.field? name with
  | none | some .null => .ok none
  | some (.text s) => .ok (some s)
  | some _ => .error (name, .notText)

def objections {α : Type} : List (Except FieldObjection α) → List FieldObjection :=
  List.filterMap fun r => match r with
    | .ok _ => none
    | .error e => some e

/-- The settings in the fields of an object, or all objections in the order of the fields.  Fields
of other names are ignored. -/
def ofJson (config : Json) : Except (List FieldObjection) Settings :=
  let defaults : Settings := {}
  let rayVersion := textField config "ray_version" defaults.rayVersion
  let rayImage := textField config "ray_image" defaults.rayImage
  let rayRocmImage := textField config "ray_rocm_image" defaults.rayRocmImage
  let mnistDatasetUrl := textField config "mnist_dataset_url" defaults.mnistDatasetUrl
  let pipIndexUrl := textField config "pip_index_url" defaults.pipIndexUrl
  let pipTrustedHost := textField config "pip_trusted_host" defaults.pipTrustedHost
  let outputDir := optionalField config "output_dir"
  match rayVersion, rayImage, rayRocmImage, mnistDatasetUrl, pipIndexUrl, pipTrustedHost,
      outputDir with
  | .ok version, .ok image, .ok rocm, .ok dataset, .ok index, .ok trusted, .ok output =>
    .ok ⟨version, image, rocm, dataset, index, trusted, output⟩
  | _, _, _, _, _, _, _ =>
    .error (objections [rayVersion, rayImage, rayRocmImage, mnistDatasetUrl, pipIndexUrl,
      pipTrustedHost] ++ objections [outputDir])

def toJson (s : Settings) : Json :=
  .ofFields
    [("ray_version", s.rayVersion), ("ray_image", s.rayImage), ("ray_rocm_image", s.rayRocmImage),
      ("mnist_dataset_url", s.mnistDatasetUrl), ("pip_index_url", s.pipIndexUrl),
      ("pip_trusted_host", s.pipTrustedHost),
      ("output_dir", Json.textOrNull s.outputDir)]

def rayImageFor (s : Settings) (a : Accelerator) : String :=
  if a = .amd then s.rayRocmImage else s.rayImage

end Settings

end TrialRun
