import TrialRun.Cluster.Model
import TrialRun.Proofs.Json.Objects
import TrialRun.Proofs.Text.Base64

/-!
# The training script in its config map

The bytes of the script go into a config map as a text, and whoever reads the text gets them back,
whatever bytes they are (`mnistConfigMap_keepsScript`).  What is sent of a config map tells the
script as well, so that two scripts are never sent alike.
-/

set_option autoImplicit false

namespace TrialRun.Cluster

open Text

/-- A field of an object of the fields that are not null is there unless it is null. -/
theorem field?_presentFields {fields : List (String × Json)} (nodup : (fields.map Prod.fst).Nodup)
    {name : String} {value : Json} (found : Json.lookup name fields = some value)
    (given : value ≠ .null) : (presentFields fields).field? name = some value := by
  rw [presentFields, Json.field?_ofFields (nodup.sublist (List.filter_sublist.map _))]
  induction fields with
  | nil => cases found
  | cons f rest ih =>
    obtain ⟨other, held⟩ := f
    rw [Json.lookup] at found
    split at found
    next same =>
      obtain rfl := Option.some.inj found
      cases held <;> first | exact absurd rfl given | exact if_pos same
    next different =>
      have later := ih (List.nodup_cons.mp nodup).2 found
      cases held <;> first | exact later | exact (if_neg different).trans later

variable {ns : Json} {script : List UInt8} {c : ConfigMap}

/-- A script that is there goes into a config map. -/
theorem exists_mnistConfigMap (ns : Json) (given : script ≠ []) :
    ∃ c, mnistConfigMap ns script = .ok c := by
  rw [mnistConfigMap, if_neg (mt List.isEmpty_iff.mp given)]
  exact ⟨_, rfl⟩

/-- The config map holds the script in Base64, and nothing else. -/
theorem binaryData_mnistConfigMap (made : mnistConfigMap ns script = .ok c) :
    c.binaryData = some [(Workload.mnistScript, String.ofList (Base64.encode script))] := by
  rw [mnistConfigMap] at made
  split at made
  · cases made
  · cases made
    rfl

/-- What is sent of the config map holds the script too. -/
theorem field?_toJson_mnistConfigMap (made : mnistConfigMap ns script = .ok c) :
    c.toJson.field? "binaryData" =
      some (.ofFields [(Workload.mnistScript, .text (String.ofList (Base64.encode script)))]) := by
  rw [ConfigMap.toJson]
  refine field?_presentFields (by simp) ?_ nofun
  rw [binaryData_mnistConfigMap made]
  rfl

/-- **The script survives.**  Only an empty script is refused.  Any other one is held as the only
data of its config map, under the file name of the script, as a text in Base64 that stands for
exactly its bytes.  Scripts whose config maps are sent alike are the same. -/
theorem mnistConfigMap_keepsScript (ns : Json) (script : List UInt8) :
    ((∃ f, mnistConfigMap ns script = .error f ∧ f.kind = .badValue) ↔ script = []) ∧
      (script ≠ [] → ∃ c text, mnistConfigMap ns script = .ok c ∧
        c.binaryData = some [(Workload.mnistScript, text)] ∧
        text.length % 4 = 0 ∧
        (∃ chars filling, text.toList = chars ++ List.replicate filling '=' ∧ filling ≤ 2 ∧
          ∀ ch ∈ chars, ch ∈ Base64.alphabet) ∧
        Base64.decode? text.toList = some script) ∧
      ∀ other c c', mnistConfigMap ns script = .ok c → mnistConfigMap ns other = .ok c' →
        c.toJson = c'.toJson → script = other := by
  refine ⟨⟨?_, ?_⟩, fun given => ?_, fun other c c' made made' alike => ?_⟩
  · rintro ⟨f, refused, -⟩
    cases script with
    | nil => rfl
    | cons b rest => cases refused
  · rintro rfl
    exact ⟨_, rfl, rfl⟩
  · obtain ⟨c, made⟩ := exists_mnistConfigMap ns given
    refine ⟨c, _, made, binaryData_mnistConfigMap made, ?_⟩
    rw [String.length_ofList, String.toList_ofList]
    exact ⟨Base64.length_encode_mod script, Base64.exists_encode_eq script,
      Base64.decode?_encode script⟩
  · have sent := field?_toJson_mnistConfigMap made
    rw [alike, field?_toJson_mnistConfigMap made'] at sent
    have written : String.ofList (Base64.encode other) = String.ofList (Base64.encode script) := by
      simpa [Json.ofFields, Json.insertField] using sent
    have read := congrArg (Base64.decode? ·.toList) written
    simp only [String.toList_ofList, Base64.decode?_encode] at read
    exact (Option.some.inj read).symm

/-- Bytes that are no text are kept as well: four of them, so that the last group is filled up. -/
theorem mnistConfigMap_keepsScript_binary :
    let script : List UInt8 := [0xff, 0x00, 0x61, 0xfe]
    script ≠ [] ∧
      ∃ c, mnistConfigMap "ns" script = .ok c ∧
        c.binaryData = some [("mnist.py", "/wBh/g==")] ∧
        Base64.decode? "/wBh/g==".toList = some script ∧
        ∀ other c', mnistConfigMap "ns" other = .ok c' → c.toJson = c'.toJson → script = other := by
  intro script
  obtain ⟨-, kept, told⟩ := mnistConfigMap_keepsScript "ns" script
  obtain ⟨c, text, made, data, -, -, read⟩ := kept (by decide)
  have written : c.binaryData = some [("mnist.py", "/wBh/g==")] := binaryData_mnistConfigMap made
  obtain rfl : text = "/wBh/g==" := by
    rw [data] at written
    simpa [Workload.mnistScript] using written
  exact ⟨by decide, c, made, written, read, fun other c' made' => told other c c' made made'⟩

end TrialRun.Cluster
