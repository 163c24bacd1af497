import DockerMap.Core.ComposeEnvironment
import DockerMap.Daemon.ComposePublication
import DockerMap.Proofs.TextRedaction

/-! Environment values of a published Compose scan. A value is redacted for what it says
itself; the key it is assigned to is not part of the text that is classified. -/

namespace DockerMap

/-- The first entry, in the order of the keys, whose key is published like this one; the later
ones are dropped. -/
def firstAlike (environment : SortedMap String String) (key : String) :
    Option (String × String) :=
  environment.entries.find? fun entry =>
    redactRuntimeDisplayText entry.1 = redactRuntimeDisplayText key

/-- A value that reads as a secret by itself, or is the marker already. -/
def ReadsSecret (value : String) : Prop :=
  isSensitiveText value.toList = true ∨ value = redactedValue

theorem redact_eq_redactedValue_iff (value : String) :
    redactRuntimeDisplayText value = redactedValue ↔ ReadsSecret value := by
  have hmarker : normalizeRuntimeDisplayString redactedValue = redactedValue := by
    decide
  unfold ReadsSecret redactRuntimeDisplayText redactSensitiveText
  split_ifs with hsensitive
  · simp [hsensitive, hmarker]
  · simp only [hsensitive, Bool.false_eq_true, false_or]
    constructor
    · intro h
      have hmap : value.toList.map normalizeCharacter = redactedValue.toList := by
        rw [← h, normalizeRuntimeDisplayString, String.toList_ofList]
      exact String.toList_injective
        (masks_normalizeCharacter.eq_of_map hmap (by decide))
    · rintro rfl
      exact hmarker

theorem services_redactComposeScan (scan : ComposeScan) (i : ℕ) :
    (redactComposeScan scan).services[i]? = scan.services[i]?.map fun service =>
      (redactComposeService ((redactDisplayStrings scan.files).headD "") service).1 := by
  simp only [redactComposeScan, List.getElem?_map, Option.map_map, Function.comp_def]

/-- A key is published with the marker exactly when the first entry that is published alike has
a value that reads as a secret by itself; whether an assignment does is no part of it. -/
theorem environment_value_redacted_iff {scan : ComposeScan} {i : ℕ} {service : ComposeService}
    (hservice : scan.services[i]? = some service) (key : String) :
    ∃ published, (redactComposeScan scan).services[i]? = some published ∧
      (published.environment.get? (redactRuntimeDisplayText key) = some redactedValue ↔
        ∃ entry ∈ firstAlike service.environment key, ReadsSecret entry.2) := by
  refine ⟨_, by rw [services_redactComposeScan, hservice, Option.map_some], ?_⟩
  rw [redactComposeService, get?_redactEnvironment, ← firstAlike]
  simp only [Option.map_eq_some_iff, Option.mem_def, redact_eq_redactedValue_iff]

def oneServiceScan (declared : YamlValue) : ComposeScan where
  files := ["compose.yaml"]
  projectRoot := "/srv"
  services := [⟨"web", none, parseEnvironment (some declared), []⟩]
  mounts := []
  correlations := []
  diagnostics := []

def bearerEnvironment : SortedMap String String :=
  parseEnvironment (some (.sequence [.string "API_TOKEN=Bearer x"]))

theorem environment_value_redacted_bearer :
    ∃ published,
      (redactComposeScan
        (oneServiceScan (.sequence [.string "API_TOKEN=Bearer x"]))).services[0]? =
        some published ∧
      published.environment.get? (redactRuntimeDisplayText "API_TOKEN") = some redactedValue := by
  have hfirst : firstAlike bearerEnvironment "API_TOKEN" = some ("API_TOKEN", "Bearer x") := by
    decide
  have hservice : (oneServiceScan (.sequence [.string "API_TOKEN=Bearer x"])).services[0]? =
      some ⟨"web", none, bearerEnvironment, []⟩ := rfl
  obtain ⟨published, hpublished, hiff⟩ := environment_value_redacted_iff hservice "API_TOKEN"
  exact ⟨published, hpublished, hiff.2 ⟨_, hfirst, Or.inl (by decide)⟩⟩

/-- The password of `PASSWORD=hunter2` is published. -/
theorem environment_secret_published :
    isSensitiveText (assignmentText "PASSWORD" "hunter2").toList = true ∧
      (parseEnvironment (some (.sequence [.string "PASSWORD=hunter2"]))).get? "PASSWORD" =
        some "hunter2" ∧
      (redactComposeScan
        (oneServiceScan (.sequence [.string "PASSWORD=hunter2"]))).services.map
          (fun service => service.environment.get? "PASSWORD") = [some "hunter2"] :=
  ⟨by decide, by decide, by decide⟩

end DockerMap
