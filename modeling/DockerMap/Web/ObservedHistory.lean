import DockerMap.Api.HistoryValidation

/-! The check of the browser on the events of an observed history. -/

namespace DockerMap.Web

open Api (HistoryCursor asText digestAfter eventIdParts followsCursor hasText isNull maxSequence
  safeInteger)

def eventKeys : List String :=
  ["containerId", "currentStatus", "id", "kind", "observedAtMs", "previousStatus"]

def ownKeys : Json → List String
  | .obj fields => (fields.map Prod.fst).dedup
  | _ => []

/-- `null`, or one of the closed statuses. -/
def isStatus (value : Option Json) : Bool :=
  isNull value || (asText value).any fun status => ["running", "stopped", "other"].contains status

def isTransition (candidate : Json) : Bool :=
  let previous := candidate.field? "previousStatus"
  let current := candidate.field? "currentStatus"
  if hasText candidate "kind" "container_appeared" then isNull previous && !isNull current
  else if hasText candidate "kind" "container_disappeared" then !isNull previous && isNull current
  else
    hasText candidate "kind" "container_status_changed" && !isNull previous && !isNull current &&
      !JavaScript.strictEqual previous current

/-- The container id is read as `String(value)`. -/
def isEventRecord (candidate : Json) : Bool :=
  Api.isRecord candidate && (ownKeys candidate).length = eventKeys.length &&
    eventKeys.all (fun key => (candidate.field? key).isSome) &&
    (digestAfter "docker_container_"
      (some (.str (JavaScript.propertyText (candidate.field? "containerId"))))).isSome

def validCandidates : HistoryCursor → List Json → Bool
  | _, [] => true
  | cursor, candidate :: candidates =>
      isEventRecord candidate &&
        match eventIdParts (candidate.field? "id"), asText (candidate.field? "id"),
            safeInteger (candidate.field? "observedAtMs") with
        | some (epoch, sequence), some id, some observedAt =>
            sequence ≤ maxSequence && followsCursor cursor id observedAt epoch sequence &&
              isStatus (candidate.field? "previousStatus") &&
              isStatus (candidate.field? "currentStatus") && isTransition candidate &&
              validCandidates (cursor.next id observedAt epoch sequence) candidates
        | _, _, _ => false

def validEvents : Json → Bool
  | .arr candidates => candidates.length ≤ 64 && validCandidates {} candidates
  | _ => false

end DockerMap.Web
