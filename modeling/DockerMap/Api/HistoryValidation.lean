import DockerMap.Api.FindingsValidation

/-! The check of the Node boundary on an observed history response. -/

namespace DockerMap.Api

open JavaScript (asNumber strictEqual)

/-- `^([0-9a-f]{32})-([1-9][0-9]{0,19})$`: the epoch and the sequence. -/
def eventIdParts (value : Option Json) : Option (List Char × ℕ) :=
  (asText value).bind fun text =>
    let epoch := text.toList.take 32
    match text.toList.drop 32 with
    | '-' :: first :: rest =>
        if epoch.length == 32 && epoch.all isLowerHex && first.isDigit && first ≠ '0' &&
            rest.all Char.isDigit && rest.length ≤ 19 then
          some (epoch, Nat.ofDigitChars 10 (first :: rest) 0)
        else none
    | _ => none

def maxSequence : ℕ := 18446744073709551615

/-- `typeof value === "object"` at what is no array. -/
def isRecord : Json → Bool
  | .obj _ => true
  | _ => false

def isText (value : Option Json) : Bool := (asText value).isSome

def isNull : Option Json → Bool
  | some .null => true
  | _ => false

/-- What the checks of one event leave for the next one. -/
structure HistoryCursor where
  ids : List String := []
  priorObservedAt : Option ℕ := none
  epoch : Option (List Char) := none
  priorSequence : Option ℕ := none

def hasCoherentStatuses (event : Json) : Bool :=
  let previous := event.field? "previousStatus"
  let current := event.field? "currentStatus"
  if hasText event "kind" "container_appeared" then isNull previous && isText current
  else if hasText event "kind" "container_disappeared" then isText previous && isNull current
  else
    hasText event "kind" "container_status_changed" && isText previous && isText current &&
      !strictEqual previous current

/-- The event follows the ones before it, newest first. -/
def followsCursor (cursor : HistoryCursor) (id : String) (observedAt : ℕ) (epoch : List Char)
    (sequence : ℕ) : Bool :=
  !cursor.ids.contains id && cursor.priorObservedAt.all (fun prior => observedAt ≤ prior) &&
    cursor.epoch.all (fun known => epoch == known) &&
    cursor.priorSequence.all fun prior => sequence < prior

def HistoryCursor.next (cursor : HistoryCursor) (id : String) (observedAt : ℕ)
    (epoch : List Char) (sequence : ℕ) : HistoryCursor where
  ids := id :: cursor.ids
  priorObservedAt := some observedAt
  epoch := some epoch
  priorSequence := some sequence

def hasCoherentEvents : HistoryCursor → List Json → Bool
  | _, [] => true
  | cursor, event :: events =>
      isRecord event &&
        (digestAfter "docker_container_" (event.field? "containerId")).isSome &&
        match eventIdParts (event.field? "id"), asText (event.field? "id"),
            asNumber (event.field? "observedAtMs") with
        | some (epoch, sequence), some id, some observedAt =>
            sequence ≤ maxSequence && followsCursor cursor id observedAt epoch sequence &&
              hasCoherentStatuses event &&
              hasCoherentEvents (cursor.next id observedAt epoch sequence) events
        | _, _, _ => false

def isNonEmptyText (value : Option Json) : Bool := (asText value).any fun text => text ≠ ""

def hasCoherentObservedHistory (payload : Json) : Bool :=
  isRecord payload &&
    match payload.field? "events", payload.field? "baselineEstablished" with
    | some (.arr events), some (.bool baselineEstablished) =>
        -- mock bytes may never inherit a Docker baseline, revisions or deltas
        if hasText payload "source" "mock" then
          isNull (payload.field? "currentModelRevision") && !baselineEstablished &&
            isNull (payload.field? "observedRevision") && events.isEmpty
        else
          hasText payload "source" "docker" && baselineEstablished &&
            isNonEmptyText (payload.field? "currentModelRevision") &&
            isNonEmptyText (payload.field? "observedRevision") && hasCoherentEvents {} events
    | _, _ => false

end DockerMap.Api
