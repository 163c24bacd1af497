import DockerMap.Core.ComposeRuntimeBinding
import DockerMap.Core.Models

/-! What a Rust reader of the observed history accepts: the checks that follow the parsing of
an event and of a response. -/

namespace DockerMap

/-- `[0-9a-f]{32}-[1-9][0-9]*` with a sequence below the bound of its type. -/
def isObservedEventId (value : List Char) : Bool :=
  match Text.splitOnce '-' value with
  | none => false
  | some (boot, sequence) =>
      boot.length == 32 && boot.all isLowerHex && !sequence.isEmpty &&
        !Text.startsWith sequence ['0'] && sequence.all Char.isDigit &&
        (Text.parseUnsigned (2 ^ 64) sequence).isSome

def isObservedContainerId (value : List Char) : Bool :=
  let word := "docker_container_".toList
  Text.startsWith value word && (value.drop word.length).length == 64 &&
    (value.drop word.length).all isLowerHex

/-- The statuses fit the kind of the change. -/
def ObservedChangeEvent.coherentTransition (wire : ObservedChangeEvent) : Bool :=
  match wire.kind with
  | .containerAppeared => wire.previousStatus.isNone && wire.currentStatus.isSome
  | .containerDisappeared => wire.previousStatus.isSome && wire.currentStatus.isNone
  | .containerStatusChanged =>
      wire.previousStatus.isSome && wire.currentStatus.isSome &&
        wire.previousStatus ≠ wire.currentStatus

def ObservedChangeEvent.tryFrom (wire : ObservedChangeEvent) :
    Except String ObservedChangeEvent :=
  if !isObservedEventId wire.id.toList then
    .error "observed event ID must be an opaque boot token and sequence"
  else if !isObservedContainerId wire.containerId.toList then
    .error "observed container ID must be an opaque SHA-256 identity"
  else if !wire.coherentTransition then
    .error "observed event statuses do not match its closed change kind"
  else .ok wire

def observedEventIdParts (value : List Char) : Option (List Char × ℕ) :=
  if isObservedEventId value then
    (Text.splitOnce '-' value).bind fun (boot, sequence) =>
      (Text.parseUnsigned (2 ^ 64) sequence).map fun number => (boot, number)
  else none

/-- The event before the next one: its time, its epoch and its sequence. -/
abbrev PreviousEvent := ℕ × List Char × ℕ

/-- Newest first, from one epoch, no id twice. -/
def checkEvents : Option PreviousEvent → List String → List ObservedChangeEvent → Except String Unit
  | _, _, [] => .ok ()
  | previous, ids, event :: events =>
      match observedEventIdParts event.id.toList with
      | none => .error "observed event ID is not structurally valid"
      | some (boot, sequence) =>
          if ids.contains event.id then .error "observed event IDs must be unique"
          else if previous.any (fun (previousAt, previousBoot, previousSequence) =>
              previousAt < event.observedAtMs || boot ≠ previousBoot ||
                previousSequence ≤ sequence) then
            .error "observed events must be newest-first from one daemon epoch"
          else checkEvents (some (event.observedAtMs, boot, sequence)) (event.id :: ids) events

namespace ObservedChangeHistoryResponse

variable (wire : ObservedChangeHistoryResponse)

def revisionsPresent : Bool :=
  [wire.currentModelRevision, wire.observedRevision].all fun revision =>
    revision.any fun value => value ≠ "" && Text.byteLength value.toList ≤ 64

def sourceCoherent : Bool :=
  match wire.source with
  | .mock =>
      !wire.baselineEstablished && wire.currentModelRevision.isNone &&
        wire.observedRevision.isNone && wire.events.isEmpty
  | .docker => wire.baselineEstablished && wire.revisionsPresent

def tryFrom : Except String ObservedChangeHistoryResponse :=
  if !wire.sourceCoherent then
    .error "observed history source, baseline, revisions, and events are incoherent"
  else if 64 < wire.events.length then .error "observed history exceeds its fixed event cap"
  else (checkEvents none [] wire.events).map fun _ => wire

/-- The events are checked as they are parsed, the response after them. -/
def deserialize : Except String ObservedChangeHistoryResponse := do
  let events ← wire.events.mapM ObservedChangeEvent.tryFrom
  tryFrom { wire with events := events }

end ObservedChangeHistoryResponse

end DockerMap
