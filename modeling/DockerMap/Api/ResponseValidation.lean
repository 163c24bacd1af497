import DockerMap.Core.Wire
import DockerMap.Lib.Binary64

/-! The cross-field checks the browser boundary makes on a runtime map. A payload is a
parsed JSON value; a field that is missing is `none`, its numbers are binary64. -/

namespace DockerMap.Api

/-! Reading a parsed value -/

def isObject : Json → Bool
  | .arr _ | .obj _ => true
  | _ => false

def asText : Option Json → Option String
  | some (.str s) => some s
  | _ => none

def maxSafeInteger : ℕ := 9007199254740991

def safeInteger : Option Json → Option ℕ
  | some (.num n) =>
      if Binary64.ofNat n ≤ maxSafeInteger then some (Binary64.ofNat n) else none
  | _ => none

/-- Accepts `null` and what `read` accepts. -/
def orNull {α : Type*} (read : Option Json → Option α) : Option Json → Option (Option α)
  | some .null => some none
  | value => (read value).map some

def nonEmptyText (value : Option Json) : Option String :=
  (asText value).filter fun text => 0 < text.length

/-! The slot vector -/

def providerStateSlots : List String :=
  ["network_infrastructure", "host_scoped", "systemd", "python_processes", "native_processes",
    "project_npm", "tmux", "cron"]

def providerStates (payload : Json) : Option (List Json) :=
  match payload.field? "providerStates" with
  | some (.arr states) => some states
  | _ => none

/-- Every named slot exactly once. Slots that are no text count as one value here; a vector
with one of them is too short for the names. -/
def hasCompleteProviderStateVector (payload : Json) : Bool :=
  match providerStates payload with
  | some states =>
      let slots := (states.map fun state => asText (state.field? "slot")).dedup
      states.length = providerStateSlots.length && slots.length = providerStateSlots.length &&
        providerStateSlots.all fun slot => slots.contains (some slot)
  | none => false

/-! Freshness -/

def atMost (attempted successful : Option ℕ) : Bool :=
  attempted.any fun attempt => successful.any fun success => attempt ≤ success

/-- The rows of the truth table, one for each public state. -/
def freshnessRow (state : Option String) (reason : Option String)
    (attempted successful duration : Option ℕ) (failures : ℕ) (revision : Option String) : Bool :=
  let neverSucceeded := successful.isNone && duration.isNone && revision.isNone
  match state with
  | some "fresh" =>
      reason = none && failures = 0 && atMost attempted successful && revision.isSome
  | some "collecting" => reason = some "refreshing" && attempted.isSome && neverSucceeded
  | some "timed_out" => reason = some "collection_timed_out" && 0 < failures && attempted.isSome
  | some "disabled" => reason = some "disabled"
  | some "stale" =>
      successful.isSome && revision.isSome &&
        ((reason = some "refreshing" && attempted.isSome) ||
          (reason = some "collection_failed" && attempted.isSome && 0 < failures) ||
          (reason = none && atMost attempted successful))
  | some "unavailable" =>
      if reason = some "collection_failed" then
        attempted.isSome && neverSucceeded && 0 < failures
      else
        (reason = none || reason = some "initial" || reason = some "source_reset") &&
          attempted.isNone && neverSucceeded && failures = 0
  | _ => false

/-- The bounds that every state shares, then the row of its state. -/
def coherentFreshness (state : Option String) (reason : Option String)
    (attempted successful duration : Option ℕ) (failures : ℕ) (revision : Option String) : Bool :=
  failures ≤ u32Max && !(successful.isSome && attempted.isNone) &&
    duration.all (fun elapsed => successful.any fun success => elapsed ≤ success) &&
    successful.isNone == duration.isNone && !(revision.isSome && successful.isNone) &&
    freshnessRow state reason attempted successful duration failures revision

def hasCoherentFreshness (candidate : Json) : Bool :=
  isObject candidate &&
    match safeInteger (candidate.field? "consecutiveFailureCount"),
      orNull safeInteger (candidate.field? "lastAttemptMs"),
      orNull safeInteger (candidate.field? "lastSuccessMs"),
      orNull safeInteger (candidate.field? "lastDurationMs"),
      orNull nonEmptyText (candidate.field? "dataRevision"),
      orNull asText (candidate.field? "statusReason") with
    | some failures, some attempted, some successful, some duration, some revision,
      some reason =>
        coherentFreshness (asText (candidate.field? "state")) reason attempted successful duration
          failures revision
    -- a status reason that is neither null nor text fits no row
    | _, _, _, _, _, _ => false

def hasCoherentProviderFreshness (payload : Json) : Bool :=
  match providerStates payload with
  | some states => states.all hasCoherentFreshness
  | none => false

/-! On the encodings of the models -/

theorem safeInteger_num {n : ℕ} (h : n ≤ maxSafeInteger) : safeInteger (some (.num n)) = some n := by
  have hbound : maxSafeInteger < Binary64.exactBound := by decide
  have hexact : Binary64.ofNat n = n := Binary64.ofNat_of_lt (h.trans_lt hbound)
  rw [safeInteger, hexact, if_pos h]

theorem orNull_safeInteger {value : Option ℕ} (h : ∀ n ∈ value, n ≤ maxSafeInteger) :
    orNull safeInteger (some (Json.nullable value)) = some value := by
  cases value with
  | none => rfl
  | some n =>
    change (safeInteger (some (.num n))).map some = _
    rw [safeInteger_num (h n rfl)]
    rfl

theorem orNull_nonEmptyText {value : Option String} (h : ∀ text ∈ value, 0 < text.length) :
    orNull nonEmptyText (some (Json.nullable value)) = some value := by
  cases value with
  | none => rfl
  | some text =>
    change (nonEmptyText (some (.str text))).map some = _
    simp [nonEmptyText, asText, Option.filter, h text rfl]

theorem orNull_statusReason (value : Option ProviderStatusReason) :
    orNull asText (some (Json.nullable value)) =
      some (value.map ProviderStatusReason.wireName) := by
  cases value <;> rfl

/-- The values of a state that the boundary reads as they are. -/
structure ReadsExactly (state : ProviderState) : Prop where
  attempted : ∀ n ∈ state.lastAttemptMs, n ≤ maxSafeInteger
  successful : ∀ n ∈ state.lastSuccessMs, n ≤ maxSafeInteger
  duration : ∀ n ∈ state.lastDurationMs, n ≤ maxSafeInteger
  failures : state.consecutiveFailureCount ≤ u32Max
  revision : ∀ text ∈ state.dataRevision, 0 < text.length

theorem hasCoherentFreshness_encode {state : ProviderState} (h : ReadsExactly state) :
    hasCoherentFreshness (Json.encode state) =
      coherentFreshness (some state.state.wireName)
        (state.statusReason.map ProviderStatusReason.wireName) state.lastAttemptMs
        state.lastSuccessMs state.lastDurationMs state.consecutiveFailureCount
        state.dataRevision := by
  have hfailures : safeInteger (some (.num state.consecutiveFailureCount)) =
      some state.consecutiveFailureCount :=
    safeInteger_num (h.failures.trans (by decide))
  have hstate : asText ((Json.encode state).field? "state") = some state.state.wireName := rfl
  unfold hasCoherentFreshness
  rw [hstate, show isObject (Json.encode state) = true from rfl,
    show (Json.encode state).field? "consecutiveFailureCount" =
      some (.num state.consecutiveFailureCount) from rfl, hfailures,
    show (Json.encode state).field? "lastAttemptMs" =
      some (Json.nullable state.lastAttemptMs) from rfl, orNull_safeInteger h.attempted,
    show (Json.encode state).field? "lastSuccessMs" =
      some (Json.nullable state.lastSuccessMs) from rfl, orNull_safeInteger h.successful,
    show (Json.encode state).field? "lastDurationMs" =
      some (Json.nullable state.lastDurationMs) from rfl, orNull_safeInteger h.duration,
    show (Json.encode state).field? "dataRevision" =
      some (Json.nullable state.dataRevision) from rfl, orNull_nonEmptyText h.revision,
    show (Json.encode state).field? "statusReason" =
      some (Json.nullable state.statusReason) from rfl, orNull_statusReason]
  rfl

/-- A vector with every slot name once is complete, in any order. -/
theorem hasCompleteProviderStateVector_encode {runtimeMap : RuntimeMap}
    (h : (runtimeMap.providerStates.map fun state => state.slot.wireName).Perm
      providerStateSlots) :
    hasCompleteProviderStateVector (Json.encode runtimeMap) = true := by
  have hstates : providerStates (Json.encode runtimeMap) =
      some (runtimeMap.providerStates.map Json.encode) := rfl
  have hslots : (runtimeMap.providerStates.map Json.encode).map
        (fun state => asText (state.field? "slot")) =
      (runtimeMap.providerStates.map fun state => state.slot.wireName).map some := by
    rw [List.map_map, List.map_map]
    rfl
  have hperm := h.map some
  have hnodup := (hperm.nodup_iff).2 (by decide : (providerStateSlots.map some).Nodup)
  have hlength : runtimeMap.providerStates.length = providerStateSlots.length := by
    simpa using h.length_eq
  simp only [hasCompleteProviderStateVector, hstates, hslots, hnodup.dedup, List.length_map,
    hlength, decide_true, Bool.true_and, List.all_eq_true, List.contains_iff_mem]
  intro slot hslot
  exact hperm.mem_iff.2 (List.mem_map_of_mem hslot)

theorem hasCoherentProviderFreshness_encode (runtimeMap : RuntimeMap) :
    hasCoherentProviderFreshness (Json.encode runtimeMap) =
      runtimeMap.providerStates.all fun state => hasCoherentFreshness (Json.encode state) := by
  have hstates : providerStates (Json.encode runtimeMap) =
      some (runtimeMap.providerStates.map Json.encode) := rfl
  rw [hasCoherentProviderFreshness, hstates]
  simp only [List.all_map, Function.comp_def]

end DockerMap.Api
