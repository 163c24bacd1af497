import DockerMap.Api.ResponseValidation
import DockerMap.Proofs.Workers

/-! The public freshness of a slot, from the daemon that writes it to the browser boundary
that checks it. A slot was either never attempted since its source began, or carries the
wall time of its last attempt; a collection is retained exactly when it has succeeded. -/

namespace DockerMap

/-! One slot -/

/-- The public states a retained collection can give its slot. -/
def IsProbed (slot : ProviderSlot) (collection : ProviderCollection) : Prop :=
  collection.stateOf slot = some .fresh ∨ collection.stateOf slot = some .disabled

theorem isProbed_collectProviderSlot (slot : ProviderSlot) (reading : HostReading) :
    IsProbed slot (collectProviderSlot slot reading).sanitizedForRetention := by
  have hstate : (collectProviderSlot slot reading).sanitizedForRetention.stateOf slot =
      some (collectedState slot reading) := by
    simp [ProviderCollection.stateOf, initialProviderState]
  unfold IsProbed
  rw [hstate, collectedState]
  split_ifs
  · exact Or.inl rfl
  · exact Or.inr rfl

/-- A slot since its source began. -/
structure Unattempted (state : SlotRuntimeState) : Prop where
  observation : state.observation = .unavailable
  freshness : state.freshness = {} ∨ state.freshness = { statusReason := some .sourceReset }

def NeverSucceeded (freshness : SlotFreshness) : Prop :=
  freshness.lastSuccessMs = none ∧ freshness.lastDurationMs = none ∧
    freshness.dataRevision = none ∧ freshness.dataObservable = none

structure Succeeded (freshness : SlotFreshness) (success : ℕ) : Prop where
  lastSuccess : freshness.lastSuccessMs = some success
  bound : success ≤ Api.maxSafeInteger
  duration : ∃ duration, freshness.lastDurationMs = some duration ∧ duration ≤ success
  revision : freshness.dataRevision.isSome

/-- The successes of a slot are those of the collection it retains. -/
def MatchesRetained (slot : ProviderSlot) (state : SlotRuntimeState) : Prop :=
  match retainedCollection state.observation with
  | none => NeverSucceeded state.freshness
  | some collection => IsProbed slot collection ∧ ∃ success, Succeeded state.freshness success

/-- The last attempt is the last success. -/
def AttemptSucceeded (freshness : SlotFreshness) : Prop :=
  freshness.statusReason = none ∧ ∃ attempt success, freshness.lastAttemptMs = some attempt ∧
    freshness.lastSuccessMs = some success ∧ attempt ≤ success

def AttemptFailed (reason : ProviderStatusReason) (freshness : SlotFreshness) : Prop :=
  freshness.statusReason = some reason ∧ 0 < freshness.consecutiveFailureCount

/-- What the freshness says about the last attempt. -/
def MatchesObservation (state : SlotRuntimeState) : Prop :=
  match state.observation with
  | .unavailable => False
  | .fresh _ => AttemptSucceeded state.freshness ∧ state.freshness.consecutiveFailureCount = 0
  | .collecting _ => state.freshness.statusReason = some .refreshing
  | .degraded none => AttemptFailed .collectionFailed state.freshness
  | .degraded (some _) =>
      AttemptFailed .collectionFailed state.freshness ∨ AttemptSucceeded state.freshness
  | .timedOut _ => AttemptFailed .collectionTimedOut state.freshness

structure Attempted (slot : ProviderSlot) (state : SlotRuntimeState) (attempt : ℕ) : Prop where
  lastAttempt : state.freshness.lastAttemptMs = some attempt
  bound : attempt ≤ Api.maxSafeInteger
  failures : state.freshness.consecutiveFailureCount ≤ u32Max
  retained : MatchesRetained slot state
  observed : MatchesObservation state

def CoherentSlot (slot : ProviderSlot) (state : SlotRuntimeState) : Prop :=
  Unattempted state ∨ ∃ attempt, Attempted slot state attempt

/-! What the boundary makes of a coherent slot -/

theorem length_toPublic_pos (revision : SlotDataRevision) : 0 < revision.toPublic.length := by
  have hdash : 0 < "-".length := by decide
  simp only [SlotDataRevision.toPublic, ChangeToken.text, String.length_append]
  omega

theorem readsExactly_of_coherent {slots : RuntimeProviderSlots} {slot : ProviderSlot}
    (h : CoherentSlot slot (slots slot)) : Api.ReadsExactly (providerStateFor slots slot) := by
  have hrevision : ∀ text ∈ (providerStateFor slots slot).dataRevision, 0 < text.length := by
    intro text htext
    obtain ⟨revision, -, rfl⟩ := Option.map_eq_some_iff.1 htext
    exact length_toPublic_pos revision
  rcases h with ⟨-, hfreshness | hfreshness⟩ | ⟨attempt, h⟩
  · constructor <;> simp_all [providerStateFor]
  · constructor <;> simp_all [providerStateFor]
  · have hretained := h.retained
    unfold MatchesRetained at hretained
    split at hretained
    · obtain ⟨hsuccess, hduration, -, -⟩ := hretained
      exact ⟨by simpa [providerStateFor, h.lastAttempt] using h.bound,
        by simp [providerStateFor, hsuccess], by simp [providerStateFor, hduration],
        h.failures, hrevision⟩
    · obtain ⟨-, success, hsucceeded⟩ := hretained
      obtain ⟨duration, hduration, hle⟩ := hsucceeded.duration
      exact ⟨by simpa [providerStateFor, h.lastAttempt] using h.bound,
        by simpa [providerStateFor, hsucceeded.lastSuccess] using hsucceeded.bound,
        by simpa [providerStateFor, hduration] using hle.trans hsucceeded.bound,
        h.failures, hrevision⟩

/-- The bounds shared by all rows hold of every attempted slot. -/
theorem coherentFreshness_of_attempted {slot : ProviderSlot} {state : SlotRuntimeState}
    {attempt : ℕ} (h : Attempted slot state attempt) (kind : String) (reason : Option String) :
    Api.coherentFreshness (some kind) reason state.freshness.lastAttemptMs
        state.freshness.lastSuccessMs state.freshness.lastDurationMs
        state.freshness.consecutiveFailureCount
        (state.freshness.dataRevision.map SlotDataRevision.toPublic) =
      Api.freshnessRow (some kind) reason (some attempt) state.freshness.lastSuccessMs
        state.freshness.lastDurationMs state.freshness.consecutiveFailureCount
        (state.freshness.dataRevision.map SlotDataRevision.toPublic) := by
  have hretained := h.retained
  unfold MatchesRetained at hretained
  unfold Api.coherentFreshness
  split at hretained
  · obtain ⟨hsuccess, hduration, hrevision, -⟩ := hretained
    simp [h.lastAttempt, h.failures, hsuccess, hduration, hrevision]
  · obtain ⟨-, success, hsucceeded⟩ := hretained
    obtain ⟨duration, hduration, hle⟩ := hsucceeded.duration
    simp [h.lastAttempt, h.failures, hsucceeded.lastSuccess, hduration, hle]

/-- The row the boundary checks for a slot, whatever its attempt is called. -/
def slotRow (slot : ProviderSlot) (state : SlotRuntimeState) (attempt : ℕ) : Bool :=
  let kind := providerStateKind slot state.observation
  Api.freshnessRow (some kind.wireName)
    ((if kind = .disabled then some .disabled
      else state.freshness.statusReason).map ProviderStatusReason.wireName)
    (some attempt) state.freshness.lastSuccessMs state.freshness.lastDurationMs
    state.freshness.consecutiveFailureCount
    (state.freshness.dataRevision.map SlotDataRevision.toPublic)

theorem providerStateKind_of_disabled {slot : ProviderSlot} {observation : RuntimeProviderState}
    {collection : ProviderCollection} (h : retainedCollection observation = some collection)
    (hstate : collection.stateOf slot = some .disabled) :
    providerStateKind slot observation = .disabled := by
  unfold providerStateKind
  rw [h]
  cases observation with
  | unavailable => cases h
  | fresh => simp [hstate]
  | collecting => simp [hstate]
  | degraded => simp [hstate]
  | timedOut => simp [hstate]

theorem slotRow_of_neverSucceeded {slot : ProviderSlot} {state : SlotRuntimeState} {attempt : ℕ}
    (hretained : retainedCollection state.observation = none)
    (hnever : NeverSucceeded state.freshness) (hobserved : MatchesObservation state) :
    slotRow slot state attempt = true := by
  obtain ⟨hsuccess, hduration, hrevision, -⟩ := hnever
  unfold MatchesObservation at hobserved
  unfold slotRow providerStateKind
  rw [hretained, hsuccess, hduration, hrevision]
  cases hobs : state.observation with
  | unavailable =>
    rw [hobs] at hobserved
    exact hobserved.elim
  | fresh collection =>
    rw [hobs] at hretained
    cases hretained
  | collecting retained =>
    rw [hobs] at hobserved
    simp [hobserved, ProviderStateKind.wireName, Api.freshnessRow, ProviderStatusReason.wireName]
  | degraded retained =>
    rw [hobs] at hobserved hretained
    cases hretained
    obtain ⟨hreason, hfailures⟩ := hobserved
    simp [hreason, hfailures, ProviderStateKind.wireName, Api.freshnessRow,
      ProviderStatusReason.wireName]
  | timedOut retained =>
    rw [hobs] at hobserved
    obtain ⟨hreason, hfailures⟩ := hobserved
    simp [hreason, hfailures, ProviderStateKind.wireName, Api.freshnessRow,
      ProviderStatusReason.wireName]

theorem slotRow_of_succeeded {slot : ProviderSlot} {state : SlotRuntimeState}
    {attempt success : ℕ} {collection : ProviderCollection}
    (hattempt : state.freshness.lastAttemptMs = some attempt)
    (hretained : retainedCollection state.observation = some collection)
    (hprobed : IsProbed slot collection) (hsucceeded : Succeeded state.freshness success)
    (hobserved : MatchesObservation state) : slotRow slot state attempt = true := by
  obtain ⟨revision, hrevision⟩ := Option.isSome_iff_exists.1 hsucceeded.revision
  rcases hprobed with hstate | hstate
  · unfold MatchesObservation at hobserved
    unfold slotRow providerStateKind
    rw [hretained, hsucceeded.lastSuccess, hrevision]
    cases hobs : state.observation with
    | unavailable =>
      rw [hobs] at hobserved
      exact hobserved.elim
    | fresh collection =>
      rw [hobs] at hobserved
      obtain ⟨⟨hreason, attempt', success', hattempt', hsuccess', hle⟩, hfailures⟩ := hobserved
      rw [hattempt] at hattempt'
      rw [hsucceeded.lastSuccess] at hsuccess'
      cases hattempt'
      cases hsuccess'
      simp [hstate, hreason, hfailures, hle, Api.atMost, ProviderStateKind.wireName,
        Api.freshnessRow]
    | collecting retained =>
      rw [hobs] at hobserved
      simp [hstate, hobserved, ProviderStateKind.wireName, Api.freshnessRow,
        ProviderStatusReason.wireName]
    | degraded retained =>
      rw [hobs] at hobserved hretained
      cases hretained
      rcases hobserved with ⟨hreason, hfailures⟩ | ⟨hreason, attempt', success', hattempt',
        hsuccess', hle⟩
      · simp [hstate, hreason, hfailures, ProviderStateKind.wireName, Api.freshnessRow,
          ProviderStatusReason.wireName]
      · rw [hattempt] at hattempt'
        rw [hsucceeded.lastSuccess] at hsuccess'
        cases hattempt'
        cases hsuccess'
        simp [hstate, hreason, hle, Api.atMost, ProviderStateKind.wireName, Api.freshnessRow]
    | timedOut retained =>
      rw [hobs] at hobserved
      obtain ⟨hreason, hfailures⟩ := hobserved
      simp [hstate, hreason, hfailures, ProviderStateKind.wireName, Api.freshnessRow,
        ProviderStatusReason.wireName]
  · unfold slotRow
    rw [providerStateKind_of_disabled hretained hstate]
    rfl

theorem slotRow_of_attempted {slot : ProviderSlot} {state : SlotRuntimeState} {attempt : ℕ}
    (h : Attempted slot state attempt) : slotRow slot state attempt = true := by
  have hmatches := h.retained
  unfold MatchesRetained at hmatches
  split at hmatches
  · rename_i hretained
    exact slotRow_of_neverSucceeded hretained hmatches h.observed
  · rename_i collection hretained
    obtain ⟨hprobed, success, hsucceeded⟩ := hmatches
    exact slotRow_of_succeeded h.lastAttempt hretained hprobed hsucceeded h.observed

theorem coherentFreshness_of_coherent {slots : RuntimeProviderSlots} {slot : ProviderSlot}
    (h : CoherentSlot slot (slots slot)) :
    Api.hasCoherentFreshness (Json.encode (providerStateFor slots slot)) = true := by
  rw [Api.hasCoherentFreshness_encode (readsExactly_of_coherent h)]
  rcases h with ⟨hobservation, hfreshness | hfreshness⟩ | ⟨attempt, h⟩
  · simp only [providerStateFor, hobservation, hfreshness, providerStateKind]
    rfl
  · simp only [providerStateFor, hobservation, hfreshness, providerStateKind]
    rfl
  · simp only [providerStateFor]
    rw [coherentFreshness_of_attempted h]
    exact slotRow_of_attempted h

/-! One transition of a slot -/

theorem neverSucceeded_of_unattempted {state : SlotRuntimeState} (h : Unattempted state) :
    NeverSucceeded state.freshness := by
  unfold NeverSucceeded
  rcases h.freshness with hfreshness | hfreshness
  · simp [hfreshness]
  · simp [hfreshness]

theorem matchesRetained_of_coherent {slot : ProviderSlot} {state : SlotRuntimeState}
    (h : CoherentSlot slot state) : MatchesRetained slot state := by
  rcases h with h | ⟨attempt, h⟩
  · unfold MatchesRetained
    rw [h.observation]
    exact neverSucceeded_of_unattempted h
  · exact h.retained

theorem failures_of_coherent {slot : ProviderSlot} {state : SlotRuntimeState}
    (h : CoherentSlot slot state) : state.freshness.consecutiveFailureCount ≤ u32Max := by
  rcases h with h | ⟨attempt, h⟩
  · rcases h.freshness with hfreshness | hfreshness
    · simp [hfreshness]
    · simp [hfreshness]
  · exact h.failures

/-- What a slot retains and its successes survive every change of neither. -/
theorem MatchesRetained.congr {slot : ProviderSlot} {state state' : SlotRuntimeState}
    (h : MatchesRetained slot state)
    (hretained : retainedCollection state'.observation = retainedCollection state.observation)
    (hsuccess : state'.freshness.lastSuccessMs = state.freshness.lastSuccessMs)
    (hduration : state'.freshness.lastDurationMs = state.freshness.lastDurationMs)
    (hrevision : state'.freshness.dataRevision = state.freshness.dataRevision)
    (hobservable : state'.freshness.dataObservable = state.freshness.dataObservable) :
    MatchesRetained slot state' := by
  unfold MatchesRetained at h ⊢
  rw [hretained]
  split at h
  · unfold NeverSucceeded at h ⊢
    rw [hsuccess, hduration, hrevision, hobservable]
    exact h
  · obtain ⟨hprobed, success, hsucceeded⟩ := h
    refine ⟨hprobed, success, ?_, hsucceeded.bound, ?_, ?_⟩
    · rw [hsuccess]
      exact hsucceeded.lastSuccess
    · rw [hduration]
      exact hsucceeded.duration
    · rw [hrevision]
      exact hsucceeded.revision

theorem attempted_claimSlot {slot : ProviderSlot} {state : SlotRuntimeState} {attempt : ℕ}
    (hbound : attempt ≤ Api.maxSafeInteger) (h : CoherentSlot slot state) :
    Attempted slot (claimSlot (some attempt) state) attempt where
  lastAttempt := rfl
  bound := hbound
  failures := by
    have hfailures := failures_of_coherent h
    exact hfailures
  retained := (matchesRetained_of_coherent h).congr rfl rfl rfl rfl rfl
  observed := rfl

theorem attempted_staled {slot : ProviderSlot} {state : SlotRuntimeState} {attempt : ℕ}
    {collection : ProviderCollection} (hfresh : state.observation = .fresh collection)
    (h : Attempted slot state attempt) :
    Attempted slot { state with observation := .degraded (some collection) } attempt where
  lastAttempt := h.lastAttempt
  bound := h.bound
  failures := h.failures
  retained := h.retained.congr (by rw [hfresh]; rfl) rfl rfl rfl rfl
  observed := by
    have hobserved := h.observed
    unfold MatchesObservation at hobserved
    rw [hfresh] at hobserved
    exact Or.inr hobserved.1

theorem u32SaturatingSucc_le (n : ℕ) : u32SaturatingSucc n ≤ u32Max := min_le_right _ _

theorem u32SaturatingSucc_pos (n : ℕ) : 0 < u32SaturatingSucc n := by
  unfold u32SaturatingSucc u32Max
  omega

/-- A failed attempt keeps what the slot retains. -/
theorem attempted_failSlot {slot : ProviderSlot} {state : SlotRuntimeState} {attempt : ℕ}
    {reason : ProviderStatusReason} {observation : RuntimeProviderState} {completedAt : Option ℕ}
    (h : Attempted slot state attempt)
    (hretained : retainedCollection observation = retainedCollection state.observation)
    (hobserved : MatchesObservation (failSlot reason observation completedAt state)) :
    Attempted slot (failSlot reason observation completedAt state) attempt where
  lastAttempt := h.lastAttempt
  bound := h.bound
  failures := u32SaturatingSucc_le _
  retained := h.retained.congr hretained rfl rfl rfl rfl
  observed := hobserved

section

variable (processBoot : BootToken) (freshness : SlotFreshness) (collection : ProviderCollection)

theorem updateSlotDataRevision_lastAttemptMs :
    (updateSlotDataRevision processBoot freshness collection).lastAttemptMs =
      freshness.lastAttemptMs := by
  unfold updateSlotDataRevision
  dsimp only
  split_ifs <;> rfl

theorem isSome_updateSlotDataRevision
    (h : freshness.dataObservable.isSome → freshness.dataRevision.isSome) :
    (updateSlotDataRevision processBoot freshness collection).dataRevision.isSome := by
  unfold updateSlotDataRevision
  dsimp only
  split_ifs with hsame
  · exact h (by rw [hsame]; rfl)
  · cases freshness.dataRevision <;> rfl

end

/-- What is compared with the next collection belongs to a revision. -/
theorem MatchesRetained.isSome_dataRevision {slot : ProviderSlot} {state : SlotRuntimeState}
    (h : MatchesRetained slot state) (hobservable : state.freshness.dataObservable.isSome) :
    state.freshness.dataRevision.isSome := by
  unfold MatchesRetained at h
  split at h
  · obtain ⟨-, -, -, hnone⟩ := h
    rw [hnone] at hobservable
    cases hobservable
  · obtain ⟨-, success, hsucceeded⟩ := h
    exact hsucceeded.revision

theorem attempted_collectSlot {processBoot : BootToken} {slot : ProviderSlot}
    {state : SlotRuntimeState} {attempt completedMs completedAt : ℕ}
    {collection : ProviderCollection} (sameEvidence : Bool)
    (hprobed : IsProbed slot collection.sanitizedForRetention)
    (hforward : attempt ≤ completedMs) (hbound : completedMs ≤ Api.maxSafeInteger)
    (h : Attempted slot state attempt) :
    Attempted slot (collectSlot processBoot collection sameEvidence (some completedMs) completedAt
      state) attempt := by
  have hattempt := (updateSlotDataRevision_lastAttemptMs processBoot state.freshness
    collection.sanitizedForRetention).trans h.lastAttempt
  have hsucceeded : Succeeded (collectSlot processBoot collection sameEvidence (some completedMs)
      completedAt state).freshness completedMs := by
    refine ⟨rfl, hbound, ⟨completedMs - attempt, ?_, Nat.sub_le _ _⟩, ?_⟩
    · simp only [collectSlot, hattempt]
      rfl
    · exact isSome_updateSlotDataRevision _ _ _ h.retained.isSome_dataRevision
  have hlast : AttemptSucceeded (collectSlot processBoot collection sameEvidence
      (some completedMs) completedAt state).freshness :=
    ⟨rfl, attempt, completedMs, hattempt, rfl, hforward⟩
  refine ⟨hattempt, h.bound, Nat.zero_le _, ?_, ?_⟩
  · cases sameEvidence with
    | false => exact ⟨hprobed, completedMs, hsucceeded⟩
    | true => exact ⟨hprobed, completedMs, hsucceeded⟩
  · cases sameEvidence with
    | false => exact Or.inr hlast
    | true => exact ⟨hlast, rfl⟩

theorem attempted_applyOutcome {processBoot : BootToken} {slot : ProviderSlot}
    {state : SlotRuntimeState} {attempt completedMs completedAt readyAt : ℕ}
    {outcome : ProviderCollectionOutcome} (sameEvidence : Bool)
    (hcollects : (TaskPhase.ready outcome readyAt).CollectsFor slot)
    (hforward : attempt ≤ completedMs) (hbound : completedMs ≤ Api.maxSafeInteger)
    (h : Attempted slot state attempt) :
    Attempted slot (applyOutcome processBoot outcome sameEvidence (some completedMs) completedAt
      state) attempt := by
  have hpos := u32SaturatingSucc_pos state.freshness.consecutiveFailureCount
  cases outcome with
  | collected collection =>
    obtain ⟨reading, rfl⟩ := hcollects
    exact attempted_collectSlot sameEvidence (isProbed_collectProviderSlot slot reading) hforward
      hbound h
  | inFlight => exact attempted_failSlot h rfl ⟨rfl, hpos⟩
  | failed =>
    refine attempted_failSlot h rfl ?_
    cases hretained : retainedCollection state.observation with
    | none => exact ⟨rfl, hpos⟩
    | some collection => exact Or.inl ⟨rfl, hpos⟩
  | timedOut => exact attempted_failSlot h rfl ⟨rfl, hpos⟩

end DockerMap
