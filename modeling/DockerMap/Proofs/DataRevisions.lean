import DockerMap.Proofs.ProviderFreshness

/-! The data revision of a slot. Inside one source generation it is a change token over the
sanitized collection; a source reset drops the token, and the next one starts again from
the boot component of the process. -/

namespace DockerMap

open Runs

/-! The token of a slot -/

/-- The revision and the compared observable as one token of this process. -/
def slotToken (processBoot : BootToken) (freshness : SlotFreshness) : ChangeToken String where
  boot := processBoot.text
  sequence := (freshness.dataRevision.map SlotDataRevision.sequence).getD 0
  last := freshness.dataObservable

theorem slotToken_update (processBoot : BootToken) (freshness : SlotFreshness)
    (collection : ProviderCollection) :
    slotToken processBoot (updateSlotDataRevision processBoot freshness collection) =
      (slotToken processBoot freshness).assign collection.sanitizedObservableIdentity := by
  by_cases hsame : freshness.dataObservable = some collection.sanitizedObservableIdentity
  · rw [ChangeToken.assign_of_last hsame]
    simp only [updateSlotDataRevision, if_pos hsame]
  · have hlast : (slotToken processBoot freshness).last ≠
        some collection.sanitizedObservableIdentity := hsame
    simp only [updateSlotDataRevision, if_neg hsame, ChangeToken.assign, if_neg hlast]
    simp only [slotToken]
    cases freshness.dataRevision <;> rfl

/-- A revision is of this process and identifies the retained collection. -/
structure IdentifiesRetained (processBoot : BootToken) (state : SlotRuntimeState) : Prop where
  observable : state.freshness.dataObservable =
    (retainedCollection state.observation).map ProviderCollection.sanitizedObservableIdentity
  boot : ∀ revision, state.freshness.dataRevision = some revision →
    revision.boot = processBoot.text
  isSome : state.freshness.dataObservable.isSome = state.freshness.dataRevision.isSome

theorem identifiesRetained_unavailable (processBoot : BootToken)
    (reason : Option ProviderStatusReason) :
    IdentifiesRetained processBoot { freshness := { statusReason := reason } } where
  observable := rfl
  boot _ h := by cases h
  isSome := rfl

/-- A change of anything but the retained collection, its revision and its observable. -/
theorem IdentifiesRetained.congr {processBoot : BootToken} {state state' : SlotRuntimeState}
    (h : IdentifiesRetained processBoot state)
    (hretained : retainedCollection state'.observation = retainedCollection state.observation)
    (hrevision : state'.freshness.dataRevision = state.freshness.dataRevision)
    (hobservable : state'.freshness.dataObservable = state.freshness.dataObservable) :
    IdentifiesRetained processBoot state' where
  observable := by
    rw [hretained, hobservable]
    exact h.observable
  boot := by
    rw [hrevision]
    exact h.boot
  isSome := by
    rw [hrevision, hobservable]
    exact h.isSome

theorem identifiesRetained_collectSlot {processBoot : BootToken} {state : SlotRuntimeState}
    (h : IdentifiesRetained processBoot state) (collection : ProviderCollection)
    (sameEvidence : Bool) (completedMs : Option ℕ) (completedAt : ℕ) :
    IdentifiesRetained processBoot
      (collectSlot processBoot collection sameEvidence completedMs completedAt state) := by
  have hobservable : (updateSlotDataRevision processBoot state.freshness
      collection.sanitizedForRetention).dataObservable =
        some collection.sanitizedForRetention.sanitizedObservableIdentity := by
    unfold updateSlotDataRevision
    dsimp only
    split_ifs with hsame
    · exact hsame
    · rfl
  refine ⟨?_, ?_, ?_⟩
  · cases sameEvidence <;> exact hobservable
  · intro revision hrevision
    simp only [collectSlot, updateSlotDataRevision] at hrevision
    split_ifs at hrevision with hsame
    · exact h.boot revision hrevision
    · cases hbefore : state.freshness.dataRevision with
      | none =>
        simp only [hbefore, Option.some.injEq] at hrevision
        rw [← hrevision]
        rfl
      | some before =>
        simp only [hbefore, Option.some.injEq] at hrevision
        rw [← hrevision]
        exact h.boot before hbefore
  · have hsome : (updateSlotDataRevision processBoot state.freshness
        collection.sanitizedForRetention).dataRevision.isSome = true :=
      isSome_updateSlotDataRevision _ _ _ fun hbefore => h.isSome ▸ hbefore
    change Option.isSome (updateSlotDataRevision _ _ _).dataObservable =
      Option.isSome (updateSlotDataRevision _ _ _).dataRevision
    rw [hobservable, hsome]
    rfl

/-! Collections applied to a slot -/

/-- The sanitized collection an event applies to a slot. -/
def AppState.collection (s : AppState) (e : Event) (slot : ProviderSlot) :
    Option ProviderCollection :=
  match s.application e with
  | some ⟨applied, .collected collection, _⟩ =>
      if applied = slot then some collection.sanitizedForRetention else none
  | _ => none

/-- A slot's token and what it retains after a step of the same source. -/
inductive DataStep (processBoot : BootToken) (collected : Option ProviderCollection)
    (state state' : SlotRuntimeState) : Prop
  | kept : retainedCollection state'.observation = retainedCollection state.observation →
      state'.freshness.dataRevision = state.freshness.dataRevision →
      state'.freshness.dataObservable = state.freshness.dataObservable → collected = none →
      DataStep processBoot collected state state'
  | collected {collection : ProviderCollection} (sameEvidence : Bool) (completedMs : Option ℕ)
      (completedAt : ℕ) : collected = some collection.sanitizedForRetention →
      state' = collectSlot processBoot collection sameEvidence completedMs completedAt state →
      DataStep processBoot collected state state'

theorem dataStep_applyOutcome {processBoot : BootToken} {state : SlotRuntimeState}
    (outcome : ProviderCollectionOutcome) (sameEvidence : Bool) (completedMs : Option ℕ)
    (completedAt : ℕ) :
    DataStep processBoot
      (match outcome with
        | .collected collection => some collection.sanitizedForRetention
        | _ => none)
      state (applyOutcome processBoot outcome sameEvidence completedMs completedAt state) := by
  cases outcome with
  | collected collection => exact .collected sameEvidence completedMs completedAt rfl rfl
  | inFlight => exact .kept rfl rfl rfl rfl
  | failed => exact .kept rfl rfl rfl rfl
  | timedOut => exact .kept rfl rfl rfl rfl

section

variable {processBoot : BootToken} {s s' : AppState} {e : Event} {slot : ProviderSlot}

theorem collection_of_application {a : Application} (happ : s.application e = some a) :
    s.collection e a.slot =
      match a.outcome with
      | .collected collection => some collection.sanitizedForRetention
      | _ => none := by
  obtain ⟨slot, outcome, completedAt⟩ := a
  unfold AppState.collection
  rw [happ]
  cases outcome with
  | collected collection => exact if_pos rfl
  | inFlight => rfl
  | failed => rfl
  | timedOut => rfl

theorem collection_eq_none (h : ∀ a, s.application e = some a → a.slot ≠ slot) :
    s.collection e slot = none := by
  unfold AppState.collection
  split
  · rename_i applied collection completedAt happ
    exact if_neg (h _ happ)
  · rfl

theorem dataStep (slot : ProviderSlot) (h : step processBoot s e = some s') (hsame : SameSource processBoot s e s') :
    DataStep processBoot (s.collection e slot) (s.cache.runtimeProviders slot)
      (s'.cache.runtimeProviders slot) := by
  by_cases happlied : ∃ a, s.application e = some a ∧ a.slot = slot
  · obtain ⟨a, happ, rfl⟩ := happlied
    obtain ⟨sameEvidence, hslot⟩ := applyOutcome_of_application h happ
    rw [hslot, collection_of_application happ]
    exact dataStep_applyOutcome ..
  · have hnone : s.collection e slot = none :=
      collection_eq_none fun a happ hslot => happlied ⟨a, happ, hslot⟩
    have hslot := hsame.slots slot
    generalize s'.cache.runtimeProviders slot = new at hslot ⊢
    cases hslot with
    | kept => exact .kept rfl rfl rfl hnone
    | staled hfresh => exact .kept (by rw [hfresh]; rfl) rfl rfl hnone
    | claimed hclaims => exact .kept rfl rfl rfl hnone
    | @applied a sameEvidence happ hslot => exact absurd ⟨a, happ, hslot⟩ happlied

/-! One step -/

theorem DataStep.identifiesRetained {collected : Option ProviderCollection}
    {state state' : SlotRuntimeState} (h : DataStep processBoot collected state state')
    (hinv : IdentifiesRetained processBoot state) : IdentifiesRetained processBoot state' := by
  cases h with
  | kept hretained hrevision hobservable _ => exact hinv.congr hretained hrevision hobservable
  | collected sameEvidence completedMs completedAt _ hslot =>
    rw [hslot]
    exact identifiesRetained_collectSlot hinv ..

theorem DataStep.token {collected : Option ProviderCollection} {state state' : SlotRuntimeState}
    (h : DataStep processBoot collected state state') :
    slotToken processBoot state'.freshness =
      collected.elim (slotToken processBoot state.freshness) fun collection =>
        (slotToken processBoot state.freshness).assign
          collection.sanitizedObservableIdentity := by
  cases h with
  | kept _ hrevision hobservable hcollected =>
    subst hcollected
    simp only [slotToken, hrevision, hobservable, Option.elim]
  | collected sameEvidence completedMs completedAt hcollected hslot =>
    subst hcollected hslot
    exact slotToken_update ..

theorem DataStep.extends {collected : Option ProviderCollection} {state state' : SlotRuntimeState}
    (h : DataStep processBoot collected state state') :
    (slotToken processBoot state.freshness).Extends (slotToken processBoot state'.freshness) := by
  rw [h.token]
  cases collected with
  | none => exact .refl _
  | some collection => exact ChangeToken.extends_assign ..

theorem identifiesRetained_step (h : step processBoot s e = some s')
    (hinv : ∀ slot, IdentifiesRetained processBoot (s.cache.runtimeProviders slot)) :
    ∀ slot, IdentifiesRetained processBoot (s'.cache.runtimeProviders slot) := by
  intro slot
  rcases step_source h with hsame | hflip
  · exact (dataStep slot h hsame).identifiesRetained (hinv slot)
  · rw [hflip.slots]
    exact identifiesRetained_unavailable ..

end

/-! Runs inside one generation -/

section

variable {processBoot : BootToken} {ok : AppState → Event → Prop} {boots : CacheBoots} {now : ℕ}
  {es : List Event} {s s' : AppState}

theorem identifiesRetained_run (h : Steps (step processBoot) ok s es s')
    (hinv : ∀ slot, IdentifiesRetained processBoot (s.cache.runtimeProviders slot)) :
    ∀ slot, IdentifiesRetained processBoot (s'.cache.runtimeProviders slot) :=
  h.invariant (I := fun s => ∀ slot, IdentifiesRetained processBoot (s.cache.runtimeProviders slot))
    (fun _ _ _ _ hstep hs => identifiesRetained_step hstep hs) hinv

theorem generation_le_run (h : Steps (step processBoot) ok s es s') :
    s.cache.sourceGeneration ≤ s'.cache.sourceGeneration :=
  h.monotone (f := fun s => s.cache.sourceGeneration) fun _ _ _ => generation_le

/-- While the generation stays, every step keeps the source. -/
theorem sameSource_of_generation {e : Event} {mid : AppState}
    (hrun : Steps (step processBoot) ok s es mid) (hstep : step processBoot mid e = some s')
    (hgeneration : s'.cache.sourceGeneration = s.cache.sourceGeneration) :
    SameSource processBoot mid e s' ∧ mid.cache.sourceGeneration = s.cache.sourceGeneration := by
  have hlow := generation_le_run hrun
  rcases step_source hstep with hsame | hflip
  · exact ⟨hsame, hsame.generation ▸ hgeneration⟩
  · have := hflip.generation
    omega

theorem extends_token (slot : ProviderSlot) (h : Steps (step processBoot) ok s es s')
    (hgeneration : s'.cache.sourceGeneration = s.cache.sourceGeneration) :
    (slotToken processBoot (s.cache.runtimeProviders slot).freshness).Extends
      (slotToken processBoot (s'.cache.runtimeProviders slot).freshness) := by
  induction h with
  | nil => exact .refl _
  | snoc hrun _ hstep ih =>
    obtain ⟨hsame, hmid⟩ := sameSource_of_generation hrun hstep hgeneration
    exact (ih hmid).trans (dataStep slot hstep hsame).extends

/-- With no collection applied in between, the token stays as it is. -/
theorem token_eq_of_no_collection {slot : ProviderSlot}
    (h : Steps (step processBoot) (fun s e => s.collection e slot = none) s es s')
    (hgeneration : s'.cache.sourceGeneration = s.cache.sourceGeneration) :
    slotToken processBoot (s'.cache.runtimeProviders slot).freshness =
      slotToken processBoot (s.cache.runtimeProviders slot).freshness := by
  induction h with
  | nil => rfl
  | snoc hrun hnone hstep ih =>
    obtain ⟨hsame, hmid⟩ := sameSource_of_generation hrun hstep hgeneration
    rw [(dataStep slot hstep hsame).token, hnone]
    exact ih hmid

end

/-! Published revisions -/

/-- The state of a slot in the vector a cache publishes. -/
def Publishes (cache : DaemonCache) (state : ProviderState) : Prop :=
  state ∈ (getRuntimeMap cache).providerStates

theorem eq_of_publishes {processBoot : BootToken} {ok : AppState → Event → Prop}
    {boots : CacheBoots} {now : ℕ} {es : List Event} {s : AppState} {state : ProviderState}
    (h : Steps (step processBoot) ok (AppState.new processBoot boots now) es s)
    (hstate : Publishes s.cache state) :
    state = providerStateFor s.cache.runtimeProviders state.slot := by
  have hstates := providerStates_eq h
  unfold Publishes at hstate
  change state ∈ s.cache.runtimeMap.providerStates at hstate
  rw [hstates] at hstate
  obtain ⟨slot, -, rfl⟩ := List.mem_map.1 hstate
  rfl

theorem current_of_dataRevision {processBoot : BootToken} {slots : RuntimeProviderSlots}
    {slot : ProviderSlot} {revision : String} (h : IdentifiesRetained processBoot (slots slot))
    (hrevision : (providerStateFor slots slot).dataRevision = some revision) :
    (slotToken processBoot (slots slot).freshness).current = revision ∧
      (slots slot).freshness.dataRevision.isSome := by
  obtain ⟨r, hr, rfl⟩ := Option.map_eq_some_iff.1 hrevision
  refine ⟨?_, by rw [hr]; rfl⟩
  simp only [ChangeToken.current, slotToken, hr, SlotDataRevision.toPublic, h.boot r hr]
  rfl

/-! Collections of one slot in several generations -/

/-- The condition on a run: no slot is collected successfully in more than one of its
source generations. -/
def CollectsInOneGeneration (processBoot : BootToken) (s : AppState) (es : List Event) : Prop :=
  ∀ slot before e after sᵢ before' e' after' sⱼ,
    es = before ++ e :: after → Steps (step processBoot) anyStep s before sᵢ →
      es = before' ++ e' :: after' → Steps (step processBoot) anyStep s before' sⱼ →
        (sᵢ.collection e slot).isSome → (sⱼ.collection e' slot).isSome →
          sᵢ.cache.sourceGeneration = sⱼ.cache.sourceGeneration

/-- A collection of the slot was applied in the generation of the run's last state. -/
def CollectedIn (processBoot : BootToken) (s : AppState) (es : List Event) (slot : ProviderSlot)
    (generation : ℕ) : Prop :=
  ∃ before e after sᵢ, es = before ++ e :: after ∧ Steps (step processBoot) anyStep s before sᵢ ∧
    (sᵢ.collection e slot).isSome ∧ sᵢ.cache.sourceGeneration = generation

theorem CollectedIn.append {processBoot : BootToken} {s : AppState} {es : List Event}
    {slot : ProviderSlot} {generation : ℕ} (h : CollectedIn processBoot s es slot generation)
    (es' : List Event) : CollectedIn processBoot s (es ++ es') slot generation := by
  obtain ⟨before, e, after, sᵢ, rfl, hrun, hcollects, hgeneration⟩ := h
  exact ⟨before, e, after ++ es', sᵢ, by simp, hrun, hcollects, hgeneration⟩

theorem collectedIn_of_dataRevision {processBoot : BootToken} {ok : AppState → Event → Prop}
    {boots : CacheBoots} {now : ℕ} {es : List Event} {s : AppState} {slot : ProviderSlot}
    (h : Steps (step processBoot) ok (AppState.new processBoot boots now) es s)
    (hrevision : (s.cache.runtimeProviders slot).freshness.dataRevision.isSome) :
    CollectedIn processBoot (AppState.new processBoot boots now) es slot
      s.cache.sourceGeneration := by
  induction h with
  | nil => cases hrevision
  | @snoc mid last es e hrun _ hstep ih =>
    rcases step_source hstep with hsame | hflip
    · rw [hsame.generation]
      have hdata := dataStep slot hstep hsame
      cases hdata with
      | kept _ hkept _ _ => exact (ih (hkept ▸ hrevision)).append [e]
      | collected sameEvidence completedMs completedAt hcollected _ =>
        exact ⟨es, e, [], mid, rfl, hrun.mono fun _ _ _ => trivial, by rw [hcollected]; rfl, rfl⟩
    · rw [hflip.slots] at hrevision
      cases hrevision

/-- Two collections of a slot in one generation with none between them and the same
sanitized data. -/
structure CollectedTwice (processBoot : BootToken) (slot : ProviderSlot) (s₁ : AppState)
    (e₁ : Event) (s₁' : AppState) (es : List Event) (s₂ : AppState) (e₂ : Event)
    (s₂' : AppState) : Prop where
  firstStep : step processBoot s₁ e₁ = some s₁'
  between : Steps (step processBoot) (fun s e => s.collection e slot = none) s₁' es s₂
  secondStep : step processBoot s₂ e₂ = some s₂'
  collects : (s₁.collection e₁ slot).isSome
  sameData : s₂.collection e₂ slot = s₁.collection e₁ slot
  sameGeneration : s₂'.cache.sourceGeneration = s₁.cache.sourceGeneration

theorem dataRevision_eq_of_token {processBoot : BootToken} {state state' : SlotRuntimeState}
    (h : IdentifiesRetained processBoot state) (h' : IdentifiesRetained processBoot state')
    (htoken : slotToken processBoot state'.freshness = slotToken processBoot state.freshness) :
    state'.freshness.dataRevision = state.freshness.dataRevision := by
  have hlast : state'.freshness.dataObservable = state.freshness.dataObservable :=
    congrArg ChangeToken.last htoken
  have hsequence := congrArg ChangeToken.sequence htoken
  have hsome : state'.freshness.dataRevision.isSome = state.freshness.dataRevision.isSome := by
    rw [← h'.isSome, ← h.isSome, hlast]
  cases hrevision : state.freshness.dataRevision with
  | none =>
    rw [hrevision] at hsome
    exact Option.not_isSome_iff_eq_none.1 (by rw [hsome]; exact Bool.false_ne_true)
  | some revision =>
    rw [hrevision] at hsome
    obtain ⟨revision', hrevision'⟩ := Option.isSome_iff_exists.1 hsome
    have hboot := h.boot revision hrevision
    have hboot' := h'.boot revision' hrevision'
    simp only [slotToken, hrevision, hrevision', Option.map_some, Option.getD_some] at hsequence
    obtain ⟨boot, sequence⟩ := revision
    obtain ⟨boot', sequence'⟩ := revision'
    subst hboot hboot' hsequence
    exact hrevision'

theorem CollectedTwice.dataRevision {processBoot : BootToken} {slot : ProviderSlot}
    {s₁ s₁' s₂ s₂' : AppState} {e₁ e₂ : Event} {es : List Event}
    (h : CollectedTwice processBoot slot s₁ e₁ s₁' es s₂ e₂ s₂')
    (hinv : ∀ slot, IdentifiesRetained processBoot (s₁.cache.runtimeProviders slot)) :
    (s₂'.cache.runtimeProviders slot).freshness.dataRevision =
      (s₁'.cache.runtimeProviders slot).freshness.dataRevision := by
  obtain ⟨collection, hcollection⟩ := Option.isSome_iff_exists.1 h.collects
  have hinv₁ := identifiesRetained_step h.firstStep hinv
  have hinv₂ := identifiesRetained_step h.secondStep (identifiesRetained_run h.between hinv₁)
  have hgeneration₁ := generation_le h.firstStep
  have hgeneration := generation_le_run h.between
  have hgeneration₂ := generation_le h.secondStep
  have hsame := h.sameGeneration
  have hfirst : SameSource processBoot s₁ e₁ s₁' :=
    (step_source h.firstStep).resolve_right fun hflip => by
      have := hflip.generation
      omega
  have hsecond : SameSource processBoot s₂ e₂ s₂' :=
    (step_source h.secondStep).resolve_right fun hflip => by
      have := hflip.generation
      omega
  apply dataRevision_eq_of_token (hinv₁ slot) (hinv₂ slot)
  have hkept := token_eq_of_no_collection h.between (by omega)
  have hassigned := (dataStep slot h.firstStep hfirst).token
  rw [hcollection, Option.elim] at hassigned
  rw [(dataStep slot h.secondStep hsecond).token, h.sameData, hcollection, Option.elim, hkept]
  apply ChangeToken.assign_of_last
  rw [hassigned]
  exact ChangeToken.assign_last ..

/-- One data revision never identifies two collections, in every run that collects each slot
in at most one of its generations; and two consecutive equal collections of one generation
share their revision, in every run. -/
theorem data_revisions_identify_collections {processBoot : BootToken} {boots : CacheBoots}
    {now : ℕ} {es es' : List Event} {s s' : AppState}
    (h : Steps (step processBoot) anyStep (AppState.new processBoot boots now) es s)
    (h' : Steps (step processBoot) anyStep s es' s')
    (hone : CollectsInOneGeneration processBoot (AppState.new processBoot boots now) (es ++ es')) :
    (∀ state state' revision, Publishes s.cache state → Publishes s'.cache state' →
      state'.slot = state.slot → state.dataRevision = some revision →
        state'.dataRevision = some revision →
          retainedCollection (s'.cache.runtimeProviders state.slot).observation =
            retainedCollection (s.cache.runtimeProviders state.slot).observation) ∧
      ∀ slot e₁ s₁ between s₂ e₂ s₂', CollectedTwice processBoot slot s e₁ s₁ between s₂ e₂ s₂' →
        (s₂'.cache.runtimeProviders slot).freshness.dataRevision =
          (s₁.cache.runtimeProviders slot).freshness.dataRevision := by
  have hinv := identifiesRetained_run h fun slot =>
    (identifiesRetained_unavailable processBoot none :
      IdentifiesRetained processBoot (unavailableProviderSlots slot))
  have hinv' := identifiesRetained_run h' hinv
  refine ⟨fun state state' revision hstate hstate' hslot hrevision hrevision' => ?_,
    fun slot e₁ s₁ between s₂ e₂ s₂' htwice => htwice.dataRevision hinv⟩
  rw [eq_of_publishes h hstate] at hrevision
  rw [eq_of_publishes (h.append h') hstate', hslot] at hrevision'
  obtain ⟨hcurrent, hsome⟩ := current_of_dataRevision (hinv state.slot) hrevision
  obtain ⟨hcurrent', hsome'⟩ := current_of_dataRevision (hinv' state.slot) hrevision'
  -- both revisions were collected in the one generation the run collects the slot in
  obtain ⟨before, e, after, sᵢ, hes, hrun, hcollects, hgeneration⟩ :=
    (collectedIn_of_dataRevision h hsome).append es'
  obtain ⟨before', e', after', sⱼ, hes', hrun', hcollects', hgeneration'⟩ :=
    collectedIn_of_dataRevision (h.append h') hsome'
  have hsame : s'.cache.sourceGeneration = s.cache.sourceGeneration := by
    rw [← hgeneration, ← hgeneration']
    exact (hone _ _ _ _ _ _ _ _ _ hes hrun hes' hrun' hcollects hcollects').symm
  have hlast := (extends_token state.slot h' hsame).last_of_current
    (hcurrent'.trans hcurrent.symm)
  have hobservable := hlast
  simp only [slotToken, (hinv state.slot).observable, (hinv' state.slot).observable]
    at hobservable
  exact Option.map_injective ProviderCollection.sanitizedObservableIdentity_injective hobservable

/-! Sample runs -/

def Event.isApply : Event → Bool
  | .apply _ _ _ => true
  | _ => false

theorem isApply_of_collection {s : AppState} {e : Event} {slot : ProviderSlot}
    (h : (s.collection e slot).isSome) : e.isApply = true := by
  cases e with
  | apply i completedAt completedMs => rfl
  | _ => cases h

theorem collectsInOneGeneration_of_single {processBoot : BootToken} {s : AppState}
    {es : List Event} (k : ℕ)
    (hk : ∀ (j : ℕ) (e : Event), es[j]? = some e → e.isApply = true → j = k) :
    CollectsInOneGeneration processBoot s es := by
  intro slot before e after sᵢ before' e' after' sⱼ hes hrun hes' hrun' hcollects hcollects'
  have hi := hk before.length e (by rw [hes]; simp) (isApply_of_collection hcollects)
  have hj := hk before'.length e' (by rw [hes']; simp) (isApply_of_collection hcollects')
  have hbefore : before = before' := by
    have htake : es.take before.length = before := by rw [hes, List.take_left]
    have htake' : es.take before'.length = before' := by rw [hes', List.take_left]
    rw [← htake, ← htake', hi, hj]
  subst hbefore
  rw [hrun.unique hrun']

/-- A pass that reads one warning from the host. -/
def readingOf (message : String) : HostReading where
  nodes := []
  edges := []
  diagnostics := [{ provider := .other, severity := .warning, message := message }]
  available := true
  bare _ h := by cases h

def collectedRun : List Event :=
  [publishEmpty 0, .refreshClaim 0 fun _ => some 0, .start 0,
    .finish 0 (.collected (readingOf "a")), .apply 0 0 (some 0)]

theorem collectedRun_reached :
    ((run (step sampleBoot) anyStep (AppState.new sampleBoot sampleBoots 0)
      collectedRun).bind fun s => run (step sampleBoot) anyStep s [publishEmpty 1000]).isSome := by
  decide

theorem data_revisions_identify_collections_one :
    ∃ s s', Steps (step sampleBoot) anyStep (AppState.new sampleBoot sampleBoots 0) collectedRun s ∧
      Steps (step sampleBoot) anyStep s [publishEmpty 1000] s' ∧
      CollectsInOneGeneration sampleBoot (AppState.new sampleBoot sampleBoots 0)
        (collectedRun ++ [publishEmpty 1000]) ∧
      ∀ state state' revision, Publishes s.cache state → Publishes s'.cache state' →
        state'.slot = state.slot → state.dataRevision = some revision →
          state'.dataRevision = some revision →
            retainedCollection (s'.cache.runtimeProviders state.slot).observation =
              retainedCollection (s.cache.runtimeProviders state.slot).observation := by
  obtain ⟨s', hbind⟩ := Option.isSome_iff_exists.1 collectedRun_reached
  obtain ⟨s, hrun, hrun'⟩ := Option.bind_eq_some_iff.1 hbind
  have hone : CollectsInOneGeneration sampleBoot (AppState.new sampleBoot sampleBoots 0)
      (collectedRun ++ [publishEmpty 1000]) := by
    refine collectsInOneGeneration_of_single 4 fun j e hj happly => ?_
    match j with
    | 0 | 1 | 2 | 3 | 5 =>
      cases hj
      cases happly
    | 4 => rfl
    | j + 6 => cases hj
  exact ⟨s, s', Steps.of_run hrun, Steps.of_run hrun', hone,
    (data_revisions_identify_collections (Steps.of_run hrun) (Steps.of_run hrun') hone).1⟩

/-- The same slot is collected before and after a mock source, with different data. -/
def recollectedEvents : List Event :=
  [.publish (.failed "timeout") 1000 sampleBoots samplePublicationBoots, publishEmpty 2000,
    .refreshClaim 0 fun _ => some 2000, .start 2, .finish 2 (.collected (readingOf "b")),
    .apply 2 0 (some 2000)]

theorem revision_reused :
    ((run (step sampleBoot) anyStep (AppState.new sampleBoot sampleBoots 0)
      collectedRun).bind fun s =>
        (run (step sampleBoot) anyStep s recollectedEvents).map fun s' =>
          let slot := ProviderSlot.networkInfrastructure
          ((providerStateFor s.cache.runtimeProviders slot).dataRevision,
            (providerStateFor s'.cache.runtimeProviders slot).dataRevision,
            decide (retainedCollection (s'.cache.runtimeProviders slot).observation =
              retainedCollection (s.cache.runtimeProviders slot).observation))) =
      some (some "0123456789abcdef0123456789abcdef-1", some "0123456789abcdef0123456789abcdef-1",
        false) := by
  decide +kernel

theorem publishes_slot {processBoot : BootToken} {boots : CacheBoots} {now : ℕ} {es : List Event}
    {s : AppState} (h : Steps (step processBoot) anyStep (AppState.new processBoot boots now) es s)
    (slot : ProviderSlot) :
    Publishes s.cache (providerStateFor s.cache.runtimeProviders slot) := by
  change _ ∈ s.cache.runtimeMap.providerStates
  rw [providerStates_eq h]
  exact List.mem_map_of_mem (mem_staticProviderSlots slot)

/-- Over all runs one data revision can identify two collections. -/
theorem data_revisions_reused :
    ¬ ∀ (processBoot : BootToken) (boots : CacheBoots) (now : ℕ) (es es' : List Event)
        (s s' : AppState),
      Steps (step processBoot) anyStep (AppState.new processBoot boots now) es s →
        Steps (step processBoot) anyStep s es' s' →
          ∀ state state' revision, Publishes s.cache state → Publishes s'.cache state' →
            state'.slot = state.slot → state.dataRevision = some revision →
              state'.dataRevision = some revision →
                retainedCollection (s'.cache.runtimeProviders state.slot).observation =
                  retainedCollection (s.cache.runtimeProviders state.slot).observation := by
  intro hidentify
  obtain ⟨s, hrun, hmap⟩ := Option.bind_eq_some_iff.1 revision_reused
  obtain ⟨s', hrun', hvalues⟩ := Option.map_eq_some_iff.1 hmap
  have hsteps := Steps.of_run hrun
  have hsteps' := Steps.of_run hrun'
  obtain ⟨hrevision, hvalues⟩ := Prod.mk.inj hvalues
  obtain ⟨hrevision', hdifferent⟩ := Prod.mk.inj hvalues
  exact of_decide_eq_false hdifferent
    (hidentify sampleBoot sampleBoots 0 collectedRun recollectedEvents s s' hsteps hsteps' _ _ _
      (publishes_slot hsteps .networkInfrastructure)
      (publishes_slot (hsteps.append hsteps') .networkInfrastructure) rfl hrevision hrevision')

end DockerMap
