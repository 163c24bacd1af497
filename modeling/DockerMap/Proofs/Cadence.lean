import DockerMap.Proofs.Concurrency
import DockerMap.Proofs.Workers

/-! Completion-relative cadence: what lies between two claims of one slot inside one
source generation. A claim leaves its slot collecting, only an applied outcome ends
that, and the completion time the outcome leaves behind is what the next claim waits for. -/

namespace DockerMap

open Runs

/-! Claims -/

theorem claimable_of_claims {s : AppState} {e : Event} {slot : ProviderSlot}
    (h : slot ∈ s.claims e) :
    ∃ now, e.claimTime = some now ∧ isClaimable now slot (s.cache.runtimeProviders slot) := by
  unfold AppState.claims at h
  split at h
  · rename_i now htime
    exact ⟨now, htime, isClaimable_of_due h⟩
  · simp at h

theorem slotInterval_pos (slot : ProviderSlot) : 0 < slotInterval slot := by
  cases slot <;> decide

/-- A claimed slot has waited its interval since its last completion. -/
theorem interval_le_of_claims {s : AppState} {e : Event} {slot : ProviderSlot} {completedAt : ℕ}
    (hclaims : slot ∈ s.claims e)
    (hcompleted : (s.cache.runtimeProviders slot).completedAt = some completedAt) :
    ∃ now, e.claimTime = some now ∧ completedAt + slotInterval slot ≤ now := by
  obtain ⟨now, htime, hclaimable⟩ := claimable_of_claims hclaims
  have hdue := isDue_of_isClaimable hclaimable
  simp only [isDue, hcompleted, decide_eq_true_eq] at hdue
  have hpos := slotInterval_pos slot
  exact ⟨now, htime, by omega⟩

theorem not_collecting_of_claims {s : AppState} {e : Event} {slot : ProviderSlot}
    (h : slot ∈ s.claims e) :
    (s.cache.runtimeProviders slot).observation.isCollecting = false := by
  obtain ⟨now, -, hclaimable⟩ := claimable_of_claims h
  exact isCollecting_of_isClaimable hclaimable

/-! Between two claims -/

def ProviderCollectionOutcome.isInFlight : ProviderCollectionOutcome → Bool
  | .inFlight => true
  | _ => false

/-- The condition at an application: no outcome of this slot is an in-flight one. -/
def SettlesSlot (slot : ProviderSlot) (s : AppState) (e : Event) : Prop :=
  ∀ a ∈ s.application e, a.slot = slot → a.outcome.isInFlight = false

instance (slot : ProviderSlot) (s : AppState) (e : Event) : Decidable (SettlesSlot slot s e) :=
  inferInstanceAs (Decidable (∀ a ∈ s.application e, _ → _))

theorem event_of_application {s : AppState} {e : Event} {a : Application}
    (h : s.application e = some a) : ∃ i completedMs, e = .apply i a.completedAt completedMs := by
  cases e with
  | apply i completedAt completedMs =>
    simp only [AppState.application] at h
    split at h
    · obtain ⟨-, ha⟩ := Option.ite_none_right_eq_some.1 h
      cases ha
      exact ⟨i, completedMs, rfl⟩
    · cases h
  | publish read now boots publication => cases h
  | refreshClaim now wall => cases h
  | start i => cases h
  | finish i result => cases h
  | timeout i => cases h
  | unwind slot => cases h
  | followUpClaim i now wall => cases h
  | followUpSpawn i => cases h
  | tick elapsed => cases h

/-- Two claims of one slot in one source generation. -/
structure ClaimedTwice (processBoot : BootToken) (ok : AppState → Event → Prop)
    (slot : ProviderSlot) (s₁ : AppState) (e₁ : Event) (s₁' : AppState) (es : List Event)
    (s₂ : AppState) (e₂ : Event) : Prop where
  first : slot ∈ s₁.claims e₁
  firstStep : step processBoot s₁ e₁ = some s₁'
  between : Steps (step processBoot) ok s₁' es s₂
  second : slot ∈ s₂.claims e₂
  secondStep : ∃ s₂', step processBoot s₂ e₂ = some s₂'
  sameGeneration : s₂.cache.sourceGeneration = s₁.cache.sourceGeneration

/-- Some step of the run applies an outcome of the slot; `completedAt` is the time that is read
for it, before the lock is taken. -/
def AppliedBy (processBoot : BootToken) (slot : ProviderSlot) (s : AppState) (es : List Event)
    (completedAt : ℕ) : Prop :=
  ∃ before e after sₐ a, es = before ++ e :: after ∧
    Steps (step processBoot) anyStep s before sₐ ∧
    sₐ.application e = some a ∧ a.slot = slot ∧ a.completedAt = completedAt

/-- An applied outcome lies between, and the slot's interval passes from its completion to the
time that the second claim reads. -/
def AppliedBetween (processBoot : BootToken) (slot : ProviderSlot) (s₁' : AppState)
    (es : List Event) (e₂ : Event) : Prop :=
  ∃ completedAt now, AppliedBy processBoot slot s₁' es completedAt ∧
    e₂.claimTime = some now ∧ completedAt + slotInterval slot ≤ now

theorem AppliedBy.snoc {processBoot : BootToken} {slot : ProviderSlot} {s : AppState}
    {es : List Event} {completedAt : ℕ} (h : AppliedBy processBoot slot s es completedAt)
    (e : Event) : AppliedBy processBoot slot s (es ++ [e]) completedAt := by
  obtain ⟨before, e', after, sₐ, a, rfl, hsteps, happ, hslot, hcompleted⟩ := h
  exact ⟨before, e', after ++ [e], sₐ, a, by simp, hsteps, happ, hslot, hcompleted⟩

/-- Since its claim a slot is either still collecting or settled by an applied outcome
whose completion time it carries. -/
def CollectingOrSettled (processBoot : BootToken) (slot : ProviderSlot) (s₁' : AppState)
    (es : List Event) (s : AppState) : Prop :=
  (s.cache.runtimeProviders slot).observation.isCollecting = true ∨
    ∃ completedAt, AppliedBy processBoot slot s₁' es completedAt ∧
      (s.cache.runtimeProviders slot).completedAt = some completedAt

theorem applyOutcome_completedAt (processBoot : BootToken) {outcome : ProviderCollectionOutcome}
    (hfinal : outcome.isInFlight = false) (sameEvidence : Bool) (completedMs : Option ℕ)
    (completedAt : ℕ) (state : SlotRuntimeState) :
    (applyOutcome processBoot outcome sameEvidence completedMs completedAt state).completedAt =
      some completedAt := by
  cases outcome with
  | collected collection => rfl
  | inFlight => cases hfinal
  | failed => rfl
  | timedOut => rfl

theorem collectingOrSettled_step {processBoot : BootToken} {slot : ProviderSlot}
    {s₁' s s' : AppState} {es : List Event} {e : Event}
    (hsteps : Steps (step processBoot) (SettlesSlot slot) s₁' es s)
    (hok : SettlesSlot slot s e) (hsame : SameSource processBoot s e s')
    (h : CollectingOrSettled processBoot slot s₁' es s) :
    CollectingOrSettled processBoot slot s₁' (es ++ [e]) s' := by
  have hslot := hsame.slots slot
  unfold CollectingOrSettled
  generalize s'.cache.runtimeProviders slot = new at hslot ⊢
  cases hslot with
  | kept =>
    rcases h with hcollecting | ⟨completedAt, happlied, hcompleted⟩
    · exact Or.inl hcollecting
    · exact Or.inr ⟨completedAt, happlied.snoc e, hcompleted⟩
  | staled hfresh =>
    rcases h with hcollecting | ⟨completedAt, happlied, hcompleted⟩
    · rw [hfresh] at hcollecting
      cases hcollecting
    · exact Or.inr ⟨completedAt, happlied.snoc e, hcompleted⟩
  | claimed hclaims => exact Or.inl rfl
  | @applied a sameEvidence happ hslot =>
    have hfinal := hok a happ hslot
    right
    refine ⟨a.completedAt,
      ⟨es, e, [], s, a, rfl, hsteps.mono fun _ _ _ => trivial, happ, hslot, rfl⟩, ?_⟩
    exact applyOutcome_completedAt processBoot hfinal ..

theorem collectingOrSettled {processBoot : BootToken} {slot : ProviderSlot} {s₁' s : AppState}
    {es : List Event} (hsteps : Steps (step processBoot) (SettlesSlot slot) s₁' es s)
    (hgeneration : s.cache.sourceGeneration = s₁'.cache.sourceGeneration)
    (hcollecting : (s₁'.cache.runtimeProviders slot).observation.isCollecting = true) :
    CollectingOrSettled processBoot slot s₁' es s := by
  induction hsteps with
  | nil => exact Or.inl hcollecting
  | snoc hrun hok hstep ih =>
    have hlow := hrun.monotone (f := fun s => s.cache.sourceGeneration)
      fun _ _ _ => generation_le
    have hhigh := generation_le hstep
    rcases step_source hstep with hsame | hflip
    · exact collectingOrSettled_step hrun hok hsame (ih (by rw [← hsame.generation, hgeneration]))
    · -- a flip starts a later generation than the first claim's
      have := hflip.generation
      omega

/-- Two claims of a slot in one generation are separated by an applied outcome and by the
slot's interval after its completion, when no outcome of the slot that is applied in between
is an in-flight one. -/
theorem claims_separated {processBoot : BootToken} {slot : ProviderSlot} {s₁ s₁' s₂ : AppState}
    {e₁ e₂ : Event} {es : List Event}
    (h : ClaimedTwice processBoot (SettlesSlot slot) slot s₁ e₁ s₁' es s₂ e₂) :
    AppliedBetween processBoot slot s₁' es e₂ := by
  obtain ⟨hclaimed, hgeneration⟩ := claimSlot_of_claims h.firstStep h.first
  have hcollecting : (s₁'.cache.runtimeProviders slot).observation.isCollecting = true := by
    rw [hclaimed]
    rfl
  have hfirst : s₂.cache.sourceGeneration = s₁'.cache.sourceGeneration := by
    rw [h.sameGeneration, hgeneration]
  rcases collectingOrSettled h.between hfirst hcollecting with
    hstill | ⟨completedAt, happlied, hcompleted⟩
  · rw [not_collecting_of_claims h.second] at hstill
    cases hstill
  · obtain ⟨now, htime, hinterval⟩ := interval_le_of_claims h.second hcompleted
    exact ⟨completedAt, now, happlied, htime, hinterval⟩

/-! Sample runs -/

/-- The states before and after the first claim and before the second one, when the events
reach them and both claims take the slot. -/
def claimPair (ok : AppState → Event → Prop) [∀ s e, Decidable (ok s e)] (slot : ProviderSlot)
    (before : List Event) (e₁ : Event) (es : List Event) (e₂ : Event) :
    Option (AppState × AppState × AppState) := do
  let s₁ ← run (step sampleBoot) anyStep (AppState.new sampleBoot sampleBoots 0) before
  let s₁' ← step sampleBoot s₁ e₁
  let s₂ ← run (step sampleBoot) ok s₁' es
  let _ ← step sampleBoot s₂ e₂
  if slot ∈ s₁.claims e₁ ∧ slot ∈ s₂.claims e₂ ∧
      s₂.cache.sourceGeneration = s₁.cache.sourceGeneration then
    some (s₁, s₁', s₂)
  else none

theorem claimedTwice_of_claimPair {ok : AppState → Event → Prop} [∀ s e, Decidable (ok s e)]
    {slot : ProviderSlot} {before es : List Event} {e₁ e₂ : Event} {s₁ s₁' s₂ : AppState}
    (h : claimPair ok slot before e₁ es e₂ = some (s₁, s₁', s₂)) :
    Steps (step sampleBoot) anyStep (AppState.new sampleBoot sampleBoots 0) before s₁ ∧
      ClaimedTwice sampleBoot ok slot s₁ e₁ s₁' es s₂ e₂ := by
  simp only [claimPair, Option.bind_eq_bind, Option.bind_eq_some_iff,
    Option.ite_none_right_eq_some, Option.some.injEq, Prod.mk.injEq] at h
  obtain ⟨t₁, hbefore, t₁', hfirst, t₂, hbetween, t₂', hsecond, ⟨hclaim₁, hclaim₂, hsame⟩,
    rfl, rfl, rfl⟩ := h
  exact ⟨Steps.of_run hbefore, hclaim₁, hfirst, Steps.of_run hbetween, hclaim₂, ⟨t₂', hsecond⟩,
    hsame⟩

def claimAt (seconds : ℕ) : Event :=
  .refreshClaim (durationFromSecs seconds) fun _ => some (seconds * 1000)

/-- The outcome is applied a second after its completion: the cache was locked. -/
def claimedAgainAfterFailure : Option (AppState × AppState × AppState) :=
  claimPair (SettlesSlot .networkInfrastructure) .networkInfrastructure [publishEmpty 0]
    (claimAt 0)
    [.start 0, .finish 0 .failed, .tick (durationFromSecs 1), .apply 0 0 (some 1000),
      .tick (durationFromSecs 9), publishEmpty 10000] (claimAt 10)

theorem claimedAgain_afterFailure : claimedAgainAfterFailure.isSome := by decide

theorem claims_separated_network :
    ∃ s₁ e₁ s₁' es s₂ e₂,
      ClaimedTwice sampleBoot (SettlesSlot .networkInfrastructure) .networkInfrastructure
          s₁ e₁ s₁' es s₂ e₂ ∧
        AppliedBetween sampleBoot .networkInfrastructure s₁' es e₂ := by
  obtain ⟨⟨s₁, s₁', s₂⟩, hpair⟩ := Option.isSome_iff_exists.1 claimedAgain_afterFailure
  obtain ⟨-, htwice⟩ := claimedTwice_of_claimPair hpair
  exact ⟨s₁, _, s₁', _, s₂, _, htwice, claims_separated htwice⟩

/-- A timed-out worker still runs when its slot is claimed again: the next worker finds the flag
set and ends in flight at once, which leaves the completion time as it was. -/
def reclaimedAtOnce : Option (AppState × AppState × AppState) :=
  claimPair anyStep .networkInfrastructure
    [publishEmpty 0, claimAt 0, .start 0, .start 1, .finish 1 .failed, .apply 1 0 (some 0),
      .tick (durationFromSecs 15), .timeout 0, .apply 0 (durationFromSecs 15) (some 15000),
      .tick (durationFromSecs 10), publishEmpty 25000] (claimAt 25)
    [.start 2, .apply 2 (durationFromSecs 25) (some 25000)]
    (.followUpClaim 2 (durationFromSecs 25) fun _ => some 25000)

theorem reclaimed_atOnce : reclaimedAtOnce.isSome := by decide

/-- Over all runs a slot can be claimed twice in one generation with no time between. -/
theorem claims_not_separated :
    ¬ ∀ (processBoot : BootToken) (boots : CacheBoots) (now : ℕ) (before : List Event)
        (slot : ProviderSlot) (s₁ : AppState) (e₁ : Event) (s₁' : AppState) (es : List Event)
        (s₂ : AppState) (e₂ : Event),
      Steps (step processBoot) anyStep (AppState.new processBoot boots now) before s₁ →
        ClaimedTwice processBoot anyStep slot s₁ e₁ s₁' es s₂ e₂ →
          AppliedBetween processBoot slot s₁' es e₂ := by
  intro hseparated
  obtain ⟨⟨s₁, s₁', s₂⟩, hpair⟩ := Option.isSome_iff_exists.1 reclaimed_atOnce
  obtain ⟨hbefore, htwice⟩ := claimedTwice_of_claimPair hpair
  obtain ⟨completedAt, now, happlied, htime, hinterval⟩ :=
    hseparated _ _ _ _ _ _ _ _ _ _ _ hbefore htwice
  obtain ⟨before, e, after, sₐ, a, hes, -, happ, -, rfl⟩ := happlied
  obtain ⟨i, completedMs, rfl⟩ := event_of_application happ
  -- the one application between the claims completes when the second claim reads the clock
  have hmem : Event.apply i a.completedAt completedMs ∈
      [Event.start 2, .apply 2 (durationFromSecs 25) (some 25000)] := by
    rw [hes]
    exact List.mem_append_right _ List.mem_cons_self
  obtain ⟨-, hcompleted, -⟩ : i = 2 ∧ a.completedAt = durationFromSecs 25 ∧
      completedMs = some 25000 := by simpa using hmem
  obtain rfl : durationFromSecs 25 = now := Option.some.inj htime
  have hpos := slotInterval_pos .networkInfrastructure
  omega

end DockerMap
