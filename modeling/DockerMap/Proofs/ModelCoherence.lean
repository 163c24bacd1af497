import DockerMap.Web.ModelResources
import Mathlib.Data.List.Induction
import Mathlib.Data.List.Infix

/-! What the browser shows over any run of renders, effects and settling fetches: a model, an
atlas, a provenance and findings that come from bodies of one fetch attempt, one provenance and
one revision. -/

namespace DockerMap.Web

open Atlas (UnicodeTables)
open SystemModelHook (Action)

section

variable (localeCompare : String → String → ℤ) (unicode : UnicodeTables)

/-! Resources of the hook -/

/-- One of the resources, with the action that settles its fetches. -/
structure ResourceView (α : Type) where
  get : SystemModelHook → ApiResource α
  settled : ℕ → Except String (Option α) → Action
  sourceOf : α → Option RuntimeMode

def snapshotView : ResourceView DockerSnapshot :=
  ⟨SystemModelHook.snapshot, .settleSnapshot, DockerSnapshot.source⟩

def runtimeMapView : ResourceView RuntimeMap :=
  ⟨SystemModelHook.runtimeMap, .settleRuntimeMap, RuntimeMap.source⟩

def findingsView : ResourceView FindingsResponse :=
  ⟨SystemModelHook.findings, .settleFindings, FindingsResponse.source⟩

/-- An action leaves a resource, runs its effect or settles its fetch. -/
structure ResourceView.Lawful {α : Type} (view : ResourceView α) : Prop where
  initial : view.get {} = {}
  step (hook : SystemModelHook) (action : Action) :
    view.get (hook.step localeCompare unicode action) = view.get hook ∨
      (∃ inputs enabled, view.get (hook.step localeCompare unicode action) =
        (view.get hook).runEffect (HookInputs.effectDeps inputs enabled)) ∨
      ∃ attempt result, action = view.settled attempt result ∧
        view.get (hook.step localeCompare unicode action) =
          (view.get hook).settle view.sourceOf attempt result

/-- The body reached the resource while its fetch was in force. -/
def Received {α : Type} (view : ResourceView α) (actions : List Action) (request : Request)
    (data : α) : Prop :=
  ∃ before, before ++ [view.settled request.attempt (.ok (some data))] <+: actions ∧
    (view.get (SystemModelHook.run localeCompare unicode before)).request = some request

/-- The data of a state came with a fetch whose stamp it keeps. -/
def Holds {α : Type} (view : ResourceView α) (actions : List Action) (state : ResourceState α) :
    Prop :=
  ∀ data ∈ state.data, ∃ request, Received localeCompare unicode view actions request data ∧
    state.generation = request.attempt ∧
    state.provenance = request.actualProvenance (view.sourceOf data)

/-- A fetch in force is the last one of the last effect. -/
def InForce {α : Type} (resource : ApiResource α) : Prop :=
  ∀ request ∈ resource.request, request.isModelResource = true ∧
    request.attempt = resource.attempt ∧ resource.deps = some request.deps

end

variable {localeCompare : String → String → ℤ} {unicode : UnicodeTables}

theorem run_concat (actions : List Action) (action : Action) :
    SystemModelHook.run localeCompare unicode (actions ++ [action]) =
      (SystemModelHook.run localeCompare unicode actions).step localeCompare unicode action := by
  rw [SystemModelHook.run, List.foldl_append]
  rfl

theorem flushEffects_of_rendered {hook : SystemModelHook} {inputs : HookInputs}
    (h : hook.rendered = some inputs) :
    hook.flushEffects =
      { hook with
        snapshot := hook.snapshot.runEffect (inputs.effectDeps true)
        runtimeMap := hook.runtimeMap.runEffect (inputs.effectDeps true)
        findings := hook.findings.runEffect (inputs.effectDeps inputs.includeFindings) } := by
  rw [SystemModelHook.flushEffects, h]

theorem flushEffects_of_none {hook : SystemModelHook} (h : hook.rendered = none) :
    hook.flushEffects = hook := by
  rw [SystemModelHook.flushEffects, h]

variable (localeCompare unicode) in
theorem lawful_snapshotView : snapshotView.Lawful localeCompare unicode where
  initial := rfl
  step hook action := by
    cases action with
    | render inputs => exact Or.inl rfl
    | flushEffects =>
      cases hrendered : hook.rendered with
      | none => exact Or.inl (congrArg _ (flushEffects_of_none hrendered))
      | some inputs =>
        exact Or.inr (Or.inl ⟨inputs, true, congrArg _ (flushEffects_of_rendered hrendered)⟩)
    | settleSnapshot attempt result => exact Or.inr (Or.inr ⟨attempt, result, rfl, rfl⟩)
    | settleRuntimeMap attempt result => exact Or.inl rfl
    | settleFindings attempt result => exact Or.inl rfl

variable (localeCompare unicode) in
theorem lawful_runtimeMapView : runtimeMapView.Lawful localeCompare unicode where
  initial := rfl
  step hook action := by
    cases action with
    | render inputs => exact Or.inl rfl
    | flushEffects =>
      cases hrendered : hook.rendered with
      | none => exact Or.inl (congrArg _ (flushEffects_of_none hrendered))
      | some inputs =>
        exact Or.inr (Or.inl ⟨inputs, true, congrArg _ (flushEffects_of_rendered hrendered)⟩)
    | settleSnapshot attempt result => exact Or.inl rfl
    | settleRuntimeMap attempt result => exact Or.inr (Or.inr ⟨attempt, result, rfl, rfl⟩)
    | settleFindings attempt result => exact Or.inl rfl

variable (localeCompare unicode) in
theorem lawful_findingsView : findingsView.Lawful localeCompare unicode where
  initial := rfl
  step hook action := by
    cases action with
    | render inputs => exact Or.inl rfl
    | flushEffects =>
      cases hrendered : hook.rendered with
      | none => exact Or.inl (congrArg _ (flushEffects_of_none hrendered))
      | some inputs =>
        exact Or.inr (Or.inl
          ⟨inputs, inputs.includeFindings, congrArg _ (flushEffects_of_rendered hrendered)⟩)
    | settleSnapshot attempt result => exact Or.inl rfl
    | settleRuntimeMap attempt result => exact Or.inl rfl
    | settleFindings attempt result => exact Or.inr (Or.inr ⟨attempt, result, rfl, rfl⟩)

section

variable {α : Type} {view : ResourceView α} {actions more : List Action} {request : Request}
  {data : α}

theorem Received.mono (h : Received localeCompare unicode view actions request data)
    (hextends : actions <+: more) : Received localeCompare unicode view more request data := by
  obtain ⟨before, hbefore, hrequest⟩ := h
  exact ⟨before, hbefore.trans hextends, hrequest⟩

theorem Holds.mono {state : ResourceState α} (h : Holds localeCompare unicode view actions state)
    (hextends : actions <+: more) : Holds localeCompare unicode view more state := by
  intro data hdata
  obtain ⟨request, hreceived, hrest⟩ := h data hdata
  exact ⟨request, hreceived.mono hextends, hrest⟩

theorem holds_runEffect {resource : ApiResource α} (deps : EffectDeps)
    (h : Holds localeCompare unicode view actions resource.state) :
    Holds localeCompare unicode view actions (resource.runEffect deps).state := by
  rw [ApiResource.runEffect]
  split_ifs
  · exact h
  · exact h
  · exact fun data hdata => by cases hdata

/-- A fetch settles once, and only while it is in force. -/
theorem settle_cases (sourceOf : α → Option RuntimeMode) (resource : ApiResource α)
    (attempt : ℕ) (result : Except String (Option α)) :
    resource.settle sourceOf attempt result = resource ∨
      ∃ request, resource.request = some request ∧ request.attempt = attempt ∧
        resource.settle sourceOf attempt result =
          { resource with
            state := resource.receive sourceOf request result
            request := none } := by
  cases hrequest : resource.request with
  | none => exact Or.inl (by rw [ApiResource.settle, hrequest])
  | some request =>
    by_cases hattempt : request.attempt = attempt
    · refine Or.inr ⟨request, rfl, hattempt, ?_⟩
      rw [ApiResource.settle, hrequest]
      exact if_pos hattempt
    · refine Or.inl ?_
      rw [ApiResource.settle, hrequest]
      exact if_neg hattempt

theorem holds_step {action : Action} (hlawful : view.Lawful localeCompare unicode)
    (h : Holds localeCompare unicode view actions
      (view.get (SystemModelHook.run localeCompare unicode actions)).state) :
    Holds localeCompare unicode view (actions ++ [action])
      (view.get (SystemModelHook.run localeCompare unicode (actions ++ [action]))).state := by
  have hkept := h.mono (List.prefix_append actions [action])
  rw [run_concat]
  rcases hlawful.step (SystemModelHook.run localeCompare unicode actions) action with
    heq | ⟨inputs, enabled, heq⟩ | ⟨attempt, result, rfl, heq⟩
  · rw [heq]
    exact hkept
  · rw [heq]
    exact holds_runEffect _ hkept
  rw [heq]
  rcases settle_cases view.sourceOf
    (view.get (SystemModelHook.run localeCompare unicode actions)) attempt result with
    hsame | ⟨request, hrequest, rfl, hsettled⟩
  · rw [hsame]
    exact hkept
  rw [hsettled]
  cases result with
  | error message => exact hkept
  | ok body =>
    intro data hdata
    cases hdata
    exact ⟨request, ⟨actions, List.prefix_refl _, hrequest⟩, rfl, rfl⟩

theorem holds_run (hlawful : view.Lawful localeCompare unicode) (actions : List Action) :
    Holds localeCompare unicode view actions
      (view.get (SystemModelHook.run localeCompare unicode actions)).state := by
  induction actions using List.reverseRecOn with
  | nil =>
    intro data hdata
    rw [show SystemModelHook.run localeCompare unicode [] = {} from rfl, hlawful.initial] at hdata
    cases hdata
  | append_singleton actions action ih => exact holds_step hlawful ih

theorem inForce_runEffect {resource : ApiResource α} (inputs : HookInputs) (enabled : Bool)
    (h : InForce resource) : InForce (resource.runEffect (inputs.effectDeps enabled)) := by
  rw [ApiResource.runEffect]
  split_ifs
  · exact h
  · intro request hrequest
    cases hrequest
    exact ⟨rfl, rfl, rfl⟩
  · exact fun request hrequest => by cases hrequest

theorem inForce_run (hlawful : view.Lawful localeCompare unicode) (actions : List Action) :
    InForce (view.get (SystemModelHook.run localeCompare unicode actions)) := by
  induction actions using List.reverseRecOn with
  | nil =>
    intro request hrequest
    rw [show SystemModelHook.run localeCompare unicode [] = {} from rfl, hlawful.initial]
      at hrequest
    cases hrequest
  | append_singleton actions action ih =>
    rw [run_concat]
    rcases hlawful.step (SystemModelHook.run localeCompare unicode actions) action with
      heq | ⟨inputs, enabled, heq⟩ | ⟨attempt, result, -, heq⟩
    · rw [heq]
      exact ih
    · rw [heq]
      exact inForce_runEffect inputs enabled ih
    rw [heq]
    rcases settle_cases view.sourceOf
      (view.get (SystemModelHook.run localeCompare unicode actions)) attempt result with
      hsame | ⟨request, -, -, hsettled⟩
    · rw [hsame]
      exact ih
    · rw [hsettled]
      exact fun request hrequest => by cases hrequest

theorem isModelResource_of_received (hlawful : view.Lawful localeCompare unicode)
    (h : Received localeCompare unicode view actions request data) :
    request.isModelResource = true := by
  obtain ⟨before, -, hrequest⟩ := h
  exact (inForce_run hlawful before request hrequest).1

end

/-! Fetches of one attempt -/

/-- The resources of the pair run the same effects, in step. -/
structure InStep (hook : SystemModelHook) : Prop where
  attempt : hook.snapshot.attempt = hook.runtimeMap.attempt
  deps : hook.snapshot.deps = hook.runtimeMap.deps

/-- A later state of a resource, whose attempt tells its effect. -/
structure Later {α : Type} (earlier later : ApiResource α) : Prop where
  attempt : earlier.attempt ≤ later.attempt
  deps : earlier.attempt = later.attempt → earlier.deps = later.deps

section

variable {α : Type}

theorem Later.refl (resource : ApiResource α) : Later resource resource := ⟨le_rfl, fun _ => rfl⟩

theorem Later.trans {a b c : ApiResource α} (h : Later a b) (h' : Later b c) : Later a c where
  attempt := h.attempt.trans h'.attempt
  deps := fun heq =>
    have hab : a.attempt = b.attempt := le_antisymm h.attempt (heq ▸ h'.attempt)
    (h.deps hab).trans (h'.deps (hab.symm.trans heq))

theorem later_runEffect (resource : ApiResource α) {deps : EffectDeps}
    (henabled : deps.enabled = true) : Later resource (resource.runEffect deps) := by
  rw [ApiResource.runEffect, if_pos henabled]
  split_ifs
  · exact Later.refl resource
  · exact ⟨Nat.le_succ _, fun heq => absurd heq (Nat.lt_succ_self _).ne⟩

theorem settle_attempt_deps (sourceOf : α → Option RuntimeMode) (resource : ApiResource α)
    (attempt : ℕ) (result : Except String (Option α)) :
    (resource.settle sourceOf attempt result).attempt = resource.attempt ∧
      (resource.settle sourceOf attempt result).deps = resource.deps := by
  rcases settle_cases sourceOf resource attempt result with hsame | ⟨request, -, -, hsettled⟩
  · rw [hsame]
    exact ⟨rfl, rfl⟩
  · rw [hsettled]
    exact ⟨rfl, rfl⟩

end

theorem runEffect_attempt_deps {α β : Type} {left : ApiResource α} {right : ApiResource β}
    (hattempt : left.attempt = right.attempt) (hdeps : left.deps = right.deps)
    (deps : EffectDeps) :
    (left.runEffect deps).attempt = (right.runEffect deps).attempt ∧
      (left.runEffect deps).deps = (right.runEffect deps).deps := by
  rw [ApiResource.runEffect, ApiResource.runEffect, hdeps, hattempt]
  split_ifs
  · exact ⟨hattempt, hdeps⟩
  · exact ⟨rfl, rfl⟩
  · exact ⟨rfl, rfl⟩

variable (localeCompare unicode) in
theorem inStep_run (actions : List Action) :
    InStep (SystemModelHook.run localeCompare unicode actions) := by
  induction actions using List.reverseRecOn with
  | nil => exact ⟨rfl, rfl⟩
  | append_singleton actions action ih =>
    rw [run_concat]
    cases action with
    | render inputs => exact ⟨ih.attempt, ih.deps⟩
    | flushEffects =>
      cases hrendered : (SystemModelHook.run localeCompare unicode actions).rendered with
      | none =>
        rw [SystemModelHook.step, flushEffects_of_none hrendered]
        exact ih
      | some inputs =>
        rw [SystemModelHook.step, flushEffects_of_rendered hrendered]
        obtain ⟨hattempt, hdeps⟩ := runEffect_attempt_deps ih.attempt ih.deps
          (inputs.effectDeps true)
        exact ⟨hattempt, hdeps⟩
    | settleSnapshot attempt result =>
      obtain ⟨hattempt, hdeps⟩ := settle_attempt_deps DockerSnapshot.source
        (SystemModelHook.run localeCompare unicode actions).snapshot attempt result
      exact ⟨hattempt.trans ih.attempt, hdeps.trans ih.deps⟩
    | settleRuntimeMap attempt result =>
      obtain ⟨hattempt, hdeps⟩ := settle_attempt_deps RuntimeMap.source
        (SystemModelHook.run localeCompare unicode actions).runtimeMap attempt result
      exact ⟨ih.attempt.trans hattempt.symm, ih.deps.trans hdeps.symm⟩
    | settleFindings attempt result => exact ⟨ih.attempt, ih.deps⟩

theorem later_step (hook : SystemModelHook) (action : Action) :
    Later hook.snapshot (hook.step localeCompare unicode action).snapshot := by
  cases action with
  | render inputs => exact Later.refl _
  | flushEffects =>
    cases hrendered : hook.rendered with
    | none =>
      rw [SystemModelHook.step, flushEffects_of_none hrendered]
      exact Later.refl _
    | some inputs =>
      rw [SystemModelHook.step, flushEffects_of_rendered hrendered]
      exact later_runEffect hook.snapshot rfl
  | settleSnapshot attempt result =>
    obtain ⟨hattempt, hdeps⟩ :=
      settle_attempt_deps DockerSnapshot.source hook.snapshot attempt result
    exact ⟨hattempt.ge, fun _ => hdeps.symm⟩
  | settleRuntimeMap attempt result => exact Later.refl _
  | settleFindings attempt result => exact Later.refl _

theorem later_run {before after : List Action} (h : before <+: after) :
    Later (SystemModelHook.run localeCompare unicode before).snapshot
      (SystemModelHook.run localeCompare unicode after).snapshot := by
  obtain ⟨more, rfl⟩ := h
  induction more using List.reverseRecOn with
  | nil =>
    rw [List.append_nil]
    exact Later.refl _
  | append_singleton more action ih =>
    rw [← List.append_assoc, run_concat]
    exact ih.trans (later_step _ action)

/-- Bodies of one attempt were requested under the same dependencies, by one flush. -/
theorem request_eq {actions : List Action} {request request' : Request}
    {snapshot : DockerSnapshot} {runtimeMap : RuntimeMap}
    (h : Received localeCompare unicode snapshotView actions request snapshot)
    (h' : Received localeCompare unicode runtimeMapView actions request' runtimeMap)
    (hattempt : request.attempt = request'.attempt) : request = request' := by
  obtain ⟨before, hbefore, hrequest⟩ := h
  obtain ⟨before', hbefore', hrequest'⟩ := h'
  obtain ⟨-, hsent, hdeps⟩ :=
    inForce_run (lawful_snapshotView localeCompare unicode)
      before request hrequest
  obtain ⟨-, hsent', hdeps'⟩ :=
    inForce_run (lawful_runtimeMapView localeCompare unicode)
      before' request' hrequest'
  have hstep := inStep_run localeCompare unicode before'
  have hsame : (SystemModelHook.run localeCompare unicode before).snapshot.attempt =
      (SystemModelHook.run localeCompare unicode before').snapshot.attempt := by
    rw [hstep.attempt]
    exact hsent.symm.trans (hattempt.trans hsent')
  have hextends : before <+: actions := (List.prefix_append _ _).trans hbefore
  have hextends' : before' <+: actions := (List.prefix_append _ _).trans hbefore'
  have heq : (SystemModelHook.run localeCompare unicode before).snapshot.deps =
      (SystemModelHook.run localeCompare unicode before').snapshot.deps := by
    rcases List.prefix_or_prefix_of_prefix hextends hextends' with hle | hle
    · exact (later_run hle).deps hsame
    · exact ((later_run hle).deps hsame.symm).symm
  have hdeps_eq : some request.deps = some request'.deps :=
    hdeps.symm.trans (heq.trans (hstep.deps.trans hdeps'))
  cases request
  cases request'
  cases hattempt
  cases Option.some.inj hdeps_eq
  rfl

/-! Renders -/

section

variable (localeCompare : String → String → ℤ) (unicode : UnicodeTables) (pair : PairDeps)
  (deps : AtlasDeps) (refs : ModelRefs)

/-- What a render shows and keeps, whether or not a memo serves it. -/
def nextModel : Option PublishedModel :=
  (pair.coherent.map fun found =>
    buildPublishedModel localeCompare unicode found.1 found.2).or refs.lastModel

def nextAtlas : Option AtlasEnvelope :=
  (deps.toPairDeps.coherent.map fun found =>
    projectAtlas unicode found.2 (deps.findingsFor found.2.modelRevision)).or refs.lastAtlas

def nextProvenance : Option ModelProvenance :=
  if pair.coherent.isSome then pair.snapshotProvenance else refs.lastProvenance

/-- The provenance a render returns; there is none without both data. -/
def shownProvenance : Option ModelProvenance :=
  if pair.snapshot.isSome ∧ pair.runtimeMap.isSome then
    nextProvenance pair refs
  else none

def nextRefs : ModelRefs where
  lastModel := nextModel localeCompare unicode deps.toPairDeps refs
  lastAtlas := nextAtlas unicode deps refs
  lastProvenance := nextProvenance deps.toPairDeps refs
  model := some ⟨deps.toPairDeps, nextModel localeCompare unicode deps.toPairDeps refs⟩
  atlas := some ⟨deps, nextAtlas unicode deps refs⟩
  provenance := some ⟨deps.toPairDeps, shownProvenance deps.toPairDeps refs⟩

/-- A memo agrees with the references, so to serve it is to recompute it. -/
structure MemosFresh : Prop where
  model : ∀ memo ∈ refs.model, memo.value = refs.lastModel ∧
    nextModel localeCompare unicode memo.deps refs = refs.lastModel ∧
    nextProvenance memo.deps refs = refs.lastProvenance
  atlas : ∀ memo ∈ refs.atlas, memo.value = refs.lastAtlas ∧
    nextAtlas unicode memo.deps refs = refs.lastAtlas
  provenance : ∀ memo ∈ refs.provenance, memo.value = shownProvenance memo.deps refs

end

section

variable {pair : PairDeps} {deps : AtlasDeps} {refs : ModelRefs}

theorem served_eq_some {δ β : Type} [DecidableEq δ] {memo : Option (Memo δ β)} {deps : δ}
    {value : β} (h : served memo deps = some value) : memo = some ⟨deps, value⟩ := by
  obtain ⟨found, hfound, rfl⟩ := Option.map_eq_some_iff.1 h
  obtain ⟨hmemo, hdeps⟩ := Option.filter_eq_some_iff.1 hfound
  rw [hmemo, ← of_decide_eq_true hdeps]

theorem renderModel_eq (hfresh : MemosFresh localeCompare unicode refs) :
    renderModel localeCompare unicode pair refs =
      (nextModel localeCompare unicode pair refs,
        { refs with
          lastModel := nextModel localeCompare unicode pair refs
          lastProvenance := nextProvenance pair refs
          model := some ⟨pair, nextModel localeCompare unicode pair refs⟩ }) := by
  rw [renderModel]
  cases hserved : served refs.model pair with
  | some model =>
    have hmemo := served_eq_some hserved
    obtain ⟨hvalue, hmodel, hprovenance⟩ := hfresh.model _ hmemo
    cases refs
    cases hmemo
    simp only at hvalue hmodel hprovenance ⊢
    rw [hmodel, hprovenance, hvalue]
  | none =>
    rw [nextModel, nextProvenance]
    cases hcoherent : pair.coherent with
    | some found => rfl
    | none => rfl

theorem renderAtlas_eq
    (hfresh : ∀ memo ∈ refs.atlas, memo.value = refs.lastAtlas ∧
      nextAtlas unicode memo.deps refs = refs.lastAtlas) :
    renderAtlas unicode deps refs =
      (nextAtlas unicode deps refs,
        { refs with
          lastAtlas := nextAtlas unicode deps refs
          atlas := some ⟨deps, nextAtlas unicode deps refs⟩ }) := by
  rw [renderAtlas]
  cases hserved : served refs.atlas deps with
  | some atlas =>
    have hmemo := served_eq_some hserved
    obtain ⟨hvalue, hatlas⟩ := hfresh _ hmemo
    cases refs
    cases hmemo
    simp only at hvalue hatlas ⊢
    rw [hatlas, hvalue]
  | none =>
    rw [nextAtlas]
    cases hcoherent : deps.toPairDeps.coherent with
    | some found => rfl
    | none => rfl

theorem isSome_of_coherent {found : DockerSnapshot × RuntimeMap}
    (h : pair.coherent = some found) :
    pair.snapshot = some found.1 ∧ pair.runtimeMap = some found.2 := by
  unfold PairDeps.coherent at h
  split at h
  · rename_i snapshot runtimeMap hsnapshot hruntime
    split_ifs at h
    cases h
    exact ⟨hsnapshot, hruntime⟩
  · cases h

theorem provenanceOf_eq {kept : ModelRefs}
    (h : kept.lastProvenance = nextProvenance pair refs) :
    provenanceOf pair kept = shownProvenance pair refs := by
  rw [provenanceOf, shownProvenance, nextProvenance] at *
  cases hcoherent : pair.coherent with
  | some found =>
    obtain ⟨hsnapshot, hruntime⟩ := isSome_of_coherent hcoherent
    rw [hsnapshot, hruntime]
    rfl
  | none =>
    rw [hcoherent] at h
    cases hsnapshot : pair.snapshot with
    | none => rfl
    | some snapshot =>
      cases hruntime : pair.runtimeMap with
      | none => rfl
      | some runtimeMap => exact h

variable (refs) in
theorem renderProvenance_eq {kept : ModelRefs}
    (hfresh : ∀ memo ∈ kept.provenance, memo.value = shownProvenance memo.deps refs)
    (hkept : kept.lastProvenance = nextProvenance pair refs) :
    renderProvenance pair kept =
      (shownProvenance pair refs,
        { kept with provenance := some ⟨pair, shownProvenance pair refs⟩ }) := by
  rw [renderProvenance]
  cases hserved : served kept.provenance pair with
  | some provenance =>
    have hmemo := served_eq_some hserved
    have hvalue := hfresh _ hmemo
    cases kept
    cases hmemo
    simp only at hvalue ⊢
    rw [hvalue]
  | none =>
    dsimp only
    rw [provenanceOf_eq hkept]

end

variable (localeCompare unicode) in
/-- A render of a hook whose memos are fresh. -/
def shown (hook : SystemModelHook) (inputs : HookInputs) : SystemModelState :=
  let deps := hook.atlasDeps inputs.includeFindings
  let model := nextModel localeCompare unicode hook.pairDeps hook.refs
  let atlas := nextAtlas unicode deps hook.refs
  { model := model
    atlas := atlas
    findings := renderFindings deps model atlas
    modelProvenance := shownProvenance hook.pairDeps hook.refs
    loading := hook.snapshot.state.loading || hook.runtimeMap.state.loading
    error := hook.snapshot.state.error.or hook.runtimeMap.state.error }

theorem render_eq {hook : SystemModelHook} (inputs : HookInputs)
    (hfresh : MemosFresh localeCompare unicode hook.refs) :
    hook.render localeCompare unicode inputs =
      (shown localeCompare unicode hook inputs,
        { hook with
          rendered := some inputs
          refs := nextRefs localeCompare unicode (hook.atlasDeps inputs.includeFindings)
            hook.refs }) := by
  rw [SystemModelHook.render, renderModel_eq hfresh]
  dsimp only
  rw [renderAtlas_eq]
  · dsimp only
    rw [renderProvenance_eq hook.refs]
    · rfl
    · exact hfresh.provenance
    · rfl
  · exact hfresh.atlas

variable (localeCompare unicode) in
theorem memosFresh_nextRefs (deps : AtlasDeps) (refs : ModelRefs) :
    MemosFresh localeCompare unicode (nextRefs localeCompare unicode deps refs) where
  model memo hmemo := by
    cases hmemo
    refine ⟨rfl, ?_, ?_⟩
    · simp only [nextModel, nextRefs]
      cases deps.toPairDeps.coherent with
      | some found => rfl
      | none => rfl
    · simp only [nextProvenance, nextRefs]
      split_ifs
      · rfl
      · rfl
  atlas memo hmemo := by
    cases hmemo
    refine ⟨rfl, ?_⟩
    simp only [nextAtlas, nextRefs]
    cases deps.toPairDeps.coherent with
    | some found => rfl
    | none => rfl
  provenance memo hmemo := by
    cases hmemo
    simp only [shownProvenance, nextProvenance, nextRefs]
    split_ifs
    · rfl
    · rfl
    · rfl

variable (localeCompare unicode) in
theorem memosFresh_run (actions : List Action) :
    MemosFresh localeCompare unicode (SystemModelHook.run localeCompare unicode actions).refs := by
  induction actions using List.reverseRecOn with
  | nil =>
    exact ⟨fun _ hmemo => (by cases hmemo), fun _ hmemo => (by cases hmemo),
      fun _ hmemo => (by cases hmemo)⟩
  | append_singleton actions action ih =>
    rw [run_concat]
    cases action with
    | render inputs =>
      rw [SystemModelHook.step, render_eq inputs ih]
      exact memosFresh_nextRefs localeCompare unicode _ _
    | flushEffects =>
      cases hrendered : (SystemModelHook.run localeCompare unicode actions).rendered with
      | none =>
        rw [SystemModelHook.step, flushEffects_of_none hrendered]
        exact ih
      | some inputs =>
        rw [SystemModelHook.step, flushEffects_of_rendered hrendered]
        exact ih
    | settleSnapshot attempt result => exact ih
    | settleRuntimeMap attempt result => exact ih
    | settleFindings attempt result => exact ih

/-! What a model is composed of -/

section

variable (localeCompare unicode)

/-- Bodies of one attempt, with one stamp and one nonempty revision. -/
structure Accepted (actions : List Action) (snapshot : DockerSnapshot) (runtimeMap : RuntimeMap)
    (request : Request) : Prop where
  snapshotReceived : Received localeCompare unicode snapshotView actions request snapshot
  runtimeMapReceived : Received localeCompare unicode runtimeMapView actions request runtimeMap
  provenance : request.actualProvenance snapshot.source =
    request.actualProvenance runtimeMap.source
  revision : snapshot.modelRevision = runtimeMap.modelRevision
  nonempty : snapshot.modelRevision ≠ ""

/-- Findings of the revision that the daemon stamped, fetched outside Demo Mode. -/
structure LiveFindings (actions : List Action) (findings : FindingsResponse)
    (revision : String) : Prop where
  received : ∃ request, Received localeCompare unicode findingsView actions request findings ∧
    request.demoModeAtRequest = false
  source : findings.source = some .docker
  revision : findings.modelRevision = revision

/-- The model, the atlas and the provenance come from one accepted pair. -/
structure Composed (actions : List Action) (snapshot : DockerSnapshot) (runtimeMap : RuntimeMap)
    (request : Request) (refs : ModelRefs) : Prop where
  accepted : Accepted localeCompare unicode actions snapshot runtimeMap request
  model : refs.lastModel = some (buildPublishedModel localeCompare unicode snapshot runtimeMap)
  atlas : ∃ overlay, refs.lastAtlas = some (projectAtlas unicode runtimeMap overlay) ∧
    ∀ findings ∈ overlay, LiveFindings localeCompare unicode actions findings
      runtimeMap.modelRevision
  provenance : refs.lastProvenance = request.actualProvenance snapshot.source

structure Untouched (refs : ModelRefs) : Prop where
  model : refs.lastModel = none
  atlas : refs.lastAtlas = none
  provenance : refs.lastProvenance = none

end

section

variable {actions more : List Action} {snapshot : DockerSnapshot} {runtimeMap : RuntimeMap}
  {request : Request} {refs : ModelRefs}

theorem Accepted.mono (h : Accepted localeCompare unicode actions snapshot runtimeMap request)
    (hextends : actions <+: more) :
    Accepted localeCompare unicode more snapshot runtimeMap request :=
  { h with
    snapshotReceived := h.snapshotReceived.mono hextends
    runtimeMapReceived := h.runtimeMapReceived.mono hextends }

theorem LiveFindings.mono {findings : FindingsResponse} {revision : String}
    (h : LiveFindings localeCompare unicode actions findings revision)
    (hextends : actions <+: more) :
    LiveFindings localeCompare unicode more findings revision := by
  obtain ⟨request, hreceived, hdemo⟩ := h.received
  exact { h with received := ⟨request, hreceived.mono hextends, hdemo⟩ }

theorem Composed.mono (h : Composed localeCompare unicode actions snapshot runtimeMap request refs)
    (hextends : actions <+: more) :
    Composed localeCompare unicode more snapshot runtimeMap request refs := by
  obtain ⟨overlay, hatlas, hlive⟩ := h.atlas
  exact { h with
    accepted := h.accepted.mono hextends
    atlas := ⟨overlay, hatlas, fun findings hfindings => (hlive findings hfindings).mono hextends⟩ }

theorem actualProvenance_live {request : Request} {stamped : Option RuntimeMode}
    (hmodel : request.isModelResource = true)
    (h : request.actualProvenance stamped = some .live) :
    request.demoModeAtRequest = false ∧ stamped = some .docker := by
  simp only [Request.actualProvenance, hmodel, if_true] at h
  split at h
  · cases h
  rename_i hdemo
  split at h
  · exact ⟨Bool.eq_false_of_not_eq_true hdemo, rfl⟩
  · cases h
  · cases h

theorem sameNonEmptyModelRevision_iff {left right : String} :
    sameNonEmptyModelRevision left right = true ↔ left ≠ "" ∧ left = right := by
  rw [sameNonEmptyModelRevision, Bool.and_eq_true, decide_eq_true_eq, beq_iff_eq]

theorem coherent_eq_some {pair : PairDeps}
    (h : pair.coherent = some (snapshot, runtimeMap)) :
    pair.snapshot = some snapshot ∧ pair.runtimeMap = some runtimeMap ∧
      pair.snapshotGeneration = pair.runtimeMapGeneration ∧
      pair.snapshotProvenance = pair.runtimeMapProvenance ∧
      snapshot.modelRevision ≠ "" ∧ snapshot.modelRevision = runtimeMap.modelRevision := by
  obtain ⟨hsnapshot, hruntime⟩ := isSome_of_coherent h
  rw [PairDeps.coherent, hsnapshot, hruntime] at h
  dsimp only at h
  split_ifs at h with hgeneration hprovenance hrevision
  exact ⟨hsnapshot, hruntime, not_not.1 hgeneration, not_not.1 hprovenance,
    sameNonEmptyModelRevision_iff.1 hrevision⟩

/-- A pair that a render accepts is of one attempt. -/
theorem accepted_of_coherent
    (h : (SystemModelHook.run localeCompare unicode actions).pairDeps.coherent =
      some (snapshot, runtimeMap)) :
    ∃ request, Accepted localeCompare unicode actions snapshot runtimeMap request ∧
      (SystemModelHook.run localeCompare unicode actions).snapshot.state.provenance =
        request.actualProvenance snapshot.source := by
  obtain ⟨hsnapshot, hruntime, hgeneration, hprovenance, hnonempty, hrevision⟩ :=
    coherent_eq_some h
  obtain ⟨request, hreceived, hattempt, hstamp⟩ :=
    holds_run (lawful_snapshotView localeCompare unicode) actions snapshot hsnapshot
  obtain ⟨request', hreceived', hattempt', hstamp'⟩ :=
    holds_run (lawful_runtimeMapView localeCompare unicode) actions runtimeMap hruntime
  have hsame : request = request' := request_eq hreceived hreceived'
    (hattempt.symm.trans (hgeneration.trans hattempt'))
  subst hsame
  exact ⟨request, ⟨hreceived, hreceived', hstamp.symm.trans (hprovenance.trans hstamp'),
    hrevision, hnonempty⟩, hstamp⟩

theorem liveFindings_of_findingsFor {includeFindings : Bool} {revision : String}
    {findings : FindingsResponse}
    (h : ((SystemModelHook.run localeCompare unicode actions).atlasDeps
      includeFindings).findingsFor revision = some findings) :
    LiveFindings localeCompare unicode actions findings revision := by
  obtain ⟨hdata, hmatch⟩ := Option.filter_eq_some_iff.1 h
  simp only [Bool.and_eq_true, beq_iff_eq] at hmatch
  obtain ⟨⟨⟨⟨-, hlive⟩, -⟩, hprovenance⟩, hrevision⟩ := hmatch
  obtain ⟨request, hreceived, -, hstamp⟩ := holds_run (lawful_findingsView localeCompare unicode) actions
    findings hdata
  obtain ⟨hdemo, hsource⟩ := actualProvenance_live
    (isModelResource_of_received (lawful_findingsView localeCompare unicode) hreceived)
    (hstamp.symm.trans (hprovenance.trans hlive))
  exact ⟨⟨request, hreceived, hdemo⟩, hsource, (sameNonEmptyModelRevision_iff.1 hrevision).2⟩

variable (localeCompare unicode refs) in
theorem nextRefs_of_coherent {deps : AtlasDeps}
    (h : deps.toPairDeps.coherent = some (snapshot, runtimeMap)) :
    (nextRefs localeCompare unicode deps refs).lastModel =
        some (buildPublishedModel localeCompare unicode snapshot runtimeMap) ∧
      (nextRefs localeCompare unicode deps refs).lastAtlas =
        some (projectAtlas unicode runtimeMap (deps.findingsFor runtimeMap.modelRevision)) ∧
      (nextRefs localeCompare unicode deps refs).lastProvenance = deps.snapshotProvenance := by
  simp only [nextRefs, nextModel, nextAtlas, nextProvenance, h]
  exact ⟨rfl, rfl, rfl⟩

variable (localeCompare unicode refs) in
theorem nextRefs_of_incoherent {deps : AtlasDeps} (h : deps.toPairDeps.coherent = none) :
    (nextRefs localeCompare unicode deps refs).lastModel = refs.lastModel ∧
      (nextRefs localeCompare unicode deps refs).lastAtlas = refs.lastAtlas ∧
      (nextRefs localeCompare unicode deps refs).lastProvenance = refs.lastProvenance := by
  simp only [nextRefs, nextModel, nextAtlas, nextProvenance, h]
  exact ⟨rfl, rfl, rfl⟩

variable (localeCompare unicode) in
/-- Nothing was composed yet, or everything from one pair. -/
def Coherent (actions : List Action) (refs : ModelRefs) : Prop :=
  Untouched refs ∨ ∃ snapshot runtimeMap request,
    Composed localeCompare unicode actions snapshot runtimeMap request refs

theorem Coherent.mono (h : Coherent localeCompare unicode actions refs)
    (hextends : actions <+: more) : Coherent localeCompare unicode more refs := by
  rcases h with huntouched | ⟨snapshot, runtimeMap, request, hcomposed⟩
  · exact Or.inl huntouched
  · exact Or.inr ⟨snapshot, runtimeMap, request, hcomposed.mono hextends⟩

theorem coherent_nextRefs (includeFindings : Bool)
    (h : Coherent localeCompare unicode actions refs) :
    Coherent localeCompare unicode actions (nextRefs localeCompare unicode
      ((SystemModelHook.run localeCompare unicode actions).atlasDeps includeFindings) refs) := by
  cases hcoherent : (SystemModelHook.run localeCompare unicode actions).pairDeps.coherent with
  | some found =>
    obtain ⟨request, haccepted, hstamp⟩ := accepted_of_coherent hcoherent
    obtain ⟨hmodel, hatlas, hprovenance⟩ := nextRefs_of_coherent localeCompare unicode refs
      (show (SystemModelHook.atlasDeps _ includeFindings).toPairDeps.coherent = _ from hcoherent)
    exact Or.inr ⟨found.1, found.2, request, haccepted, hmodel,
      ⟨_, hatlas, fun findings hfindings => liveFindings_of_findingsFor hfindings⟩,
      hprovenance.trans hstamp⟩
  | none =>
    obtain ⟨hmodel, hatlas, hprovenance⟩ := nextRefs_of_incoherent
      localeCompare unicode refs
      (show (SystemModelHook.atlasDeps _ includeFindings).toPairDeps.coherent = _ from hcoherent)
    rcases h with huntouched | ⟨snapshot, runtimeMap, request, hcomposed⟩
    · exact Or.inl ⟨hmodel.trans huntouched.model, hatlas.trans huntouched.atlas,
        hprovenance.trans huntouched.provenance⟩
    · obtain ⟨overlay, hlast, hlive⟩ := hcomposed.atlas
      exact Or.inr ⟨snapshot, runtimeMap, request, hcomposed.accepted,
        hmodel.trans hcomposed.model, ⟨overlay, hatlas.trans hlast, hlive⟩,
        hprovenance.trans hcomposed.provenance⟩

variable (localeCompare unicode) in
theorem coherent_run (actions : List Action) :
    Coherent localeCompare unicode actions
      (SystemModelHook.run localeCompare unicode actions).refs := by
  induction actions using List.reverseRecOn with
  | nil => exact Or.inl ⟨rfl, rfl, rfl⟩
  | append_singleton actions action ih =>
    refine Coherent.mono ?_ (List.prefix_append actions [action])
    rw [run_concat]
    cases action with
    | render inputs =>
      rw [SystemModelHook.step, render_eq inputs (memosFresh_run localeCompare unicode actions)]
      exact coherent_nextRefs inputs.includeFindings ih
    | flushEffects =>
      cases hrendered : (SystemModelHook.run localeCompare unicode actions).rendered with
      | none =>
        rw [SystemModelHook.step, flushEffects_of_none hrendered]
        exact ih
      | some inputs =>
        rw [SystemModelHook.step, flushEffects_of_rendered hrendered]
        exact ih
    | settleSnapshot attempt result => exact ih
    | settleRuntimeMap attempt result => exact ih
    | settleFindings attempt result => exact ih

end

/-! What is shown -/

variable (localeCompare unicode) in
/-- In every render of every run, nothing is shown, or a model and an atlas of one accepted
pair, its provenance while both resources hold data, and live findings of its revision. -/
theorem model_coherent (actions : List Action) (inputs : HookInputs) :
    let hook := SystemModelHook.run localeCompare unicode actions
    let state := (hook.render localeCompare unicode inputs).1
    (state.model = none ∧ state.atlas = none ∧ state.findings = none ∧
      state.modelProvenance = none) ∨
    ∃ snapshot runtimeMap request,
      Accepted localeCompare unicode actions snapshot runtimeMap request ∧
      state.model = some (buildPublishedModel localeCompare unicode snapshot runtimeMap) ∧
      (∃ overlay, state.atlas = some (projectAtlas unicode runtimeMap overlay) ∧
        ∀ findings ∈ overlay, LiveFindings localeCompare unicode actions findings
          snapshot.modelRevision) ∧
      (∀ findings ∈ state.findings, LiveFindings localeCompare unicode actions findings
        snapshot.modelRevision) ∧
      state.modelProvenance =
        if hook.snapshot.state.data.isSome ∧ hook.runtimeMap.state.data.isSome then
          request.actualProvenance snapshot.source
        else none := by
  intro hook state
  have hfresh := memosFresh_run localeCompare unicode actions
  have hstate : state = shown localeCompare unicode hook inputs :=
    congrArg Prod.fst (render_eq inputs hfresh)
  have hcoherent := coherent_nextRefs inputs.includeFindings
    (coherent_run localeCompare unicode actions)
  -- what is shown is what the references hold after the render
  rw [hstate]
  rcases hcoherent with huntouched | ⟨snapshot, runtimeMap, request, hcomposed⟩
  · refine Or.inl ⟨huntouched.model, huntouched.atlas, ?_, ?_⟩
    · have hatlas : (shown localeCompare unicode hook inputs).atlas = none := huntouched.atlas
      simp only [shown] at hatlas ⊢
      rw [renderFindings, hatlas]
      split_ifs
      · rfl
      · rfl
    · have hprovenance : nextProvenance hook.pairDeps hook.refs = none := huntouched.provenance
      simp only [shown, shownProvenance, hprovenance, ite_self]
  · obtain ⟨overlay, hatlas, hlive⟩ := hcomposed.atlas
    have haccepted := hcomposed.accepted
    refine Or.inr ⟨snapshot, runtimeMap, request, haccepted, hcomposed.model,
      ⟨overlay, hatlas, ?_⟩, ?_, ?_⟩
    · rw [haccepted.revision]
      exact hlive
    · intro findings hfindings
      have hshown : (shown localeCompare unicode hook inputs).atlas =
        some (projectAtlas unicode runtimeMap overlay) := hatlas
      simp only [shown] at hshown hfindings
      rw [renderFindings, hshown] at hfindings
      split_ifs at hfindings
      · rw [haccepted.revision]
        exact liveFindings_of_findingsFor hfindings
      · cases hfindings
    · have hprovenance : nextProvenance hook.pairDeps hook.refs =
        request.actualProvenance snapshot.source := hcomposed.provenance
      simp only [shown, shownProvenance, hprovenance]
      rfl

section

def firstInputs : HookInputs := ⟨1, false, some .live, true⟩

def liveContainer (id name status : String) (dependsOn : List String) : ContainerRecord where
  id := id
  name := name
  image := "nginx"
  status := status
  role := name
  networks := []
  ports := []
  publishesOnUnspecifiedAddress := false
  mounts := []
  dependsOn := dependsOn

/-- A site and the database that it depends on. -/
def liveSnapshot : DockerSnapshot :=
  { containers := [liveContainer "a" "web" "Up 3 seconds" ["db"],
      liveContainer "b" "db" "Exited (1) 2 minutes ago" []]
    modelRevision := "r1"
    source := some .docker }

def liveRuntimeMap : RuntimeMap := { modelRevision := "r1", source := some .docker }

def firstPublication : List Action :=
  [.render firstInputs, .flushEffects, .settleSnapshot 1 (.ok (some liveSnapshot)),
    .settleRuntimeMap 1 (.ok (some liveRuntimeMap))]

theorem coherent_firstPublication :
    (SystemModelHook.run (fun _ _ => 0) ⟨id, id⟩ firstPublication).pairDeps.coherent =
      some (liveSnapshot, liveRuntimeMap) := by decide

theorem model_coherent_applied :
    ∃ snapshot runtimeMap request,
      Accepted (fun _ _ => 0) ⟨id, id⟩ firstPublication snapshot runtimeMap request ∧
      ((SystemModelHook.run (fun _ _ => 0) ⟨id, id⟩ firstPublication).render (fun _ _ => 0)
        ⟨id, id⟩ firstInputs).1.model =
          some (buildPublishedModel (fun _ _ => 0) ⟨id, id⟩ snapshot runtimeMap) := by
  rcases model_coherent (fun _ _ => 0) ⟨id, id⟩ firstPublication firstInputs with
    hnone | ⟨snapshot, runtimeMap, request, haccepted, hmodel, -⟩
  · have hmodel := hnone.1
    rw [render_eq firstInputs (memosFresh_run _ _ firstPublication)] at hmodel
    simp only [shown, nextModel, coherent_firstPublication] at hmodel
    cases hmodel
  · exact ⟨snapshot, runtimeMap, request, haccepted, hmodel⟩

end

/-! What a response leaves alone -/

/-- The fetch of the attempt was aborted, or never sent, or has settled. -/
def IsAborted {α : Type} (resource : ApiResource α) (attempt : ℕ) : Prop :=
  ∀ request ∈ resource.request, request.attempt ≠ attempt

/-- A fetch fails, or settles after its effect ran again. -/
def IsSilent (hook : SystemModelHook) : Action → Prop
  | .settleSnapshot attempt result =>
      IsAborted hook.snapshot attempt ∨ ∃ message, result = .error message
  | .settleRuntimeMap attempt result =>
      IsAborted hook.runtimeMap attempt ∨ ∃ message, result = .error message
  | .settleFindings attempt result =>
      IsAborted hook.findings attempt ∨ ∃ message, result = .error message
  | _ => False

def IsSettle : Action → Prop
  | .render _ => False
  | .flushEffects => False
  | _ => True

def IsFindings : Action → Prop
  | .settleFindings _ _ => True
  | _ => False

section

theorem settle_of_silent {α : Type} (sourceOf : α → Option RuntimeMode)
    {resource : ApiResource α} {attempt : ℕ} {result : Except String (Option α)}
    (h : IsAborted resource attempt ∨ ∃ message, result = .error message) :
    (resource.settle sourceOf attempt result).state.data = resource.state.data ∧
      (resource.settle sourceOf attempt result).state.generation = resource.state.generation ∧
      (resource.settle sourceOf attempt result).state.provenance = resource.state.provenance := by
  rcases settle_cases sourceOf resource attempt result with hsame | ⟨request, hrequest, hattempt, hsettled⟩
  · rw [hsame]
    exact ⟨rfl, rfl, rfl⟩
  · rcases h with haborted | ⟨message, rfl⟩
    · exact absurd hattempt (haborted request hrequest)
    · rw [hsettled]
      exact ⟨rfl, rfl, rfl⟩

theorem atlasDeps_of_silent {hook : SystemModelHook} {action : Action}
    (h : IsSilent hook action) (includeFindings : Bool) :
    (hook.step localeCompare unicode action).atlasDeps includeFindings =
      hook.atlasDeps includeFindings := by
  cases action with
  | render inputs => exact h.elim
  | flushEffects => exact h.elim
  | settleSnapshot attempt result =>
    obtain ⟨hdata, hgeneration, hprovenance⟩ :=
      settle_of_silent DockerSnapshot.source h
    simp only [SystemModelHook.step, SystemModelHook.atlasDeps, SystemModelHook.pairDeps, hdata,
      hgeneration, hprovenance]
  | settleRuntimeMap attempt result =>
    obtain ⟨hdata, hgeneration, hprovenance⟩ :=
      settle_of_silent RuntimeMap.source h
    simp only [SystemModelHook.step, SystemModelHook.atlasDeps, SystemModelHook.pairDeps, hdata,
      hgeneration, hprovenance]
  | settleFindings attempt result =>
    obtain ⟨hdata, hgeneration, hprovenance⟩ :=
      settle_of_silent FindingsResponse.source h
    simp only [SystemModelHook.step, SystemModelHook.atlasDeps, SystemModelHook.pairDeps, hdata,
      hgeneration, hprovenance]

theorem refs_of_settle {hook : SystemModelHook} {action : Action} (h : IsSettle action) :
    (hook.step localeCompare unicode action).refs = hook.refs := by
  cases action with
  | render inputs => exact h.elim
  | flushEffects => exact h.elim
  | settleSnapshot attempt result => rfl
  | settleRuntimeMap attempt result => rfl
  | settleFindings attempt result => rfl

/-- To render again on the same data shows the same. -/
theorem shown_again {hook : SystemModelHook} {deps : AtlasDeps} {refs : ModelRefs}
    {inputs : HookInputs} (hdeps : hook.atlasDeps inputs.includeFindings = deps)
    (hrefs : hook.refs = nextRefs localeCompare unicode deps refs) :
    (shown localeCompare unicode hook inputs).model =
        nextModel localeCompare unicode deps.toPairDeps refs ∧
      (shown localeCompare unicode hook inputs).atlas = nextAtlas unicode deps refs ∧
      (shown localeCompare unicode hook inputs).modelProvenance =
        shownProvenance deps.toPairDeps refs := by
  have hfresh := memosFresh_nextRefs localeCompare unicode deps refs
  have hpair : hook.pairDeps = deps.toPairDeps := congrArg AtlasDeps.toPairDeps hdeps
  obtain ⟨-, hmodel, -⟩ := hfresh.model _ rfl
  obtain ⟨-, hatlas⟩ := hfresh.atlas _ rfl
  simp only [shown, hdeps, hpair, hrefs]
  exact ⟨hmodel, hatlas, (hfresh.provenance _ rfl).symm⟩

theorem pairDeps_of_findings {hook : SystemModelHook} {action : Action}
    (h : IsFindings action) :
    (hook.step localeCompare unicode action).pairDeps = hook.pairDeps := by
  cases action with
  | settleFindings attempt result => rfl
  | _ => exact h.elim

variable (localeCompare unicode) in
/-- A failed or an aborted fetch changes nothing that is shown. A response after which the pair
does not match leaves the model and the atlas, and while there are data the provenance. Findings
leave the model and the provenance, and the atlas is of the same runtime map. -/
theorem settle_keeps (actions : List Action) (inputs : HookInputs) (action : Action)
    (hsettle : IsSettle action) :
    let before := (SystemModelHook.run localeCompare unicode actions).render localeCompare
      unicode inputs
    let hook := before.2.step localeCompare unicode action
    let after := hook.render localeCompare unicode inputs
    (IsSilent before.2 action → after.1.model = before.1.model ∧
      after.1.atlas = before.1.atlas ∧ after.1.findings = before.1.findings ∧
      after.1.modelProvenance = before.1.modelProvenance) ∧
    (hook.pairDeps.coherent = none → after.1.model = before.1.model ∧
      after.1.atlas = before.1.atlas ∧
      (before.2.snapshot.state.data.isSome ∧ before.2.runtimeMap.state.data.isSome →
        hook.snapshot.state.data.isSome ∧ hook.runtimeMap.state.data.isSome →
        after.1.modelProvenance = before.1.modelProvenance)) ∧
    (IsFindings action → after.1.model = before.1.model ∧
      after.1.modelProvenance = before.1.modelProvenance ∧
      (after.1.atlas = before.1.atlas ∨ ∃ runtimeMap overlay overlay',
        before.1.atlas = some (projectAtlas unicode runtimeMap overlay) ∧
        after.1.atlas = some (projectAtlas unicode runtimeMap overlay'))) := by
  intro before hook after
  have hfresh := memosFresh_run localeCompare unicode actions
  have hbefore := render_eq inputs hfresh
  set current := SystemModelHook.run localeCompare unicode actions with hcurrent
  set deps := current.atlasDeps inputs.includeFindings with hdeps
  have hrefs : hook.refs = nextRefs localeCompare unicode deps current.refs :=
    (refs_of_settle hsettle).trans (congrArg (fun shown => shown.2.refs) hbefore)
  have hheld : before.2.atlasDeps inputs.includeFindings = deps :=
    congrArg (fun shown => shown.2.atlasDeps inputs.includeFindings) hbefore
  have hshown : before.1 = shown localeCompare unicode current inputs :=
    congrArg Prod.fst hbefore
  have hafter : after.1 = shown localeCompare unicode hook inputs := by
    refine congrArg Prod.fst (render_eq inputs ?_)
    rw [hrefs]
    exact memosFresh_nextRefs localeCompare unicode deps current.refs
  rw [hshown, hafter]
  refine ⟨fun hsilent => ?_, fun hincoherent => ?_, fun hfindings => ?_⟩
  · have hsame : hook.atlasDeps inputs.includeFindings = deps :=
      (atlasDeps_of_silent hsilent inputs.includeFindings).trans hheld
    obtain ⟨hmodel, hatlas, hprovenance⟩ := shown_again hsame hrefs
    refine ⟨hmodel, hatlas, ?_, hprovenance⟩
    have hrender : (shown localeCompare unicode hook inputs).findings =
        renderFindings (hook.atlasDeps inputs.includeFindings)
          (shown localeCompare unicode hook inputs).model
          (shown localeCompare unicode hook inputs).atlas := rfl
    rw [hrender, hsame, hmodel, hatlas]
    rfl
  · obtain ⟨hmodel, hatlas, hprovenance⟩ := nextRefs_of_incoherent localeCompare unicode hook.refs
      (show (hook.atlasDeps inputs.includeFindings).toPairDeps.coherent = _ from hincoherent)
    have hlast : hook.refs.lastProvenance = nextProvenance deps.toPairDeps current.refs :=
      congrArg ModelRefs.lastProvenance hrefs
    refine ⟨hmodel.trans (congrArg ModelRefs.lastModel hrefs),
      hatlas.trans (congrArg ModelRefs.lastAtlas hrefs), fun hheldData hdata => ?_⟩
    have hsnapshot : before.2.snapshot = current.snapshot :=
      congrArg (fun shown => shown.2.snapshot) hbefore
    have hruntime : before.2.runtimeMap = current.runtimeMap :=
      congrArg (fun shown => shown.2.runtimeMap) hbefore
    rw [hsnapshot, hruntime] at hheldData
    exact (if_pos hdata).trans (hprovenance.trans (hlast.trans (if_pos hheldData).symm))
  · have hpair : hook.pairDeps = deps.toPairDeps :=
      (pairDeps_of_findings hfindings).trans (congrArg AtlasDeps.toPairDeps hheld)
    have hmemos := memosFresh_nextRefs localeCompare unicode deps current.refs
    obtain ⟨-, hmodel, -⟩ := hmemos.model _ rfl
    have hprovenance := hmemos.provenance _ rfl
    refine ⟨?_, ?_, ?_⟩
    · simp only [shown, hpair, hrefs]
      exact hmodel
    · simp only [shown, hpair, hrefs]
      exact hprovenance.symm
    cases hcoherent : deps.toPairDeps.coherent with
    | none =>
      obtain ⟨-, hatlas, -⟩ := nextRefs_of_incoherent localeCompare unicode hook.refs
        (show (hook.atlasDeps inputs.includeFindings).toPairDeps.coherent = _ from
          (congrArg PairDeps.coherent hpair).trans hcoherent)
      exact Or.inl (hatlas.trans (congrArg ModelRefs.lastAtlas hrefs))
    | some found =>
      obtain ⟨-, hatlas, -⟩ := nextRefs_of_coherent localeCompare unicode current.refs hcoherent
      obtain ⟨-, hatlas', -⟩ := nextRefs_of_coherent localeCompare unicode hook.refs
        (show (hook.atlasDeps inputs.includeFindings).toPairDeps.coherent = _ from
          (congrArg PairDeps.coherent hpair).trans hcoherent)
      exact Or.inr ⟨found.2, _, _, hatlas, hatlas'⟩

def secondInputs : HookInputs := { firstInputs with refreshTick := 2 }

def secondRefresh : List Action :=
  firstPublication ++ [.render secondInputs, .flushEffects]

def nextSnapshot : Action :=
  .settleSnapshot 2 (.ok (some { liveSnapshot with modelRevision := "r2" }))

theorem incoherent_nextSnapshot :
    ((SystemModelHook.run (fun _ _ => 0) ⟨id, id⟩ secondRefresh).step (fun _ _ => 0) ⟨id, id⟩
      nextSnapshot).pairDeps.coherent = none := by decide

/-- Only the snapshot of the next publication has arrived. -/
theorem settle_keeps_applied :
    let before := (SystemModelHook.run (fun _ _ => 0) ⟨id, id⟩ secondRefresh).render
      (fun _ _ => 0) ⟨id, id⟩ secondInputs
    let hook := before.2.step (fun _ _ => 0) ⟨id, id⟩ nextSnapshot
    (hook.render (fun _ _ => 0) ⟨id, id⟩ secondInputs).1.model = before.1.model := by
  intro before hook
  have hbefore := render_eq secondInputs (memosFresh_run (fun _ _ => 0) ⟨id, id⟩ secondRefresh)
  have hincoherent : hook.pairDeps.coherent = none := by
    simp only [hook, before, hbefore]
    exact incoherent_nextSnapshot
  exact ((settle_keeps (fun _ _ => 0) ⟨id, id⟩ secondRefresh secondInputs nextSnapshot
    trivial).2.1 hincoherent).1

end

end DockerMap.Web
