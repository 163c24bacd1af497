import DockerMap.Proofs.Impact
import DockerMap.Proofs.ModelCoherence
import DockerMap.Web.Copilot

/-! What the Copilot may say of a model: a claim about the host only about bytes that a daemon
stamped as Docker's, a claim about samples of samples, and no name that is not a service's. -/

namespace DockerMap.Web

open Atlas (UnicodeTables)
open JavaScript (trimUnits)
open SystemModelHook (Action)

/-! Answers -/

def NamesService (model : PublishedModel) (ref : String) : Prop :=
  ∃ service ∈ model.services, service.name = ref

/-- The kinds of evidence that an authority may claim. -/
def Authority.Admits : Authority → EvidenceKind → Prop
  | .host, kind => kind = .derived ∨ kind = .inferred ∨ kind = .unavailable
  | .sample, kind => kind = .demo ∨ kind = .unavailable
  | .unresolved, kind => kind = .unavailable

structure Truthful (model : PublishedModel) (authority : Authority) (answer : CopilotAnswer) :
    Prop where
  evidence : authority.Admits answer.evidence
  resolved : answer.authorityUnresolved = false
  references : ∀ ref ∈ answer.references, NamesService model ref

/-- The records of the model that an answer looks up are among its services. -/
structure Indexed (model : PublishedModel) : Prop where
  byId : ∀ id service, model.byId.get? id = some service → service ∈ model.services
  dependents : ∀ service ∈ model.services, ∀ id ∈ service.dependents,
    (model.byId.get? id).isSome = true

section

variable {unicode : UnicodeTables} {numbers : NumberTables} {model : PublishedModel}
  {q lower : List ℕ} {authority : Authority} {service : Service}

theorem admits_evidenceFor (hauthority : authority ≠ .unresolved) {kind : EvidenceKind}
    (hkind : kind = .derived ∨ kind = .inferred) : authority.Admits (evidenceFor kind authority) := by
  cases authority with
  | host => exact hkind.imp_right Or.inl
  | sample => exact Or.inl rfl
  | unresolved => exact absurd rfl hauthority

theorem namesService_of_mem (h : service ∈ model.services) : NamesService model service.name :=
  ⟨service, h, rfl⟩

theorem namesService_of_sublist {services : List Service} (h : services ⊆ model.services) :
    ∀ ref ∈ services.map Service.name, NamesService model ref := by
  intro ref href
  obtain ⟨service, hservice, rfl⟩ := List.mem_map.1 href
  exact namesService_of_mem (h hservice)

theorem truthful_derived (hauthority : authority ≠ .unresolved) {headline : String}
    {body references : List String} (h : ∀ ref ∈ references, NamesService model ref) :
    Truthful model authority (derivedAnswer q authority headline body references) :=
  ⟨admits_evidenceFor hauthority (Or.inl rfl), rfl, h⟩

theorem truthful_unavailable {answer : CopilotAnswer} (hevidence : answer.evidence = .unavailable)
    (hresolved : answer.authorityUnresolved = false) (hreferences : answer.references = []) :
    Truthful model authority answer where
  evidence := by
    rw [hevidence]
    cases authority with
    | host => exact Or.inr (Or.inr rfl)
    | sample => exact Or.inr rfl
    | unresolved => rfl
  resolved := hresolved
  references := by
    rw [hreferences]
    exact fun _ href => absurd href List.not_mem_nil

theorem truthful_unhealthyAnswer (hauthority : authority ≠ .unresolved) :
    Truthful model authority (unhealthyAnswer unicode model q authority) := by
  unfold unhealthyAnswer
  dsimp only
  split
  · exact truthful_derived hauthority fun _ href => absurd href List.not_mem_nil
  split
  · split
    · exact truthful_derived hauthority fun _ href => absurd href List.not_mem_nil
    · exact truthful_derived hauthority (namesService_of_sublist (List.filter_subset_self _))
  · exact truthful_derived hauthority (namesService_of_sublist (List.filter_subset_self _))

theorem namesService_dependentNames (hindexed : Indexed model) (hservice : service ∈ model.services) :
    ∀ name ∈ dependentNames model service, NamesService model name := by
  intro name hname
  obtain ⟨id, hid, rfl⟩ := List.mem_map.1 hname
  obtain ⟨found, hfound⟩ := Option.isSome_iff_exists.1 (hindexed.dependents service hservice id hid)
  rw [hfound]
  exact namesService_of_mem (hindexed.byId id found hfound)

theorem truthful_dependentsAnswer (hauthority : authority ≠ .unresolved)
    (hindexed : Indexed model) (hservice : service ∈ model.services) :
    Truthful model authority (dependentsAnswer model q authority service) := by
  have hself : ∀ ref ∈ [service.name], NamesService model ref := by
    simpa using namesService_of_mem hservice
  unfold dependentsAnswer
  dsimp only
  split
  · exact truthful_derived hauthority hself
  · exact truthful_derived hauthority (List.forall_mem_cons.2
      ⟨namesService_of_mem hservice, namesService_dependentNames hindexed hservice⟩)

theorem truthful_whyOfflineAnswer (hauthority : authority ≠ .unresolved)
    (hindexed : Indexed model) (hservice : service ∈ model.services) :
    Truthful model authority (whyOfflineAnswer unicode model q authority service) := by
  unfold whyOfflineAnswer
  split
  · exact truthful_derived hauthority (by simpa using namesService_of_mem hservice)
  · refine ⟨admits_evidenceFor hauthority (Or.inr rfl), rfl, ?_⟩
    refine List.forall_mem_cons.2 ⟨namesService_of_mem hservice, fun ref href => ?_⟩
    obtain ⟨upstream, hupstream, rfl⟩ := List.mem_map.1 href
    obtain ⟨id, -, hfound⟩ := List.mem_filterMap.1 (List.mem_of_mem_filter hupstream)
    exact namesService_of_mem (hindexed.byId id upstream hfound)

theorem truthful_portAnswer (hauthority : authority ≠ .unresolved) :
    Truthful model authority (portAnswer model q authority numbers lower) := by
  have hdups : ∀ {services : List Service}, services ⊆ model.services →
      ∀ ref ∈ (services.map Service.name).eraseDups, NamesService model ref :=
    fun hsubset ref href => namesService_of_sublist hsubset ref (List.mem_eraseDups.1 href)
  unfold portAnswer
  split
  · exact truthful_derived hauthority (namesService_of_sublist (List.Subset.refl _))
  dsimp only
  split
  · split
    · exact truthful_derived hauthority fun _ href => absurd href List.not_mem_nil
    · exact truthful_derived hauthority (hdups (List.filter_subset_self _))
  split
  · exact truthful_derived hauthority fun _ href => absurd href List.not_mem_nil
  · exact truthful_derived hauthority (hdups (List.append_subset.2
      ⟨List.filter_subset_self _, List.filter_subset_self _⟩))

theorem truthful_recentChangeAnswer (mode : Option EvidenceMode)
    (provenance : Option ModelProvenance) (history : Option Json) :
    Truthful model authority
      (recentChangeAnswer model q authority mode provenance history) := by
  unfold recentChangeAnswer
  split
  · exact truthful_unavailable rfl rfl rfl
  split
  · exact truthful_unavailable rfl rfl rfl
  rename_i hhost
  have hadmits : authority.Admits .derived := by
    rw [not_not.1 hhost]
    exact Or.inl rfl
  split
  · exact ⟨hadmits, rfl, fun _ href => absurd href List.not_mem_nil⟩
  · exact ⟨hadmits, rfl, fun _ href => absurd href List.not_mem_nil⟩

theorem truthful_serviceOverviewAnswer (hauthority : authority ≠ .unresolved)
    (hservice : service ∈ model.services) :
    Truthful model authority (serviceOverviewAnswer unicode q authority service) :=
  truthful_derived hauthority (by simpa using namesService_of_mem hservice)

theorem mem_of_findService (h : findService unicode model lower = some service) :
    service ∈ model.services := by
  unfold findService at h
  refine (List.foldlRecOn (motive := fun best : Option Service =>
    ∀ found ∈ best, found ∈ model.services) model.services _ (fun _ hnone => by cases hnone)
    fun best hbest candidate hcandidate found hfound => ?_) service h
  rw [Option.mem_def] at hfound
  split at hfound
  · cases best with
    | none =>
      cases hfound
      exact hcandidate
    | some other =>
      dsimp only at hfound
      split at hfound
      · cases hfound
        exact hcandidate
      · cases hfound
        exact hbest found rfl
  · exact hbest found hfound

variable (unicode numbers) in
/-- An answer to a question whose authority is resolved. -/
theorem truthful_answer (hindexed : Indexed model) (raw : List ℕ) (mode : Option EvidenceMode)
    (provenance : Option ModelProvenance) (history : Option Json)
    (hauthority : authorityOf mode provenance ≠ .unresolved) :
    Truthful model (authorityOf mode provenance)
      (answer unicode numbers model raw mode provenance history) := by
  unfold answer
  dsimp only
  rw [if_neg hauthority]
  split
  · split
    · exact truthful_unhealthyAnswer hauthority
    split
    · exact truthful_portAnswer hauthority
    split
    · exact truthful_recentChangeAnswer mode provenance history
    split
    · exact truthful_unavailable rfl rfl rfl
    · exact truthful_derived hauthority fun _ href => absurd href List.not_mem_nil
  · rename_i named hnamed
    have hservice := mem_of_findService hnamed
    split
    · exact truthful_dependentsAnswer hauthority hindexed hservice
    split
    · exact truthful_whyOfflineAnswer hauthority hindexed hservice
    split
    · exact truthful_portAnswer hauthority
    split
    · exact truthful_recentChangeAnswer mode provenance history
    split
    · exact truthful_unavailable rfl rfl rfl
    · exact truthful_serviceOverviewAnswer hauthority hservice

end

/-! Models -/

theorem indexed_buildPublishedModel (localeCompare : String → String → ℤ)
    (unicode : UnicodeTables) (snapshot : DockerSnapshot) (runtimeMap : RuntimeMap) :
    Indexed (buildPublishedModel localeCompare unicode snapshot runtimeMap) where
  byId id service h := (get?_byId.1 h).1
  dependents service hservice id hid := by
    obtain ⟨container, -, rfl⟩ := List.mem_map.1 hservice
    obtain ⟨source, hsource, hsemantic, rfl, -⟩ := mem_dependentsById.1 hid
    obtain ⟨_, _, _, hget⟩ := exists_service
      ((isSemanticSource_iff (List.mem_map_of_mem hsource)).1 hsemantic)
    exact Option.isSome_iff_exists.2 ⟨_, hget⟩

/-! What an authority rests on -/

/-- The setting, the daemon's health and the bytes of a pair that an authority claims. -/
def Authority.RestsOn (demoMode : Bool) (healthMode : Option RuntimeMode) (request : Request)
    (snapshot : DockerSnapshot) (runtimeMap : RuntimeMap) : Authority → Prop
  | .host => demoMode = false ∧ healthMode = some .docker ∧ request.demoModeAtRequest = false ∧
      snapshot.source = some .docker ∧ runtimeMap.source = some .docker
  | .sample => (demoMode = true ∧ request.demoModeAtRequest = true) ∨
      (demoMode = false ∧ healthMode = some .mock ∧ request.demoModeAtRequest = false ∧
        snapshot.source = some .mock ∧ runtimeMap.source = some .mock)
  | .unresolved => True

section

variable {demoMode : Bool} {healthMode : Option RuntimeMode} {request : Request}

theorem resolveEvidenceMode_live (h : resolveEvidenceMode demoMode healthMode = some .live) :
    demoMode = false ∧ healthMode = some .docker := by
  unfold resolveEvidenceMode at h
  split at h
  · cases h
  rename_i hdemo
  split at h
  · exact ⟨Bool.eq_false_of_not_eq_true hdemo, rfl⟩
  · cases h
  · cases h

theorem resolveEvidenceMode_mock (h : resolveEvidenceMode demoMode healthMode = some .mock) :
    demoMode = false ∧ healthMode = some .mock := by
  unfold resolveEvidenceMode at h
  split at h
  · cases h
  rename_i hdemo
  split at h
  · cases h
  · exact ⟨Bool.eq_false_of_not_eq_true hdemo, rfl⟩
  · cases h

theorem resolveEvidenceMode_demo (h : resolveEvidenceMode demoMode healthMode = some .demo) :
    demoMode = true := by
  unfold resolveEvidenceMode at h
  split at h
  · assumption
  split at h
  · cases h
  · cases h
  · cases h

theorem actualProvenance_demo {stamped : Option RuntimeMode}
    (h : request.actualProvenance stamped = some .demo) : request.demoModeAtRequest = true := by
  unfold Request.actualProvenance at h
  split at h
  · assumption
  split at h
  · cases h
  · cases h
  · split at h
    · cases h
    · cases h

theorem actualProvenance_mock {stamped : Option RuntimeMode}
    (h : request.actualProvenance stamped = some .mock) :
    request.demoModeAtRequest = false ∧ stamped = some .mock := by
  unfold Request.actualProvenance at h
  split at h
  · cases h
  rename_i hdemo
  split at h
  · cases h
  · exact ⟨Bool.eq_false_of_not_eq_true hdemo, rfl⟩
  · split at h
    · cases h
    · cases h

theorem authorityOf_cases (mode : Option EvidenceMode) (provenance : Option ModelProvenance) :
    (authorityOf mode provenance = .host ∧ mode = some .live ∧ provenance = some .live) ∨
      (authorityOf mode provenance = .sample ∧
        (mode = some .demo ∧ provenance = some .demo ∨
          mode = some .mock ∧ provenance = some .mock)) ∨
      authorityOf mode provenance = .unresolved := by
  unfold authorityOf
  split
  · exact Or.inl ⟨rfl, rfl, rfl⟩
  · exact Or.inr (Or.inl ⟨rfl, Or.inl ⟨rfl, rfl⟩⟩)
  · exact Or.inr (Or.inl ⟨rfl, Or.inr ⟨rfl, rfl⟩⟩)
  · exact Or.inr (Or.inr rfl)

variable (demoMode healthMode) in
/-- The stamps of an accepted pair agree, so both bodies carry what the authority says. -/
theorem restsOn_authorityOf {localeCompare : String → String → ℤ} {unicode : UnicodeTables}
    {actions : List Action} {snapshot : DockerSnapshot} {runtimeMap : RuntimeMap}
    (haccepted : Accepted localeCompare unicode actions snapshot runtimeMap request)
    {provenance : Option ModelProvenance}
    (hprovenance : ∀ found ∈ provenance, request.actualProvenance snapshot.source = some found) :
    (authorityOf (resolveEvidenceMode demoMode healthMode) provenance).RestsOn demoMode healthMode
      request snapshot runtimeMap := by
  have hmodel := isModelResource_of_received (lawful_snapshotView localeCompare unicode)
    haccepted.snapshotReceived
  rcases authorityOf_cases (resolveEvidenceMode demoMode healthMode) provenance with
    ⟨hhost, hmode, hfound⟩ | ⟨hsample, ⟨hmode, hfound⟩ | ⟨hmode, hfound⟩⟩ | hunresolved
  · rw [hhost]
    obtain ⟨hdemo, hhealth⟩ := resolveEvidenceMode_live hmode
    have hstamp := hprovenance _ hfound
    obtain ⟨hrequest, hsnapshot⟩ := actualProvenance_live hmodel hstamp
    exact ⟨hdemo, hhealth, hrequest, hsnapshot,
      (actualProvenance_live hmodel (haccepted.provenance.symm.trans hstamp)).2⟩
  · rw [hsample]
    exact Or.inl ⟨resolveEvidenceMode_demo hmode, actualProvenance_demo (hprovenance _ hfound)⟩
  · rw [hsample]
    obtain ⟨hdemo, hhealth⟩ := resolveEvidenceMode_mock hmode
    have hstamp := hprovenance _ hfound
    obtain ⟨hrequest, hsnapshot⟩ := actualProvenance_mock hstamp
    exact Or.inr ⟨hdemo, hhealth, hrequest, hsnapshot,
      (actualProvenance_mock (haccepted.provenance.symm.trans hstamp)).2⟩
  · rw [hunresolved]
    exact trivial

end

/-! What the screen says -/

theorem answer_of_unresolved {unicode : UnicodeTables} (numbers : NumberTables)
    (model : PublishedModel) (raw : List ℕ) {mode : Option EvidenceMode}
    {provenance : Option ModelProvenance} (history : Option Json)
    (h : authorityOf mode provenance = .unresolved) :
    answer unicode numbers model raw mode provenance history = refusal (trimUnits raw) := by
  unfold answer
  dsimp only
  rw [if_pos h]

variable (localeCompare : String → String → ℤ) (unicode : UnicodeTables) (numbers : NumberTables)

/-- In every render of every run, an answer is computed from the model of an accepted pair, under
an authority that the pair's stamps, the setting and the daemon's health all give; it claims no
other evidence, names nothing but services, and refuses where no authority is established. -/
theorem copilot_within_authority (actions : List Action) (refreshTick : ℕ) (demoMode : Bool)
    (healthMode : Option RuntimeMode) (submitted : List ℕ) (history : Option Json) :
    let mode := resolveEvidenceMode demoMode healthMode
    let state := ((SystemModelHook.run localeCompare unicode actions).render localeCompare unicode
      (shellInputs refreshTick demoMode healthMode)).1
    ∀ result ∈ copilotResult unicode numbers state submitted mode history,
      ∃ snapshot runtimeMap request,
        Accepted localeCompare unicode actions snapshot runtimeMap request ∧
        result = answer unicode numbers
          (buildPublishedModel localeCompare unicode snapshot runtimeMap) submitted mode
          state.modelProvenance history ∧
        (authorityOf mode state.modelProvenance).RestsOn demoMode healthMode request snapshot
          runtimeMap ∧
        (authorityOf mode state.modelProvenance).Admits result.evidence ∧
        (∀ ref ∈ result.references, NamesService
          (buildPublishedModel localeCompare unicode snapshot runtimeMap) ref) ∧
        (result.authorityUnresolved = true ↔
          authorityOf mode state.modelProvenance = .unresolved) ∧
        (authorityOf mode state.modelProvenance = .unresolved →
          result = refusal (trimUnits submitted)) := by
  intro mode state result hresult
  have hstate : state = shown localeCompare unicode (SystemModelHook.run localeCompare unicode
      actions) (shellInputs refreshTick demoMode healthMode) :=
    congrArg Prod.fst (render_eq _ (memosFresh_run localeCompare unicode actions))
  unfold copilotResult at hresult
  split at hresult
  · cases hresult
  obtain ⟨model, hmodel, hanswer⟩ := Option.map_eq_some_iff.1 hresult
  rcases coherent_nextRefs true (coherent_run localeCompare unicode actions) with
    huntouched | ⟨snapshot, runtimeMap, request, hcomposed⟩
  · have hnone : state.model = none := by
      rw [hstate]
      exact huntouched.model
    rw [hnone] at hmodel
    cases hmodel
  have hbuilt : model = buildPublishedModel localeCompare unicode snapshot runtimeMap := by
    have hshown : state.model = some (buildPublishedModel localeCompare unicode snapshot
        runtimeMap) := by
      rw [hstate]
      exact hcomposed.model
    exact Option.some.inj (hmodel.symm.trans hshown)
  have hprovenance : ∀ found ∈ state.modelProvenance,
      request.actualProvenance snapshot.source = some found := by
    intro found hfound
    have hlast : nextProvenance (SystemModelHook.run localeCompare unicode actions).pairDeps
        (SystemModelHook.run localeCompare unicode actions).refs =
          request.actualProvenance snapshot.source := hcomposed.provenance
    rw [hstate] at hfound
    simp only [shown, shownProvenance, hlast] at hfound
    split at hfound
    · exact hfound
    · cases hfound
  have hrests := restsOn_authorityOf demoMode healthMode hcomposed.accepted hprovenance
  subst hbuilt
  refine ⟨snapshot, runtimeMap, request, hcomposed.accepted, hanswer.symm, hrests, ?_⟩
  by_cases hauthority : authorityOf mode state.modelProvenance = .unresolved
  · have hrefusal : result = refusal (trimUnits submitted) :=
      hanswer.symm.trans (answer_of_unresolved numbers _ submitted history hauthority)
    rw [hauthority, hrefusal]
    exact ⟨rfl, fun _ href => absurd href List.not_mem_nil, by simp [refusal], fun _ => rfl⟩
  · obtain ⟨hevidence, hresolved, hreferences⟩ := truthful_answer unicode numbers
      (indexed_buildPublishedModel localeCompare unicode snapshot runtimeMap)
      submitted mode state.modelProvenance history hauthority
    rw [← hanswer]
    refine ⟨hevidence, hreferences, ?_, fun h => absurd h hauthority⟩
    rw [hresolved]
    exact ⟨fun h => absurd h Bool.false_ne_true, fun h => absurd h hauthority⟩

def firstState : SystemModelState :=
  ((SystemModelHook.run (fun _ _ => 0) ⟨id, id⟩ firstPublication).render (fun _ _ => 0) ⟨id, id⟩
    (shellInputs 1 false (some .docker))).1

theorem firstState_eq :
    firstState = shown (fun _ _ => 0) ⟨id, id⟩
      (SystemModelHook.run (fun _ _ => 0) ⟨id, id⟩ firstPublication)
      (shellInputs 1 false (some .docker)) :=
  congrArg Prod.fst (render_eq _ (memosFresh_run (fun _ _ => 0) ⟨id, id⟩ firstPublication))

/-- A live publication is answered for as the host's. -/
theorem copilot_within_authority_applied :
    ∃ result, copilotResult ⟨id, id⟩ ⟨fun _ => none, fun _ => ""⟩ firstState
        (JavaScript.codeUnits "anything wrong") (some .live) none = some result ∧
      result.authorityUnresolved = false := by
  have hquestion : trimUnits (JavaScript.codeUnits "anything wrong") ≠ [] := by decide
  have hlive : firstState.modelProvenance = some .live := by
    rw [firstState_eq]
    decide
  obtain ⟨model, hmodel⟩ : ∃ model, firstState.model = some model := by
    rw [firstState_eq]
    simp only [shown, nextModel, coherent_firstPublication]
    exact ⟨_, rfl⟩
  obtain ⟨result, hresult⟩ : ∃ result, copilotResult ⟨id, id⟩ ⟨fun _ => none, fun _ => ""⟩
      firstState (JavaScript.codeUnits "anything wrong") (some .live) none = some result := by
    rw [copilotResult, if_neg hquestion, hmodel]
    exact ⟨_, rfl⟩
  refine ⟨result, hresult, ?_⟩
  obtain ⟨-, -, -, -, -, -, -, -, hresolved, -⟩ := copilot_within_authority (fun _ _ => 0) ⟨id, id⟩
    ⟨fun _ => none, fun _ => ""⟩ firstPublication 1 false (some .docker)
    (JavaScript.codeUnits "anything wrong") none result hresult
  refine Bool.eq_false_of_not_eq_true fun htrue => ?_
  have hunresolved : authorityOf (some .live) firstState.modelProvenance = .unresolved :=
    hresolved.1 htrue
  rw [hlive] at hunresolved
  cases hunresolved

end DockerMap.Web
