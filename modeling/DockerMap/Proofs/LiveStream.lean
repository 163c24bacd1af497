import DockerMap.Lib.Runs
import DockerMap.Web.DaemonHeartbeat

/-! One event stream and the browser that listens to it. The browser shows what some health
payload of the last polled revision says, unless a poll failed between two polls of one
revision: the stream holds the second snapshot back, and the interruption stays. -/

namespace DockerMap.LiveStream

open Api (PollResult EventsStream)
open Web (DaemonHeartbeat interrupted)
open Runs (Steps)

/-! The stream and its browser -/

/-- `polls` are sent and not settled; `settled` are the results that reached the open stream,
each with the number of its poll, in the order of their arrival. -/
structure State where
  stream : EventsStream := {}
  heartbeat : DaemonHeartbeat := {}
  started : ℕ := 0
  polls : List ℕ := []
  settled : List (ℕ × PollResult) := []
  deriving DecidableEq

inductive Action
  | tick
  | settle (poll : ℕ) (result : PollResult)
  | expireSession
  | disconnect
  deriving DecidableEq

section

variable (toLowerCase : String → String)

def tick (s : State) : State :=
  let (stream, sent) := Api.beginEmit s.stream
  if sent then
    { s with stream := stream, polls := s.polls ++ [s.started], started := s.started + 1 }
  else { s with stream := stream }

/-- The events are written and heard in order. -/
def settle (s : State) (poll : ℕ) (result : PollResult) : State :=
  let (stream, events) := Api.finishEmit toLowerCase s.stream result
  { s with
    stream := stream
    heartbeat := events.foldl Web.onEvent s.heartbeat
    polls := s.polls.filter (· ≠ poll)
    settled := if stream.ended then s.settled else s.settled ++ [(poll, result)] }

/-- Only a poll in flight settles. -/
def step (s : State) : Action → Option State
  | .tick => some (tick s)
  | .settle poll result => if poll ∈ s.polls then some (settle toLowerCase s poll result) else none
  | .expireSession => some { s with stream := { s.stream with validSession := false } }
  | .disconnect => some { s with stream := { s.stream with ended := true } }

/-- Every health payload carries a model revision. -/
def CarriesRevision (_ : State) (action : Action) : Prop :=
  match action with
  | .settle _ (.health payload) => payload.modelRevision ≠ ""
  | _ => True

instance (s : State) (action : Action) : Decidable (CarriesRevision s action) := by
  unfold CarriesRevision
  split <;> infer_instance

def State.results (s : State) : List PollResult := s.settled.map Prod.snd

/-! What the claim asks of a state -/

def SameReading (shown payload : HealthResponse) : Prop :=
  shown.status = payload.status ∧ shown.dockerReachable = payload.dockerReachable ∧
    shown.message = payload.message

/-- A payload of the revision among the results reads as what is shown. -/
def Shows (results : List PollResult) (revision : String) (shown : Option HealthResponse) : Prop :=
  ∃ payload, .health payload ∈ results ∧ payload.modelRevision = revision ∧
    ∃ health ∈ shown, SameReading health (Api.publishHealth toLowerCase payload)

/-- The results came in the order of their polls, and after a successful poll the browser
shows a payload of its revision. -/
structure Reflects (s : State) : Prop where
  ordered : (s.settled.map Prod.fst).Pairwise (· < ·)
  shown : ∀ health, s.results.getLast? = some (.health health) →
    Shows toLowerCase s.results health.modelRevision s.heartbeat.health

/-- The payload reads as an interruption of itself. -/
def ReadsInterrupted (payload : HealthResponse) : Prop :=
  SameReading (interrupted (Api.publishHealth toLowerCase payload))
    (Api.publishHealth toLowerCase payload)

/-- No poll fails between the last payload before it and a payload of the same revision, unless
a payload of that revision reads as an interruption. -/
def RecoversAt (results : List PollResult) (second : HealthResponse) : Prop :=
  ∀ (before : List PollResult) (first : HealthResponse) (failures : List (Option Api.ApiError)),
    results = before ++ .health first :: failures.map .failed → failures ≠ [] →
    first.modelRevision = second.modelRevision →
    ∃ payload, .health payload ∈ results ++ [.health second] ∧
      payload.modelRevision = second.modelRevision ∧ ReadsInterrupted toLowerCase payload

def NoSilentRecovery (results : List PollResult) : Prop :=
  ∀ before second, before ++ [.health second] <+: results → RecoversAt toLowerCase before second

/-! What the results make of the two ends -/

/-- The last emitted revision and the health shown. -/
def observe (view : Option String × Option HealthResponse) :
    PollResult → Option String × Option HealthResponse
  | .health payload =>
      if some payload.modelRevision = view.1 then view
      else (some payload.modelRevision, some (Api.publishHealth toLowerCase payload))
  | .failed _ => (view.1, view.2.map interrupted)

def view (results : List PollResult) : Option String × Option HealthResponse :=
  results.foldl (observe toLowerCase) (none, none)

theorem view_concat (results : List PollResult) (result : PollResult) :
    view toLowerCase (results ++ [result]) =
      observe toLowerCase (view toLowerCase results) result := by
  rw [view, List.foldl_append]
  rfl

theorem view_failures (results : List PollResult) {failures : List (Option Api.ApiError)}
    (h : failures ≠ []) : view toLowerCase (results ++ failures.map .failed) =
      ((view toLowerCase results).1, (view toLowerCase results).2.map interrupted) := by
  induction failures using List.reverseRecOn with
  | nil => exact absurd rfl h
  | append_singleton failures failure ih =>
    rw [List.map_append, ← List.append_assoc, List.map_singleton, view_concat]
    rcases eq_or_ne failures [] with rfl | hne
    · rw [List.map_nil, List.append_nil]
      rfl
    · rw [ih hne, observe, Option.map_map]
      rfl

theorem view_failures_revision (results : List PollResult) (failures : List (Option Api.ApiError)) :
    (view toLowerCase (results ++ failures.map .failed)).1 = (view toLowerCase results).1 := by
  rcases eq_or_ne failures [] with rfl | hne
  · rw [List.map_nil, List.append_nil]
  · rw [view_failures toLowerCase results hne]

theorem view_revision (before : List PollResult) (health : HealthResponse) :
    (view toLowerCase (before ++ [.health health])).1 = some health.modelRevision := by
  rw [view_concat, observe]
  split_ifs with h
  · exact h.symm
  · rfl

/-! The last payload among the results -/

theorem last_health (results : List PollResult) :
    (∃ failures : List (Option Api.ApiError), results = failures.map .failed) ∨
      ∃ (before : List PollResult) (health : HealthResponse) (failures : List (Option Api.ApiError)),
        results = before ++ .health health :: failures.map .failed := by
  induction results using List.reverseRecOn with
  | nil => exact Or.inl ⟨[], rfl⟩
  | append_singleton results result ih =>
    cases result with
    | health payload => exact Or.inr ⟨results, payload, [], rfl⟩
    | failed body =>
      rcases ih with ⟨failures, rfl⟩ | ⟨before, health, failures, rfl⟩
      · exact Or.inl ⟨failures ++ [body], by simp⟩
      · exact Or.inr ⟨before, health, failures ++ [body], by simp⟩

theorem last_health_unique {before before' : List PollResult} {health health' : HealthResponse}
    {failures failures' : List (Option Api.ApiError)}
    (h : before ++ .health health :: failures.map .failed =
      before' ++ .health health' :: failures'.map .failed) :
    before = before' ∧ health = health' ∧ failures = failures' := by
  induction failures using List.reverseRecOn generalizing failures' with
  | nil =>
    cases failures' using List.reverseRecOn with
    | nil =>
      obtain ⟨hbefore, hhealth⟩ := List.append_inj' h rfl
      cases hhealth
      exact ⟨hbefore, rfl, rfl⟩
    | append_singleton failures' body =>
      rw [List.map_append, ← List.cons_append, ← List.append_assoc] at h
      cases (List.append_inj' h rfl).2
  | append_singleton failures failure ih =>
    rw [List.map_append, ← List.cons_append, ← List.append_assoc] at h
    cases failures' using List.reverseRecOn with
    | nil => cases (List.append_inj' h rfl).2
    | append_singleton failures' body =>
      rw [List.map_append, ← List.cons_append, ← List.append_assoc] at h
      obtain ⟨hinit, hlast⟩ := List.append_inj' h rfl
      cases hlast
      obtain ⟨hbefore, hhealth, rfl⟩ := ih hinit
      exact ⟨hbefore, hhealth, rfl⟩

/-! The health shown after each prefix of the results -/

def ShownThroughout (results : List PollResult) : Prop :=
  ∀ before health, before ++ [.health health] <+: results →
    Shows toLowerCase (before ++ [.health health]) health.modelRevision
      (view toLowerCase (before ++ [.health health])).2

theorem forall_prefix_concat {P : List PollResult → HealthResponse → Prop}
    {results : List PollResult} {result : PollResult} :
    (∀ before health, before ++ [.health health] <+: results ++ [result] → P before health) ↔
      (∀ before health, before ++ [.health health] <+: results → P before health) ∧
        ∀ health, result = .health health → P results health := by
  constructor
  · intro h
    refine ⟨fun before health hpre => h before health (hpre.trans (List.prefix_append _ _)), ?_⟩
    rintro health rfl
    exact h results health (List.prefix_refl _)
  · rintro ⟨hinit, hlast⟩ before health hpre
    rcases List.prefix_concat_iff.1 hpre with heq | hpre
    · obtain ⟨rfl, hresult⟩ := List.append_inj' heq rfl
      exact hlast health (List.singleton_inj.1 hresult).symm
    · exact hinit before health hpre

/-- The payload of the poll itself is shown, or the last one of its revision before. -/
theorem shows_iff_recovers {results : List PollResult} (h : ShownThroughout toLowerCase results)
    (second : HealthResponse) :
    Shows toLowerCase (results ++ [.health second]) second.modelRevision
        (view toLowerCase (results ++ [.health second])).2 ↔
      RecoversAt toLowerCase results second := by
  have hfresh : some second.modelRevision ≠ (view toLowerCase results).1 →
      Shows toLowerCase (results ++ [.health second]) second.modelRevision
        (view toLowerCase (results ++ [.health second])).2 := by
    intro hne
    rw [view_concat, observe, if_neg hne]
    exact ⟨second, by simp, rfl, _, rfl, rfl, rfl, rfl⟩
  rcases last_health results with ⟨failures, rfl⟩ | ⟨before, first, failures, rfl⟩
  · have hnone : (view toLowerCase (failures.map .failed)).1 = none :=
      view_failures_revision toLowerCase [] failures
    refine iff_of_true (hfresh (by rw [hnone]; exact Option.some_ne_none _)) ?_
    intro before first failures' heq
    have hmem : PollResult.health first ∈ failures.map .failed := by rw [heq]; simp
    obtain ⟨_, -, hbody⟩ := List.mem_map.1 hmem
    cases hbody
  · have hsplit : before ++ .health first :: failures.map .failed =
        (before ++ [.health first]) ++ failures.map .failed := by simp
    have hrevision : (view toLowerCase (before ++ .health first :: failures.map .failed)).1 =
        some first.modelRevision := by
      rw [hsplit, view_failures_revision, view_revision]
    by_cases hsame : first.modelRevision = second.modelRevision
    · obtain ⟨payload, hmem, hpayload, health, hshown, hreading⟩ :=
        h before first (by rw [hsplit]; exact List.prefix_append _ _)
      -- the snapshot is held back
      rw [view_concat, observe, if_pos (hrevision.trans (congrArg some hsame)).symm]
      rcases eq_or_ne failures [] with rfl | hne
      · refine iff_of_true ?_ fun before' first' failures' heq hne => ?_
        · exact ⟨payload, List.mem_append_left _ hmem, hpayload.trans hsame, health, hshown,
            hreading⟩
        · exact absurd (last_health_unique heq).2.2.symm hne
      · rw [hsplit, view_failures toLowerCase _ hne, Option.mem_def.1 hshown]
        constructor
        · rintro ⟨payload', hmem', hrevision', _, hinterrupted, hreading'⟩ _ _ _ _ _ _
          cases hinterrupted
          exact ⟨payload', hmem', hrevision', hreading'⟩
        · intro hrecovers
          obtain ⟨payload', hmem', hrevision', hreading'⟩ :=
            hrecovers before first failures hsplit.symm hne hsame
          exact ⟨payload', hmem', hrevision', _, rfl, hreading'⟩
    · refine iff_of_true (hfresh (by rw [hrevision]; simpa using Ne.symm hsame)) ?_
      intro before' first' failures' heq _ hsame'
      rw [← (last_health_unique heq).2.1] at hsame'
      exact absurd hsame' hsame

theorem shown_iff_recovers (results : List PollResult) :
    ShownThroughout toLowerCase results ↔ NoSilentRecovery toLowerCase results := by
  induction results using List.reverseRecOn with
  | nil =>
    have hnil : ∀ before health, ¬ before ++ [PollResult.health health] <+: [] := by
      intro before health hpre
      have hempty := List.prefix_nil.1 hpre
      cases before <;> cases hempty
    exact ⟨fun _ before health hpre => absurd hpre (hnil before health),
      fun _ before health hpre => absurd hpre (hnil before health)⟩
  | append_singleton results result ih =>
    rw [ShownThroughout, NoSilentRecovery, forall_prefix_concat, forall_prefix_concat]
    constructor
    · rintro ⟨hshown, hlast⟩
      exact ⟨ih.1 hshown, fun health heq =>
        (shows_iff_recovers toLowerCase hshown health).1 (hlast health heq)⟩
    · rintro ⟨hrecovers, hlast⟩
      have hshown := ih.2 hrecovers
      exact ⟨hshown, fun health heq =>
        (shows_iff_recovers toLowerCase hshown health).2 (hlast health heq)⟩

/-! Runs -/

variable {toLowerCase}

theorem settle_of_ended {s : State} (poll : ℕ) (result : PollResult)
    (h : (s.stream.ended || !s.stream.validSession) = true) :
    settle toLowerCase s poll result =
      { s with
        stream := { s.stream with busy := false, ended := true }
        polls := s.polls.filter (· ≠ poll) } := by
  unfold settle Api.finishEmit
  rw [if_pos h]
  rfl

theorem onSnapshot_health (heartbeat : DaemonHeartbeat) (message : HealthResponse) :
    (Web.onSnapshot heartbeat message).health = some message := by
  unfold Web.onSnapshot
  dsimp only
  split_ifs <;> rfl

/-- What reaches an open stream moves the two ends as it moves the view. -/
theorem settle_of_open {s : State} {poll : ℕ} {result : PollResult}
    (h : (s.stream.ended || !s.stream.validSession) = false)
    (hrevision : CarriesRevision s (.settle poll result)) :
    (settle toLowerCase s poll result).settled = s.settled ++ [(poll, result)] ∧
      (settle toLowerCase s poll result).stream.busy = false ∧
      ((settle toLowerCase s poll result).stream.lastEmittedRevision,
        (settle toLowerCase s poll result).heartbeat.health) =
        observe toLowerCase (s.stream.lastEmittedRevision, s.heartbeat.health) result := by
  have hopen : s.stream.ended = false := (Bool.or_eq_false_iff.1 h).1
  unfold settle Api.finishEmit
  rw [if_neg (ne_true_of_eq_false h)]
  cases result with
  | failed body =>
    dsimp only
    rw [hopen]
    exact ⟨rfl, rfl, rfl⟩
  | health payload =>
    dsimp only
    rw [observe]
    by_cases hsame : some payload.modelRevision = s.stream.lastEmittedRevision
    · rw [if_pos (Or.inr hsame), if_pos hsame]
      dsimp only
      rw [hopen]
      exact ⟨rfl, rfl, rfl⟩
    · rw [if_neg (not_or_intro hrevision hsame), if_neg hsame]
      simp only [List.foldl_cons, List.foldl_nil, Web.onEvent, onSnapshot_health, hopen]
      exact ⟨rfl, trivial, trivial⟩

variable (toLowerCase) in
/-- At most one poll is in flight, and it is younger than all that settled. -/
structure Inv (s : State) : Prop where
  polls : (s.stream.busy = false ∧ s.polls = []) ∨
    (s.stream.busy = true ∧ ∃ poll, s.polls = [poll] ∧ poll < s.started ∧
      ∀ entry ∈ s.settled, entry.1 < poll)
  bound : ∀ entry ∈ s.settled, entry.1 < s.started
  ordered : (s.settled.map Prod.fst).Pairwise (· < ·)
  view : (s.stream.lastEmittedRevision, s.heartbeat.health) = view toLowerCase s.results

theorem inv_init : Inv toLowerCase {} where
  polls := Or.inl ⟨rfl, rfl⟩
  bound := fun _ h => absurd h List.not_mem_nil
  ordered := List.Pairwise.nil
  view := rfl

/-- A tick sends a poll or changes nothing but the end of the stream. -/
theorem tick_cases (s : State) :
    (s.stream.busy = false ∧ tick s = { s with
        stream := { s.stream with busy := true }
        polls := s.polls ++ [s.started]
        started := s.started + 1 }) ∨
      ∃ ended, tick s = { s with stream := { s.stream with ended := ended } } := by
  unfold tick Api.beginEmit
  by_cases hbusy : (s.stream.busy || s.stream.ended) = true
  · rw [if_pos hbusy]
    exact Or.inr ⟨s.stream.ended, rfl⟩
  · rw [if_neg hbusy]
    by_cases hsession : (!s.stream.validSession) = true
    · rw [if_pos hsession]
      exact Or.inr ⟨true, rfl⟩
    · rw [if_neg hsession]
      rw [Bool.not_eq_true, Bool.or_eq_false_iff] at hbusy
      exact Or.inl ⟨hbusy.1, rfl⟩

theorem inv_tick {s : State} (h : Inv toLowerCase s) :
    Inv toLowerCase (tick s) := by
  rcases tick_cases s with ⟨hbusy, htick⟩ | ⟨ended, htick⟩
  · have hpolls : s.polls = [] := by
      rcases h.polls with ⟨-, hpolls⟩ | ⟨htrue, -⟩
      · exact hpolls
      · rw [hbusy] at htrue
        cases htrue
    rw [htick]
    exact {
      polls := Or.inr ⟨rfl, s.started, by rw [hpolls]; rfl, Nat.lt_succ_self _, h.bound⟩
      bound := fun entry hentry => (h.bound entry hentry).trans (Nat.lt_succ_self _)
      ordered := h.ordered
      view := h.view }
  · rw [htick]
    exact { polls := h.polls, bound := h.bound, ordered := h.ordered, view := h.view }

theorem inv_settle {s : State} {poll : ℕ} {result : PollResult} (hpoll : poll ∈ s.polls)
    (hrevision : CarriesRevision s (.settle poll result))
    (h : Inv toLowerCase s) :
    Inv toLowerCase (settle toLowerCase s poll result) := by
  obtain ⟨hpolls, hstarted, hyounger⟩ : s.polls = [poll] ∧ poll < s.started ∧
      ∀ entry ∈ s.settled, entry.1 < poll := by
    rcases h.polls with ⟨-, hnil⟩ | ⟨-, only, honly, hstarted, hyounger⟩
    · rw [hnil] at hpoll
      exact absurd hpoll List.not_mem_nil
    · rw [honly, List.mem_singleton] at hpoll
      subst hpoll
      exact ⟨honly, hstarted, hyounger⟩
  have hnone : s.polls.filter (· ≠ poll) = [] := by simp [hpolls]
  cases hopen : s.stream.ended || !s.stream.validSession with
  | true =>
    rw [settle_of_ended poll result hopen]
    exact { polls := Or.inl ⟨rfl, hnone⟩, bound := h.bound, ordered := h.ordered, view := h.view }
  | false =>
    obtain ⟨hsettled, hbusy, hview⟩ := settle_of_open hopen hrevision
    refine { polls := Or.inl ⟨hbusy, hnone⟩, bound := ?_, ordered := ?_, view := ?_ }
    · rw [hsettled]
      intro entry hentry
      rcases List.mem_append.1 hentry with hentry | hentry
      · exact h.bound entry hentry
      · rw [List.mem_singleton.1 hentry]
        exact hstarted
    · rw [hsettled, List.map_append, List.pairwise_append]
      refine ⟨h.ordered, List.pairwise_singleton _ _, ?_⟩
      intro earlier hearlier later hlater
      obtain ⟨entry, hentry, rfl⟩ := List.mem_map.1 hearlier
      rw [List.map_singleton, List.mem_singleton] at hlater
      rw [hlater]
      exact hyounger entry hentry
    · have hresults : (settle toLowerCase s poll result).results = s.results ++ [result] := by
        rw [State.results, hsettled, List.map_append]
        rfl
      rw [hview, h.view, hresults, view_concat]

theorem inv_step {s s' : State} {action : Action} (hrevision : CarriesRevision s action)
    (hstep : step toLowerCase s action = some s') (h : Inv toLowerCase s) :
    Inv toLowerCase s' := by
  cases action with
  | tick =>
    cases hstep
    exact inv_tick h
  | settle poll result =>
    obtain ⟨hpoll, hsettle⟩ := Option.ite_none_right_eq_some.1 hstep
    cases hsettle
    exact inv_settle hpoll hrevision h
  | expireSession =>
    cases hstep
    exact { polls := h.polls, bound := h.bound, ordered := h.ordered, view := h.view }
  | disconnect =>
    cases hstep
    exact { polls := h.polls, bound := h.bound, ordered := h.ordered, view := h.view }

theorem results_step {s s' : State} {action : Action} (hstep : step toLowerCase s action = some s') :
    s'.results = s.results ∨ ∃ result, s'.results = s.results ++ [result] := by
  cases action with
  | tick =>
    cases hstep
    rcases tick_cases s with ⟨-, htick⟩ | ⟨_, htick⟩ <;>
    · rw [htick]
      exact Or.inl rfl
  | settle poll result =>
    obtain ⟨-, hsettle⟩ := Option.ite_none_right_eq_some.1 hstep
    cases hsettle
    rw [State.results, settle]
    dsimp only
    split_ifs
    · exact Or.inl rfl
    · exact Or.inr ⟨result, by rw [List.map_append]; rfl⟩
  | expireSession =>
    cases hstep
    exact Or.inl rfl
  | disconnect =>
    cases hstep
    exact Or.inl rfl

theorem inv_run {es : List Action} {s : State}
    (h : Steps (step toLowerCase) CarriesRevision {} es s) : Inv toLowerCase s :=
  h.invariant (fun _ _ _ hrevision hstep => inv_step hrevision hstep) inv_init

/-- Every prefix of the results is what some prefix of the run left. -/
theorem exists_run_of_prefix {es : List Action} {s : State}
    (h : Steps (step toLowerCase) CarriesRevision {} es s) {results : List PollResult}
    (hpre : results <+: s.results) :
    ∃ es' s', es' <+: es ∧ Steps (step toLowerCase) CarriesRevision {} es' s' ∧
      s'.results = results := by
  induction h with
  | nil => exact ⟨[], {}, List.nil_prefix, Steps.nil, (List.prefix_nil.1 hpre).symm⟩
  | @snoc s' s'' es action hrun hrevision hstep ih =>
    have hearlier : results <+: s'.results → ∃ es' t, es' <+: es ++ [action] ∧
        Steps (step toLowerCase) CarriesRevision {} es' t ∧ t.results = results := fun hpre => by
      obtain ⟨es', t, hes, hsteps, hresults⟩ := ih hpre
      exact ⟨es', t, hes.trans (List.prefix_append _ _), hsteps, hresults⟩
    rcases results_step hstep with hsame | ⟨result, hresult⟩
    · exact hearlier (hsame ▸ hpre)
    · rw [hresult] at hpre
      rcases List.prefix_concat_iff.1 hpre with heq | hpre
      · exact ⟨es ++ [action], s'', List.prefix_refl _, hrun.snoc hrevision hstep,
          hresult.trans heq.symm⟩
      · exact hearlier hpre

theorem results_run {s s' : State} {es : List Action}
    (h : Steps (step toLowerCase) CarriesRevision s es s') : s.results <+: s'.results :=
  h.invariant (I := fun t => s.results <+: t.results) (fun _ _ _ _ hstep hpre => by
    rcases results_step hstep with hsame | ⟨result, hresult⟩
    · rw [hsame]
      exact hpre
    · rw [hresult]
      exact hpre.trans (List.prefix_append _ _)) (List.prefix_refl _)

/-- The state after a run reflects its last result when the results show it throughout. -/
theorem reflects_of_shown {es : List Action} {s : State}
    (h : Steps (step toLowerCase) CarriesRevision {} es s)
    (hshown : ShownThroughout toLowerCase s.results) : Reflects toLowerCase s where
  ordered := (inv_run h).ordered
  shown := by
    intro health hlast
    obtain ⟨before, hresults⟩ := List.getLast?_eq_some_iff.1 hlast
    have hview := congrArg Prod.snd (inv_run h).view
    dsimp only at hview
    rw [hview, hresults]
    exact hshown before health (by rw [hresults])

/-- In every state of a run the results came in order and the browser shows a payload of the
last polled revision, if and only if no poll failed between two payloads of one revision. -/
theorem reflects_iff_no_silent_recovery {es : List Action} {s : State}
    (h : Steps (step toLowerCase) CarriesRevision {} es s) :
    (∀ es' s', es' <+: es → Steps (step toLowerCase) CarriesRevision {} es' s' →
      Reflects toLowerCase s') ↔ NoSilentRecovery toLowerCase s.results := by
  rw [← shown_iff_recovers]
  constructor
  · intro hreflects before health hpre
    obtain ⟨es', s', hes, hrun, hresults⟩ := exists_run_of_prefix h hpre
    have hshown := (hreflects es' s' hes hrun).shown health (by rw [hresults, List.getLast?_concat])
    have hview := congrArg Prod.snd (inv_run hrun).view
    dsimp only at hview
    rwa [hview, hresults] at hshown
  · rintro hshown es' s' ⟨rest, rfl⟩ hrun
    obtain ⟨t, hfirst, hrest⟩ := h.split
    obtain rfl := hrun.unique hfirst
    refine reflects_of_shown hrun fun before health hpre => hshown before health ?_
    exact hpre.trans (results_run hrest)

end

/-! A poll that fails between two payloads of one revision -/

def liveHealth : HealthResponse where
  status := .ok
  mode := .docker
  dockerReachable := true
  lastUpdated := 4
  snapshotVersion := "live"
  modelRevision := "test-revision"
  message := none

def interruptedRun : List Action :=
  [.tick, .settle 0 (.health liveHealth), .tick, .settle 1 (.failed none), .tick,
    .settle 2 (.health liveHealth)]

def interruptedState : State where
  stream := { lastEmittedRevision := some "test-revision" }
  heartbeat :=
    { tick := 1
      health := some (interrupted liveHealth)
      lastStreamRevision := some "test-revision" }
  started := 3
  settled := [(0, .health liveHealth), (1, .failed none), (2, .health liveHealth)]

theorem interruptedRun_steps :
    Steps (step id) CarriesRevision {} interruptedRun interruptedState :=
  Steps.of_run (by decide)

/-- The third poll succeeds and the browser still shows the interruption. -/
theorem interruption_stays :
    ¬ ∀ (toLowerCase : String → String) (es : List Action) (s : State),
      Steps (step toLowerCase) CarriesRevision {} es s → Reflects toLowerCase s := by
  intro hreflects
  have hshown := (hreflects id interruptedRun interruptedState interruptedRun_steps).shown
    liveHealth rfl
  obtain ⟨payload, hmem, -, health, hhealth, hstatus, -⟩ := hshown
  cases hhealth
  have hpayload : payload = liveHealth := by
    simp only [State.results, interruptedState, List.map_cons, List.map_nil, List.mem_cons,
      PollResult.health.injEq, reduceCtorEq, List.not_mem_nil, or_false, false_or, or_self] at hmem
    exact hmem
  rw [hpayload] at hstatus
  cases hstatus

theorem interruptedRun_reflects :
    Steps (step id) CarriesRevision {} interruptedRun interruptedState ∧
      ((∀ es' s', es' <+: interruptedRun → Steps (step id) CarriesRevision {} es' s' →
        Reflects id s') ↔ NoSilentRecovery id interruptedState.results) :=
  ⟨interruptedRun_steps, reflects_iff_no_silent_recovery interruptedRun_steps⟩

end DockerMap.LiveStream
