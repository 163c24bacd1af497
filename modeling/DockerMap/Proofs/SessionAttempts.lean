import DockerMap.Api.SessionAttempts
import DockerMap.Lib.Text

/-! The limit holds in a run as long as the table never gives up a source that has attempts
left in its window. -/

namespace DockerMap.Api

open Runs

namespace SessionAttempts

variable {s s' : SessionAttempts} {request : AttemptRequest} {source : String} {now : ℕ}

/-- The times of the attempts of a source that were let through. -/
def admittedTimes (outcomes : List AttemptOutcome) (source : String) : List ℕ :=
  (outcomes.filter fun o => o.source = source ∧ o.admitted).map AttemptOutcome.time

def admittedWithin (outcomes : List AttemptOutcome) (source : String) (first last : ℕ) : ℕ :=
  (admittedTimes outcomes source).countP fun time => first ≤ time ∧ time < last

/-- Every attempt that was refused came after as many of its own source as one window admits. -/
def RefusesOnlyBusy (outcomes : List AttemptOutcome) : Prop :=
  ∀ before o after, outcomes = before ++ o :: after → o.admitted = false →
    maxSessionAttemptsPerWindow ≤
      ((admittedTimes before o.source).filter (isRecent o.time)).length

/-- If the step evicts a source, none of its attempts is in the window any more. -/
def ForgetsNothing (s : SessionAttempts) (request : AttemptRequest) : Prop :=
  request.limited = true → s.sessionAttemptsBySource.isFullFor request.source = true →
    ∀ oldest ∈ s.sessionAttemptsBySource.first?,
      oldest ≠ "" ∧ s.sessionAttemptsBySource.recent oldest request.now = []

instance (s : SessionAttempts) (request : AttemptRequest) : Decidable (ForgetsNothing s request) :=
  inferInstanceAs (Decidable (_ → _ → _))

/-! The window -/

theorem isRecent_of_le {now later attempt : ℕ} (hle : now ≤ later)
    (h : isRecent later attempt = true) : isRecent now attempt = true := by
  simp only [isRecent, decide_eq_true_eq] at h ⊢
  omega

/-- What has left the window does not come back. -/
theorem filter_isRecent_filter {now later : ℕ} (hle : now ≤ later) (attempts : List ℕ) :
    (attempts.filter (isRecent now)).filter (isRecent later) = attempts.filter (isRecent later) := by
  rw [List.filter_filter]
  refine List.filter_congr fun attempt _ => ?_
  cases hlater : isRecent later attempt with
  | false => rfl
  | true => rw [isRecent_of_le hle hlater, Bool.true_and]

theorem admittedTimes_append (outcomes : List AttemptOutcome) (o : AttemptOutcome)
    (source : String) : admittedTimes (outcomes ++ [o]) source =
      admittedTimes outcomes source ++ if o.source = source ∧ o.admitted then [o.time] else [] := by
  rw [admittedTimes, List.filter_append, List.map_append, ← admittedTimes]
  by_cases ho : o.source = source ∧ o.admitted
  · simp [ho]
  · rw [List.filter_cons_of_neg (by simpa using ho), if_neg ho]
    rfl

/-! Eviction -/

variable {table : AttemptTable}

theorem recent_evict (hforgets : table.isFullFor source = true →
      ∀ oldest ∈ table.first?, oldest ≠ "" ∧ table.recent oldest now = [])
    (other : String) :
    (table.evict source).recent other now = table.recent other now := by
  rw [AttemptTable.evict]
  split_ifs with hfull
  · cases hfirst : table.first? with
    | none => rfl
    | some oldest =>
      obtain ⟨hne, hgone⟩ := hforgets hfull oldest hfirst
      dsimp only
      rw [if_neg hne]
      by_cases hother : other = oldest
      · rw [hother, hgone, AttemptTable.recent, AttemptTable.recorded,
          InsertionMap.get?_delete, if_pos rfl]
        rfl
      · rw [AttemptTable.recent, AttemptTable.recorded, InsertionMap.get?_delete, if_neg hother]
        rfl
  · rfl

theorem size_evict (hsize : table.size ≤ maxSessionAttemptSources)
    (hforgets : table.isFullFor source = true → ∀ oldest ∈ table.first?, oldest ≠ "")
    (attempts : List ℕ) :
    ((table.evict source).set source attempts).size ≤ maxSessionAttemptSources := by
  rw [AttemptTable.evict]
  split_ifs with hfull
  · cases hfirst : table.first? with
    | none =>
      have hempty := InsertionMap.size_of_first?_none hfirst
      have hle := InsertionMap.size_set_le table source attempts
      dsimp only
      rw [hempty] at hle
      exact le_trans hle (by decide)
    | some oldest =>
      dsimp only
      rw [if_neg (hforgets hfull oldest hfirst)]
      obtain ⟨attempts', hget⟩ := InsertionMap.exists_get?_of_first? hfirst
      have hlt := table.size_delete_lt hget
      have hle := InsertionMap.size_set_le (table.delete oldest) source attempts
      omega
  · cases hget : table.get? source with
    | none =>
      have hroom : table.size < maxSessionAttemptSources := by
        by_contra hfull'
        exact hfull (by simp [AttemptTable.isFullFor, hget, not_lt.1 hfull'])
      have hle := InsertionMap.size_set_le table source attempts
      omega
    | some attempts' =>
      have htotal := InsertionMap.total_set (fun _ => 1) table source attempts
      rw [hget, Option.elim_some, ← InsertionMap.size_eq_total, ← InsertionMap.size_eq_total]
        at htotal
      omega

/-! The invariant -/

/-- The table remembers what was let through in the window. -/
structure Tracks (s : SessionAttempts) : Prop where
  kept : ∀ source now, s.clock ≤ now → s.sessionAttemptsBySource.recent source now =
    (admittedTimes s.outcomes source).filter (isRecent now)
  past : ∀ o ∈ s.outcomes, o.time ≤ s.clock
  size : s.sessionAttemptsBySource.size ≤ maxSessionAttemptSources
  limited : ∀ source first, admittedWithin s.outcomes source first
    (first + sessionAttemptWindowMs) ≤ maxSessionAttemptsPerWindow
  refuses : RefusesOnlyBusy s.outcomes

theorem tracks_new : Tracks {} where
  kept _ _ _ := rfl
  past _ ho := by cases ho
  size := Nat.zero_le _
  limited _ _ := Nat.zero_le _
  refuses before o after h := by
    have hlength := congrArg List.length h
    simp at hlength

theorem limit_unlimited (table : AttemptTable) (h : request.limited = false) :
    limitSessionAttempts .bearer table request = (table, .next) :=
  if_pos (Or.inr h)

theorem limit_limited (table : AttemptTable) (h : request.limited = true) :
    limitSessionAttempts .bearer table request =
      if maxSessionAttemptsPerWindow ≤ (table.recent request.source request.now).length then
        (table, .rateLimited
          (retryAfterSeconds (table.recent request.source request.now) request.now))
      else ((table.evict request.source).set request.source
        (table.recent request.source request.now ++ [request.now]), .next) := by
  have hnot : ¬ (AuthMode.bearer ≠ .bearer ∨ request.limited = false) := by simp [h]
  exact if_neg hnot

/-- What one request does: nothing, a refusal, or an admission. -/
theorem step_cases (hstep : step s request = some s') :
    s.clock ≤ request.now ∧ s'.clock = request.now ∧
      ((request.limited = false ∧
          s'.sessionAttemptsBySource = s.sessionAttemptsBySource ∧ s'.outcomes = s.outcomes) ∨
        (request.limited = true ∧
          maxSessionAttemptsPerWindow ≤
            (s.sessionAttemptsBySource.recent request.source request.now).length ∧
          s'.sessionAttemptsBySource = s.sessionAttemptsBySource ∧
          s'.outcomes = s.outcomes ++ [⟨request.source, request.now, false⟩]) ∨
        (request.limited = true ∧
          (s.sessionAttemptsBySource.recent request.source request.now).length <
            maxSessionAttemptsPerWindow ∧
          s'.sessionAttemptsBySource =
            (s.sessionAttemptsBySource.evict request.source).set request.source
              (s.sessionAttemptsBySource.recent request.source request.now ++ [request.now]) ∧
          s'.outcomes = s.outcomes ++ [⟨request.source, request.now, true⟩])) := by
  rw [step] at hstep
  split_ifs at hstep with hclock
  cases hstep
  refine ⟨not_lt.1 hclock, rfl, ?_⟩
  dsimp only
  cases hlimited : request.limited with
  | false =>
    rw [limit_unlimited _ hlimited, outcome, hlimited]
    exact Or.inl ⟨rfl, rfl, List.append_nil _⟩
  | true =>
    rw [limit_limited _ hlimited, outcome, hlimited]
    by_cases hbusy : maxSessionAttemptsPerWindow ≤
        (s.sessionAttemptsBySource.recent request.source request.now).length
    · rw [if_pos hbusy]
      exact Or.inr (Or.inl ⟨rfl, hbusy, rfl, rfl⟩)
    · rw [if_neg hbusy]
      exact Or.inr (Or.inr ⟨rfl, not_le.1 hbusy, rfl, rfl⟩)

theorem RefusesOnlyBusy.append {outcomes : List AttemptOutcome} {o : AttemptOutcome}
    (h : RefusesOnlyBusy outcomes) (ho : o.admitted = false →
      maxSessionAttemptsPerWindow ≤
        ((admittedTimes outcomes o.source).filter (isRecent o.time)).length) :
    RefusesOnlyBusy (outcomes ++ [o]) := by
  intro before o' after hsplit hrefused
  rcases List.eq_nil_or_concat after with rfl | ⟨after, last, rfl⟩
  · obtain ⟨rfl, ho'⟩ := List.append_inj' hsplit rfl
    cases ho'
    exact ho hrefused
  · rw [List.concat_eq_append, ← List.cons_append, ← List.append_assoc] at hsplit
    obtain ⟨hfront, -⟩ := List.append_inj' hsplit rfl
    exact h before o' after hfront hrefused

/-- An admission adds one to the windows it is in, and these were not full. -/
theorem admittedWithin_append_le (hs : s.Tracks) (hclock : s.clock ≤ now)
    (hroom : (s.sessionAttemptsBySource.recent source now).length < maxSessionAttemptsPerWindow)
    (other : String) (first : ℕ) :
    admittedWithin (s.outcomes ++ [⟨source, now, true⟩]) other first
      (first + sessionAttemptWindowMs) ≤ maxSessionAttemptsPerWindow := by
  have hold := hs.limited other first
  rw [admittedWithin] at hold ⊢
  rw [admittedTimes_append]
  by_cases hother : source = other
  · subst hother
    by_cases hin : first ≤ now ∧ now < first + sessionAttemptWindowMs
    · -- every earlier admission in this window is still recent
      have hrecent : (admittedTimes s.outcomes source).countP
            (fun time => first ≤ time ∧ time < first + sessionAttemptWindowMs) ≤
          ((admittedTimes s.outcomes source).filter (isRecent now)).length := by
        rw [← List.countP_eq_length_filter]
        refine List.countP_mono_left fun time _ htime => ?_
        simp only [decide_eq_true_eq] at htime
        simp only [isRecent, decide_eq_true_eq]
        omega
      rw [← hs.kept source now hclock] at hrecent
      simp only [and_self, if_true, List.countP_append, List.countP_singleton]
      split_ifs
      · omega
      · omega
    · simp only [and_self, if_true, List.countP_append, List.countP_singleton, hin,
        decide_false]
      simpa using hold
  · simpa [hother] using hold

theorem tracks_step (hok : ForgetsNothing s request) (hstep : step s request = some s')
    (hs : s.Tracks) : s'.Tracks := by
  obtain ⟨hclock, hclock', hcases⟩ := step_cases hstep
  have hpast : ∀ o ∈ s.outcomes, o.time ≤ s'.clock := fun o ho => by
    rw [hclock']
    exact le_trans (hs.past o ho) hclock
  rcases hcases with ⟨-, htable, houtcomes⟩ | ⟨-, hbusy, htable, houtcomes⟩ |
    ⟨hlimited, hroom, htable, houtcomes⟩
  · constructor
    · intro source now hnow
      rw [htable, houtcomes]
      exact hs.kept source now (le_trans (hclock.trans hclock'.ge) hnow)
    · rw [houtcomes]
      exact hpast
    · rw [htable]
      exact hs.size
    · rw [houtcomes]
      exact hs.limited
    · rw [houtcomes]
      exact hs.refuses
  · have htimes : ∀ source, admittedTimes s'.outcomes source = admittedTimes s.outcomes source := by
      intro source
      rw [houtcomes, admittedTimes_append, if_neg (by simp), List.append_nil]
    constructor
    · intro source now hnow
      rw [htable, htimes]
      exact hs.kept source now (le_trans (hclock.trans hclock'.ge) hnow)
    · rw [houtcomes]
      refine List.forall_mem_append.2 ⟨hpast, ?_⟩
      simp [hclock']
    · rw [htable]
      exact hs.size
    · intro source first
      rw [admittedWithin, htimes]
      exact hs.limited source first
    · rw [houtcomes]
      refine hs.refuses.append fun _ => ?_
      rw [← hs.kept _ _ hclock]
      exact hbusy
  · have hforgets := hok hlimited
    constructor
    · intro source now hnow
      rw [hclock'] at hnow
      rw [htable, houtcomes, admittedTimes_append, List.filter_append,
        ← hs.kept source now (hclock.trans hnow)]
      rw [AttemptTable.recent, AttemptTable.recorded, InsertionMap.get?_set]
      by_cases hsource : source = request.source
      · rw [if_pos hsource, if_pos ⟨hsource.symm, rfl⟩, hsource, Option.getD_some,
          List.filter_append, AttemptTable.recent, filter_isRecent_filter hnow]
        rfl
      · rw [if_neg hsource, if_neg fun h => hsource h.1.symm, List.filter_nil, List.append_nil]
        -- what the eviction left of another source is what was recent
        have hevict := recent_evict hforgets source
        have hlater := congrArg (List.filter (isRecent now)) hevict
        rw [AttemptTable.recent, AttemptTable.recent, filter_isRecent_filter hnow,
          filter_isRecent_filter hnow] at hlater
        exact hlater
    · rw [houtcomes]
      refine List.forall_mem_append.2 ⟨hpast, ?_⟩
      simp [hclock']
    · rw [htable]
      exact size_evict hs.size (fun hfull oldest hfirst => (hforgets hfull oldest hfirst).1) _
    · rw [houtcomes]
      exact admittedWithin_append_le hs hclock hroom
    · rw [houtcomes]
      exact hs.refuses.append fun h => by cases h

/-- In a run that evicts only sources without attempts in the window, no source is let
through more often than the limit in any window, a refusal is owed to the source's own
attempts, and the table keeps its bound. -/
theorem attempts_limited {requests : List AttemptRequest}
    (hrun : Steps step ForgetsNothing {} requests s) :
    (∀ source first, admittedWithin s.outcomes source first (first + sessionAttemptWindowMs) ≤
        maxSessionAttemptsPerWindow) ∧
      RefusesOnlyBusy s.outcomes ∧
      s.sessionAttemptsBySource.size ≤ maxSessionAttemptSources := by
  have htracks : s.Tracks :=
    hrun.invariant (fun _ _ _ hok hstep hs => tracks_step hok hstep hs) tracks_new
  exact ⟨htracks.limited, htracks.refuses, htracks.size⟩

def attemptFrom (source : String) : AttemptRequest := ⟨true, some source, none, 0⟩

/-- One attempt too many is refused. -/
theorem attempts_limited_applied : ∃ s, Steps step ForgetsNothing {}
      (List.replicate (maxSessionAttemptsPerWindow + 1) (attemptFrom "127.0.0.1")) s ∧
    admittedWithin s.outcomes "127.0.0.1" 0 (0 + sessionAttemptWindowMs) ≤
      maxSessionAttemptsPerWindow ∧
    RefusesOnlyBusy s.outcomes ∧
    s.sessionAttemptsBySource.size ≤ maxSessionAttemptSources := by
  have hrun : (run step ForgetsNothing {}
      (List.replicate (maxSessionAttemptsPerWindow + 1) (attemptFrom "127.0.0.1"))).isSome := by
    decide +kernel
  obtain ⟨s, hs⟩ := Option.isSome_iff_exists.1 hrun
  have hlimited := attempts_limited (Steps.of_run hs)
  exact ⟨s, Steps.of_run hs, hlimited.1 _ _, hlimited.2⟩

/-! A full table -/

theorem step_admitted (hnone : s.sessionAttemptsBySource.get? source = none) (hclock : s.clock = 0) :
    step s (attemptFrom source) = some
      ⟨(s.sessionAttemptsBySource.evict source).set source [0], 0,
        s.outcomes ++ [⟨source, 0, true⟩]⟩ := by
  have hrecent : s.sessionAttemptsBySource.recent source 0 = [] := by
    rw [AttemptTable.recent, AttemptTable.recorded, hnone]
    rfl
  have hlimited : (attemptFrom source).limited = true := rfl
  have hlimit := limit_limited s.sessionAttemptsBySource hlimited
  have hclock' : ¬ (attemptFrom source).now < s.clock := by
    rw [hclock]
    exact Nat.not_lt_zero 0
  rw [step, if_neg hclock']
  dsimp only
  rw [hlimit]
  change s.sessionAttemptsBySource.recent (attemptFrom source).source (attemptFrom source).now = []
    at hrecent
  rw [hrecent]
  rfl

/-- New sources fill the table. -/
theorem steps_fresh (sources : List String) (hclock : s.clock = 0)
    (hnodup : (s.sessionAttemptsBySource.entries.map Prod.fst ++ sources).Nodup)
    (hroom : s.sessionAttemptsBySource.size + sources.length ≤ maxSessionAttemptSources) :
    ∃ s', Steps step anyStep s (sources.map attemptFrom) s' ∧ s'.clock = 0 ∧
      s'.sessionAttemptsBySource.entries =
        s.sessionAttemptsBySource.entries ++ sources.map (fun source => (source, [0])) ∧
      s'.outcomes = s.outcomes ++ sources.map (fun source => ⟨source, 0, true⟩) := by
  induction sources generalizing s with
  | nil => exact ⟨s, Steps.nil, hclock, by simp, by simp⟩
  | cons source sources ih =>
    have hnotMem : source ∉ s.sessionAttemptsBySource.entries.map Prod.fst := fun hmem =>
      (List.nodup_append.1 hnodup).2.2 source hmem source List.mem_cons_self rfl
    have hnone : s.sessionAttemptsBySource.get? source = none := by
      by_contra hsome
      exact hnotMem (InsertionMap.mem_keys_iff.2 hsome)
    rw [List.length_cons] at hroom
    have hevict : s.sessionAttemptsBySource.evict source = s.sessionAttemptsBySource := by
      have hnot : s.sessionAttemptsBySource.isFullFor source = false := by
        rw [AttemptTable.isFullFor, Bool.and_eq_false_iff]
        exact Or.inr (decide_eq_false (by omega))
      rw [AttemptTable.evict, hnot]
      rfl
    have hstep := step_admitted hnone hclock
    rw [hevict] at hstep
    have hentries := InsertionMap.entries_set_of_none hnotMem [0]
    obtain ⟨s', hrun, hclock', htable, houtcomes⟩ := @ih
      ⟨s.sessionAttemptsBySource.set source [0], 0, s.outcomes ++ [⟨source, 0, true⟩]⟩ rfl
      (by
        dsimp only
        rw [hentries, List.map_append, List.append_assoc]
        exact hnodup)
      (by
        have hle := s.sessionAttemptsBySource.size_set_le source [0]
        dsimp only
        omega)
    refine ⟨s', Steps.cons trivial hstep hrun, hclock', ?_, ?_⟩
    · rw [htable, hentries, List.append_assoc]
      rfl
    · rw [houtcomes, List.append_assoc]
      rfl

def busySource : String := "fd00::a"

/-- Distinct addresses, none of them the busy one. -/
def otherSource (i : ℕ) : String := String.ofList ("fd00::".toList ++ Nat.toDigits 10 i)

theorem otherSource_injective : Function.Injective otherSource := by
  intro i j h
  exact Text.toDigits_injective (List.append_cancel_left (String.ofList_injective h))

theorem otherSource_ne_busy (i : ℕ) : otherSource i ≠ busySource := by
  intro h
  have hlist : "fd00::".toList ++ Nat.toDigits 10 i = "fd00::".toList ++ ['a'] := by
    rw [← String.toList_ofList (l := "fd00::".toList ++ Nat.toDigits 10 i)]
    exact congrArg String.toList h
  have hdigits : Nat.toDigits 10 i = ['a'] := (List.append_right_inj "fd00::".toList).1 hlist
  exact Text.not_mem_toDigits (c := 'a') (by decide) i (hdigits ▸ List.mem_singleton_self 'a')

def busyOutcomes : List AttemptOutcome :=
  List.replicate maxSessionAttemptsPerWindow ⟨busySource, 0, true⟩

theorem steps_busy : ∃ s, Steps step anyStep {}
      (List.replicate maxSessionAttemptsPerWindow (attemptFrom busySource)) s ∧
    s.sessionAttemptsBySource.entries =
      [(busySource, List.replicate maxSessionAttemptsPerWindow 0)] ∧
    s.clock = 0 ∧ s.outcomes = busyOutcomes := by
  have hrun : (run step anyStep {}
        (List.replicate maxSessionAttemptsPerWindow (attemptFrom busySource))).map
        (fun s => (s.sessionAttemptsBySource.entries, s.clock, s.outcomes)) =
      some ([(busySource, List.replicate maxSessionAttemptsPerWindow 0)], 0, busyOutcomes) := by
    decide +kernel
  obtain ⟨s, hs, heq⟩ := Option.map_eq_some_iff.1 hrun
  simp only [Prod.mk.injEq] at heq
  exact ⟨s, Steps.of_run hs, heq⟩

/-- Sources enough to fill the table, and one more. -/
theorem exists_evicting_run {others : List String} {last : String}
    (hnodup : (busySource :: others).Nodup) (hlast : last ∉ busySource :: others)
    (hlength : others.length + 1 = maxSessionAttemptSources) :
    ∃ s, Steps step anyStep {}
        (List.replicate maxSessionAttemptsPerWindow (attemptFrom busySource) ++
          others.map attemptFrom ++ [attemptFrom last, attemptFrom busySource]) s ∧
      maxSessionAttemptsPerWindow <
        admittedWithin s.outcomes busySource 0 (0 + sessionAttemptWindowMs) := by
  obtain ⟨busy, hbusy, hbusyEntries, hbusyClock, hbusyOutcomes⟩ := steps_busy
  have hbusyKeys : busy.sessionAttemptsBySource.entries.map Prod.fst = [busySource] := by
    rw [hbusyEntries]
    rfl
  have hbusySize : busy.sessionAttemptsBySource.entries.length = 1 := by
    rw [hbusyEntries]
    rfl
  obtain ⟨full, hfill, hclock, hentries, houtcomes⟩ := steps_fresh others hbusyClock
    (by rwa [hbusyKeys]) (by rw [InsertionMap.size]; omega)
  have hsize : full.sessionAttemptsBySource.size = maxSessionAttemptSources := by
    rw [InsertionMap.size, hentries, List.length_append, List.length_map]
    omega
  have hkeys : full.sessionAttemptsBySource.entries.map Prod.fst = busySource :: others := by
    rw [hentries, List.map_append, hbusyKeys, List.map_map]
    exact congrArg (busySource :: ·) (List.map_id'' (fun _ => rfl) others)
  have hnone : full.sessionAttemptsBySource.get? last = none := by
    by_contra hsome
    exact hlast (hkeys ▸ InsertionMap.mem_keys_iff.2 hsome)
  have hne : busySource ≠ last := fun heq => hlast (heq ▸ List.mem_cons_self)
  -- the last source takes the busy one's place
  have hevict : full.sessionAttemptsBySource.evict last =
      full.sessionAttemptsBySource.delete busySource := by
    have hfull : full.sessionAttemptsBySource.isFullFor last = true := by
      rw [AttemptTable.isFullFor, hnone, hsize, decide_eq_true (le_refl _)]
      rfl
    have hfirst : full.sessionAttemptsBySource.first? = some busySource := by
      rw [InsertionMap.first?, ← List.head?_map, hkeys]
      rfl
    rw [AttemptTable.evict, hfull, hfirst]
    rfl
  have hstep := step_admitted hnone hclock
  rw [hevict] at hstep
  have hforgotten : ((full.sessionAttemptsBySource.delete busySource).set last [0]).get?
      busySource = none := by
    rw [InsertionMap.get?_set, if_neg hne, InsertionMap.get?_delete, if_pos rfl]
  have hagain := @step_admitted
    ⟨(full.sessionAttemptsBySource.delete busySource).set last [0], 0,
      full.outcomes ++ [⟨last, 0, true⟩]⟩ busySource hforgotten rfl
  refine ⟨_, (hbusy.append hfill).append
    (Steps.cons trivial hstep (Steps.cons trivial hagain Steps.nil)), ?_⟩
  -- twenty before the eviction and one after it
  have htimes : (List.replicate maxSessionAttemptsPerWindow 0 ++ [0]).Sublist
      (admittedTimes (full.outcomes ++ [AttemptOutcome.mk last 0 true] ++
        [AttemptOutcome.mk busySource 0 true]) busySource) := by
    rw [admittedTimes_append, if_pos ⟨rfl, rfl⟩, houtcomes, hbusyOutcomes, admittedTimes,
      List.append_assoc, List.filter_append, List.map_append, List.append_assoc]
    refine List.Sublist.append ?_ ?_
    · exact List.Sublist.refl _
    · exact List.sublist_append_right _ _
  refine lt_of_lt_of_le ?_ htimes.countP_le
  decide +kernel

/-- A source that is evicted starts again in the same window. -/
theorem evicted_source_starts_again : ¬ ∀ requests s, Steps step anyStep {} requests s →
    ∀ source first, admittedWithin s.outcomes source first (first + sessionAttemptWindowMs) ≤
      maxSessionAttemptsPerWindow := by
  intro h
  have hnotMem : ∀ n, ∀ i, n ≤ i → otherSource i ∉
      busySource :: (List.range n).map otherSource := by
    intro n i hi hmem
    rcases List.mem_cons.1 hmem with hbusy | hmem
    · exact otherSource_ne_busy i hbusy
    · obtain ⟨j, hj, heq⟩ := List.mem_map.1 hmem
      rw [otherSource_injective heq] at hj
      exact absurd (List.mem_range.1 hj) (not_lt.2 hi)
  have hnodup : ∀ n, (busySource :: (List.range n).map otherSource).Nodup := by
    intro n
    refine List.nodup_cons.2 ⟨fun hmem => ?_, List.nodup_range.map otherSource_injective⟩
    obtain ⟨i, -, hi⟩ := List.mem_map.1 hmem
    exact otherSource_ne_busy i hi
  obtain ⟨s, hrun, hcount⟩ := exists_evicting_run (hnodup (maxSessionAttemptSources - 1))
    (hnotMem (maxSessionAttemptSources - 1) (maxSessionAttemptSources - 1) (le_refl _))
    (by rw [List.length_map, List.length_range]; rfl)
  exact absurd (h _ s hrun busySource 0) (not_le.2 hcount)

end SessionAttempts

end DockerMap.Api
