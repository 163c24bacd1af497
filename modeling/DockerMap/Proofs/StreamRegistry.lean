import DockerMap.Api.SessionStreams

/-! The registry of event streams. Streams leave it only when their connection closes; to
revoke a session ends them and leaves them registered. -/

namespace DockerMap.Api

open Runs

theorem SessionToken.text_ne_empty (token : SessionToken) : token.text ≠ "" := by
  intro heq
  have hlength := token.length
  rw [heq] at hlength
  exact absurd hlength (by decide)

namespace SessionStreams

/-! What an event promises at any time -/

/-- The cookie names no session, or one whose expiry this call observes. -/
def IsInvalid (s : SessionStreams) (cookie : String) (now : ℕ) : Prop :=
  ∀ expiresAt, s.sessions.get? cookie = some expiresAt → expiresAt ≤ now

structure RegistryInvariant (limits : StreamLimits) (s : SessionStreams) : Prop where
  count : s.activeStreamCount = s.activeSessionStreams.total Finset.card
  bounded : s.activeStreamCount ≤ limits.maxStreams
  sizes : ∀ session streams, session ≠ "" →
    s.activeSessionStreams.get? session = some streams →
      1 ≤ streams.card ∧ streams.card ≤ limits.maxStreamsPerSession
  disjoint : ∀ session streams other streams',
    s.activeSessionStreams.get? session = some streams →
      s.activeSessionStreams.get? other = some streams' →
        ∀ response ∈ streams, response ∈ streams' → session = other
  sessions : s.sessions.size ≤ maxSessions
  revoked : ∀ session, session ≠ "" → s.sessions.get? session = none →
    ∀ response ∈ s.streamsOf session, response ∈ s.ended

/-! The invariant -/

structure Coherent (limits : StreamLimits) (s : SessionStreams) : Prop where
  count : s.activeStreamCount = s.activeSessionStreams.total Finset.card
  bounded : s.activeStreamCount ≤ limits.maxStreams
  sizes : ∀ session streams, s.activeSessionStreams.get? session = some streams →
    1 ≤ streams.card ∧ (session ≠ "" → streams.card ≤ limits.maxStreamsPerSession)
  /-- A stream is registered where its handler will look for it. -/
  keyed : ∀ session response, response ∈ s.streamsOf session →
    s.handlerOf response = some session
  named : s.sessions.get? "" = none
  kept : s.sessions.size ≤ maxSessions
  revoked : ∀ session, session ≠ "" → s.sessions.get? session = none →
    s.streamsOf session ⊆ s.ended

theorem coherent_new (limits : StreamLimits) : Coherent limits {} where
  count := rfl
  bounded := Nat.zero_le _
  sizes _ _ h := by cases h
  keyed _ _ h := by cases h
  named := rfl
  kept := Nat.zero_le _
  revoked _ _ _ := Finset.empty_subset _

theorem Coherent.registryInvariant {limits : StreamLimits} {s : SessionStreams}
    (h : Coherent limits s) : RegistryInvariant limits s where
  count := h.count
  bounded := h.bounded
  sizes session streams hsession hstreams :=
    ⟨(h.sizes session streams hstreams).1, (h.sizes session streams hstreams).2 hsession⟩
  disjoint session streams other streams' hstreams hstreams' response hmem hmem' := by
    have hkey := h.keyed session response (by rwa [streamsOf, hstreams])
    have hkey' := h.keyed other response (by rwa [streamsOf, hstreams'])
    exact Option.some.inj (hkey.symm.trans hkey')
  sessions := h.kept
  revoked session hsession hnone := h.revoked session hsession hnone

/-! Steps that register nothing -/

/-- The step takes sessions away and ends responses, the streams of the sessions it takes among
them; every stream stays registered. -/
structure Ends (s s' : SessionStreams) : Prop where
  streams : s'.activeSessionStreams = s.activeSessionStreams
  count : s'.activeStreamCount = s.activeStreamCount
  handlers : s'.handlers = s.handlers
  ended : s.ended ⊆ s'.ended
  sessions : ∀ session, s'.sessions.get? session = s.sessions.get? session ∨
    s'.sessions.get? session = none ∧ s.streamsOf session ⊆ s'.ended
  size : s'.sessions.size ≤ s.sessions.size

namespace Ends

variable {s s' s'' : SessionStreams}

theorem refl (s : SessionStreams) : Ends s s :=
  ⟨rfl, rfl, rfl, Finset.Subset.refl _, fun _ => Or.inl rfl, le_refl _⟩

theorem streamsOf_eq (h : Ends s s') (session : String) :
    s'.streamsOf session = s.streamsOf session := by
  rw [streamsOf, h.streams, streamsOf]

theorem trans (h : Ends s s') (h' : Ends s' s'') : Ends s s'' where
  streams := h'.streams.trans h.streams
  count := h'.count.trans h.count
  handlers := h'.handlers.trans h.handlers
  ended := h.ended.trans h'.ended
  sessions session := by
    obtain heq | ⟨hnone, hended⟩ := h'.sessions session
    · rw [heq]
      obtain hkept | ⟨hnone, hended⟩ := h.sessions session
      · exact Or.inl hkept
      · exact Or.inr ⟨hnone, hended.trans h'.ended⟩
    · rw [h.streamsOf_eq] at hended
      exact Or.inr ⟨hnone, hended⟩
  size := h'.size.trans h.size

theorem coherent {limits : StreamLimits} (h : Ends s s') (hs : Coherent limits s) :
    Coherent limits s' where
  count := by rw [h.count, h.streams, hs.count]
  bounded := by
    rw [h.count]
    exact hs.bounded
  sizes := by
    rw [h.streams]
    exact hs.sizes
  keyed session response hmem := by
    rw [h.streamsOf_eq] at hmem
    rw [handlerOf, h.handlers]
    exact hs.keyed session response hmem
  named := by
    obtain heq | ⟨hnone, -⟩ := h.sessions ""
    · rw [heq, hs.named]
    · exact hnone
  kept := h.size.trans hs.kept
  revoked session hsession hnone := by
    rw [h.streamsOf_eq]
    obtain heq | ⟨-, hended⟩ := h.sessions session
    · exact (hs.revoked session hsession (heq.symm.trans hnone)).trans h.ended
    · exact hended

end Ends

theorem ends_revokeSession (s : SessionStreams) (session : String) :
    Ends s (s.revokeSession session) where
  streams := rfl
  count := rfl
  handlers := rfl
  ended := Finset.subset_union_left
  sessions other := by
    have hget : (s.revokeSession session).sessions.get? other =
        if other = session then none else s.sessions.get? other :=
      InsertionMap.get?_delete ..
    rw [hget]
    split_ifs with heq
    · subst heq
      exact Or.inr ⟨rfl, Finset.subset_union_right⟩
    · exact Or.inl rfl
  size := InsertionMap.size_delete_le ..

theorem ends_validSession (s : SessionStreams) (session : String) (now : ℕ) :
    Ends s (s.validSession session now).1 := by
  unfold validSession
  split
  · exact .refl s
  · split_ifs
    · exact .refl s
    · exact ends_revokeSession s session
    · exact .refl s

theorem ends_expireSessions (s : SessionStreams) (now : ℕ) : Ends s (s.expireSessions now) := by
  rw [expireSessions]
  generalize s.sessions.entries = entries
  induction entries generalizing s with
  | nil => exact .refl s
  | cons e entries ih =>
    rw [List.foldl_cons]
    refine Ends.trans ?_ (ih _)
    split_ifs
    · exact ends_revokeSession s e.1
    · exact .refl s

theorem ends_evictOldest (turns : ℕ) (s : SessionStreams) : Ends s (evictOldest turns s) := by
  induction turns generalizing s with
  | zero => exact .refl s
  | succ turns ih =>
    rw [evictOldest]
    split_ifs
    · exact .refl s
    · split
      · exact .refl s
      · rename_i oldest _
        split_ifs
        · exact .refl s
        · exact (ends_revokeSession s oldest).trans (ih _)

theorem ends_endResponse (s : SessionStreams) (response : ℕ) :
    Ends s (s.endResponse response) :=
  ⟨rfl, rfl, rfl, Finset.subset_insert .., fun _ => Or.inl rfl, le_refl _⟩

theorem ends_setBusy (s : SessionStreams) (busy : Finset ℕ) : Ends s { s with busy } :=
  ⟨rfl, rfl, rfl, Finset.Subset.refl _, fun _ => Or.inl rfl, le_refl _⟩

theorem ends_admits (s : SessionStreams) (cookieSession : String) (now : ℕ) :
    Ends s (s.admits cookieSession now).1 := by
  rw [admits]
  split_ifs
  · exact .refl s
  · exact ends_validSession s cookieSession now

theorem ends_beginEmit (s : SessionStreams) (response : ℕ) (cookieSession : String) (now : ℕ) :
    Ends s (s.beginEmit response cookieSession now) := by
  rw [beginEmit]
  split_ifs
  · exact .refl s
  · have hadmits := ends_admits s cookieSession now
    generalize s.admits cookieSession now = answer at hadmits
    obtain ⟨checked, _ | _⟩ := answer
    · exact hadmits.trans (ends_endResponse checked response)
    · exact hadmits.trans (ends_setBusy checked _)

theorem ends_finishEmit (s : SessionStreams) (response : ℕ) (cookieSession : String) (now : ℕ) :
    Ends s (s.finishEmit response cookieSession now) := by
  have hidle := ends_setBusy s (s.busy.erase response)
  rw [finishEmit]
  split_ifs
  · exact hidle
  · have hadmits := hidle.trans (ends_admits _ cookieSession now)
    generalize admits { s with busy := s.busy.erase response } cookieSession now = answer at *
    obtain ⟨checked, _ | _⟩ := answer
    · exact hadmits.trans (ends_endResponse checked response)
    · exact hadmits

/-! Sessions -/

/-- The loop ends with room for one session. -/
theorem size_evictOldest {turns : ℕ} {s : SessionStreams} (hnamed : s.sessions.get? "" = none)
    (hturns : s.sessions.size ≤ turns) : (evictOldest turns s).sessions.size < maxSessions := by
  induction turns generalizing s with
  | zero => exact (Nat.le_zero.1 hturns).trans_lt (by decide)
  | succ turns ih =>
    rw [evictOldest]
    split_ifs with hroom
    · exact hroom
    · cases hfirst : s.sessions.first? with
      | none =>
        have hsize : s.sessions.size = 0 := InsertionMap.size_of_first?_none hfirst
        exact hsize.trans_lt (by decide)
      | some oldest =>
        obtain ⟨expiresAt, hget⟩ := InsertionMap.exists_get?_of_first? hfirst
        have hne : oldest ≠ "" := fun heq => by
          rw [heq, hnamed] at hget
          cases hget
        have hsmaller : (s.revokeSession oldest).sessions.size < s.sessions.size :=
          InsertionMap.size_delete_lt s.sessions hget
        have hstill : (s.revokeSession oldest).sessions.get? "" = none := by
          obtain heq | ⟨hnone, -⟩ := (ends_revokeSession s oldest).sessions ""
          · rw [heq, hnamed]
          · exact hnone
        simp only [if_neg hne]
        exact ih hstill (by omega)

theorem coherent_issueSession {limits : StreamLimits} {s : SessionStreams} (token : SessionToken)
    (now : ℕ) (hs : Coherent limits s) : Coherent limits (s.issueSession token now) := by
  have hexpired := (ends_expireSessions s now).coherent hs
  have hevicted :=
    (ends_evictOldest (s.expireSessions now).sessions.size (s.expireSessions now)).coherent hexpired
  have hroom := size_evictOldest hexpired.named (le_refl _)
  rw [issueSession]
  generalize evictOldest (s.expireSessions now).sessions.size (s.expireSessions now) = evicted at *
  have hget (session : String) :
      (evicted.sessions.set token.text (now + sessionTtlMs)).get? session =
        if session = token.text then some (now + sessionTtlMs) else evicted.sessions.get? session :=
    InsertionMap.get?_set ..
  exact
    { count := hevicted.count
      bounded := hevicted.bounded
      sizes := hevicted.sizes
      keyed := hevicted.keyed
      named := by rw [hget, if_neg (Ne.symm token.text_ne_empty), hevicted.named]
      kept := (InsertionMap.size_set_le ..).trans hroom
      revoked := fun session hsession hnone => by
        rw [hget] at hnone
        split_ifs at hnone
        exact hevicted.revoked session hsession hnone }

/-! Streams -/

theorem mem_streamsOf {s : SessionStreams} {session : String} {response : ℕ} :
    response ∈ s.streamsOf session ↔
      ∃ streams, s.activeSessionStreams.get? session = some streams ∧ response ∈ streams := by
  rw [streamsOf]
  cases s.activeSessionStreams.get? session with
  | none => simp
  | some streams => simp

theorem card_streamsOf (s : SessionStreams) (session : String) :
    (s.streamsOf session).card = (s.activeSessionStreams.get? session).elim 0 Finset.card := by
  rw [streamsOf]
  cases s.activeSessionStreams.get? session with
  | none => rfl
  | some streams => rfl

theorem handlerOf_append {s s' : SessionStreams} {handlers : List (Option String)}
    (h : s'.handlers = s.handlers ++ handlers) {response : ℕ}
    (hbound : response < s.handlers.length) : s'.handlerOf response = s.handlerOf response := by
  rw [handlerOf, h, List.getElem?_append_left hbound, handlerOf]

theorem lt_of_handlerOf {s : SessionStreams} {response : ℕ} {session : String}
    (h : s.handlerOf response = some session) : response < s.handlers.length := by
  by_contra hbound
  rw [handlerOf, List.getElem?_eq_none (by omega)] at h
  cases h

/-- The step registers the next response under the session. -/
structure Registers (s s' : SessionStreams) (session : String) : Prop where
  streams : s'.activeSessionStreams =
    s.activeSessionStreams.set session (insert s.handlers.length (s.streamsOf session))
  count : s'.activeStreamCount = s.activeStreamCount + 1
  handlers : s'.handlers = s.handlers ++ [some session]
  ended : s'.ended = s.ended
  sessions : s'.sessions = s.sessions

namespace Registers

variable {limits : StreamLimits} {s s' : SessionStreams} {session : String}

theorem get? (h : Registers s s' session) (other : String) :
    s'.activeSessionStreams.get? other =
      if other = session then some (insert s.handlers.length (s.streamsOf session))
      else s.activeSessionStreams.get? other := by
  rw [h.streams]
  exact InsertionMap.get?_set ..

theorem handlerOf_eq (h : Registers s s' session) {response : ℕ} {other : String}
    (hkey : s.handlerOf response = some other) : s'.handlerOf response = some other := by
  rw [← hkey]
  exact handlerOf_append h.handlers (lt_of_handlerOf hkey)

theorem handlerOf_new (h : Registers s s' session) :
    s'.handlerOf s.handlers.length = some session := by
  rw [handlerOf, h.handlers, List.getElem?_concat_length]
  rfl

theorem card_insert (hs : Coherent limits s) :
    (insert s.handlers.length (s.streamsOf session)).card = (s.streamsOf session).card + 1 := by
  refine Finset.card_insert_of_notMem fun hmem => ?_
  exact absurd (lt_of_handlerOf (hs.keyed _ _ hmem)) (lt_irrefl _)

theorem total (h : Registers s s' session) (hs : Coherent limits s) :
    s'.activeSessionStreams.total Finset.card =
      s.activeSessionStreams.total Finset.card + 1 := by
  have htotal := InsertionMap.total_set Finset.card s.activeSessionStreams session
    (insert s.handlers.length (s.streamsOf session))
  rw [← h.streams, ← card_streamsOf, card_insert hs] at htotal
  omega

theorem keyed (h : Registers s s' session) (hs : Coherent limits s) (other : String)
    (response : ℕ) (hmem : response ∈ s'.streamsOf other) :
    s'.handlerOf response = some other := by
  obtain ⟨streams, hstreams, hmem⟩ := mem_streamsOf.1 hmem
  rw [h.get?] at hstreams
  split_ifs at hstreams with heq
  · cases hstreams
    rw [heq]
    obtain rfl | hmem := Finset.mem_insert.1 hmem
    · exact h.handlerOf_new
    · exact h.handlerOf_eq (hs.keyed session response hmem)
  · exact h.handlerOf_eq (hs.keyed other response (mem_streamsOf.2 ⟨streams, hstreams, hmem⟩))

theorem coherent (h : Registers s s' session) (hs : Coherent limits s)
    (hroom : s.activeStreamCount < limits.maxStreams)
    (hslot : session ≠ "" → (s.streamsOf session).card < limits.maxStreamsPerSession)
    (hvalid : session ≠ "" → s.sessions.get? session ≠ none) : Coherent limits s' where
  count := by rw [h.count, h.total hs, hs.count]
  bounded := by
    rw [h.count]
    exact hroom
  sizes other streams hstreams := by
    rw [h.get?] at hstreams
    split_ifs at hstreams with heq
    · cases hstreams
      subst heq
      rw [card_insert hs]
      exact ⟨by omega, hslot⟩
    · exact hs.sizes other streams hstreams
  keyed := h.keyed hs
  named := by rw [h.sessions, hs.named]
  kept := by
    rw [h.sessions]
    exact hs.kept
  revoked other hother hnone := by
    rw [h.sessions] at hnone
    have hne : other ≠ session := fun heq => hvalid (heq ▸ hother) (heq ▸ hnone)
    have hsame : s'.streamsOf other = s.streamsOf other := by
      rw [streamsOf, h.get?, if_neg hne, streamsOf]
    rw [hsame, h.ended]
    exact hs.revoked other hother hnone

end Registers

theorem coherent_refused {limits : StreamLimits} {s : SessionStreams} (hs : Coherent limits s) :
    Coherent limits { s with handlers := s.handlers ++ [none] } where
  count := hs.count
  bounded := hs.bounded
  sizes := hs.sizes
  keyed session response hmem := by
    have hkey := hs.keyed session response hmem
    rw [← hkey]
    exact handlerOf_append rfl (lt_of_handlerOf hkey)
  named := hs.named
  kept := hs.kept
  revoked := hs.revoked

/-- A cookie that the check accepts names a session that is still there. -/
theorem get?_of_validSession {s : SessionStreams} {session : String} {now : ℕ}
    (h : (s.validSession session now).2 = true) :
    (s.validSession session now).1.sessions.get? session ≠ none ∧
      ¬ s.IsInvalid session now := by
  cases hget : s.sessions.get? session with
  | none =>
    rw [validSession, hget] at h
    cases h
  | some expiresAt =>
    rw [validSession, hget] at h ⊢
    by_cases hzero : expiresAt = 0
    · simp [hzero] at h
    · by_cases hexpired : expiresAt ≤ now
      · simp [hzero, hexpired] at h
      · simp only [hzero, hexpired, if_false, hget, ne_eq, reduceCtorEq, not_false_eq_true,
          true_and]
        exact fun hinvalid => hexpired (hinvalid expiresAt hget)

/-- What the stream route does with the response. -/
theorem openStream_cases (limits : StreamLimits) (s : SessionStreams) (cookie : String)
    (now : ℕ) :
    (s.validSession cookie now).1.activeStreamCount < limits.maxStreams ∧
        (s.cookieSession cookie now ≠ "" →
          ((s.validSession cookie now).1.streamsOf (s.cookieSession cookie now)).card <
            limits.maxStreamsPerSession) ∧
        Registers (s.validSession cookie now).1 (s.openStream limits cookie now)
          (s.cookieSession cookie now) ∨
      s.openStream limits cookie now =
        { (s.validSession cookie now).1 with
          handlers := (s.validSession cookie now).1.handlers ++ [none] } := by
  have hhandlers := (ends_validSession s cookie now).handlers
  simp only [openStream, registerSessionStream]
  generalize s.cookieSession cookie now = session
  generalize (s.validSession cookie now).1 = checked at *
  rw [← hhandlers]
  by_cases hprocess : limits.maxStreams ≤ checked.activeStreamCount
  · rw [if_pos hprocess]
    exact Or.inr rfl
  · by_cases hfull : session ≠ "" ∧
        limits.maxStreamsPerSession ≤ (checked.streamsOf session).card
    · rw [if_neg hprocess, if_pos hfull]
      exact Or.inr rfl
    · rw [if_neg hprocess, if_neg hfull]
      refine Or.inl ⟨by omega, fun hne => ?_, rfl, rfl, rfl, rfl, rfl⟩
      exact not_le.1 fun hle => hfull ⟨hne, hle⟩

theorem coherent_openStream {limits : StreamLimits} {s : SessionStreams} (cookie : String)
    (now : ℕ) (hs : Coherent limits s) : Coherent limits (s.openStream limits cookie now) := by
  have hchecked := (ends_validSession s cookie now).coherent hs
  obtain ⟨hroom, hslot, hregisters⟩ | hrefused := openStream_cases limits s cookie now
  · refine hregisters.coherent hchecked hroom hslot fun hne => ?_
    rw [cookieSession] at hne ⊢
    split_ifs at hne ⊢ with hvalid
    · exact (get?_of_validSession hvalid).1
    · exact absurd rfl hne
  · rw [hrefused]
    exact coherent_refused hchecked

/-! Closed connections -/

section

variable {limits : StreamLimits} {s : SessionStreams} {session : String} {streams : Finset ℕ}
  {response : ℕ}

/-- What is left under each key. -/
theorem get?_unregister (hstreams : s.activeSessionStreams.get? session = some streams)
    (other : String) :
    (s.unregisterSessionStream session response).activeSessionStreams.get? other =
      if other = session then
        if streams.erase response = ∅ then none else some (streams.erase response)
      else s.activeSessionStreams.get? other := by
  rw [unregisterSessionStream, hstreams]
  simp only
  split_ifs with hempty heq heq
  · rw [InsertionMap.get?_delete, if_pos heq]
  · rw [InsertionMap.get?_delete, if_neg heq]
  · rw [InsertionMap.get?_set, if_pos heq]
  · rw [InsertionMap.get?_set, if_neg heq]

theorem streamsOf_unregister (s : SessionStreams) (session : String) (response : ℕ)
    (other : String) :
    (s.unregisterSessionStream session response).streamsOf other ⊆ s.streamsOf other := by
  cases hstreams : s.activeSessionStreams.get? session with
  | none => rw [unregisterSessionStream, hstreams]
  | some streams =>
    rw [streamsOf, get?_unregister hstreams]
    split_ifs with heq hempty
    · exact Finset.empty_subset _
    · rw [streamsOf, heq, hstreams]
      exact Finset.erase_subset ..
    · exact Finset.Subset.refl _

/-- The count follows the sets. -/
theorem total_unregister (hs : s.activeStreamCount = s.activeSessionStreams.total Finset.card) :
    (s.unregisterSessionStream session response).activeStreamCount =
      (s.unregisterSessionStream session response).activeSessionStreams.total Finset.card := by
  cases hstreams : s.activeSessionStreams.get? session with
  | none =>
    rw [unregisterSessionStream, hstreams]
    exact hs
  | some streams =>
    have herase : (if response ∈ streams then streams.card - 1 else streams.card) =
        (streams.erase response).card := by
      split_ifs with hmem
      · exact (Finset.card_erase_of_mem hmem).symm
      · rw [Finset.erase_eq_of_notMem hmem]
    have hpos (hmem : response ∈ streams) : 0 < streams.card := Finset.card_pos.2 ⟨_, hmem⟩
    have hdelete := InsertionMap.total_delete Finset.card s.activeSessionStreams session
    have hset := InsertionMap.total_set Finset.card s.activeSessionStreams session
      (streams.erase response)
    rw [hstreams, Option.elim_some] at hdelete hset
    rw [unregisterSessionStream, hstreams]
    simp only
    by_cases hempty : streams.erase response = ∅
    · rw [if_pos hempty]
      rw [hempty, Finset.card_empty] at herase
      split_ifs at herase ⊢ with hmem
      · have := hpos hmem
        omega
      · omega
    · rw [if_neg hempty]
      split_ifs at herase ⊢ with hmem
      · have := hpos hmem
        omega
      · omega

theorem count_unregister (s : SessionStreams) (session : String) (response : ℕ) :
    (s.unregisterSessionStream session response).activeStreamCount ≤ s.activeStreamCount := by
  rw [unregisterSessionStream]
  split
  · exact le_refl _
  · simp only
    split_ifs
    · exact Nat.sub_le ..
    · exact le_refl _

theorem unregister_rest (s : SessionStreams) (session : String) (response : ℕ) :
    (s.unregisterSessionStream session response).handlers = s.handlers ∧
      (s.unregisterSessionStream session response).ended = s.ended ∧
      (s.unregisterSessionStream session response).sessions = s.sessions := by
  rw [unregisterSessionStream]
  split
  · exact ⟨rfl, rfl, rfl⟩
  · exact ⟨rfl, rfl, rfl⟩

theorem coherent_unregister (session : String) (response : ℕ) (hs : Coherent limits s) :
    Coherent limits (s.unregisterSessionStream session response) := by
  obtain ⟨hhandlers, hended, hsessions⟩ := unregister_rest s session response
  refine
    { count := total_unregister hs.count
      bounded := (count_unregister ..).trans hs.bounded
      sizes := fun other left hleft => ?_
      keyed := fun other response' hmem => ?_
      named := by rw [hsessions, hs.named]
      kept := by
        rw [hsessions]
        exact hs.kept
      revoked := fun other hother hnone => ?_ }
  · cases hstreams : s.activeSessionStreams.get? session with
    | none =>
      rw [unregisterSessionStream, hstreams] at hleft
      exact hs.sizes other left hleft
    | some streams =>
      rw [get?_unregister hstreams] at hleft
      split_ifs at hleft with heq hempty
      · cases hleft
        subst heq
        refine ⟨Finset.card_pos.2 (Finset.nonempty_iff_ne_empty.2 hempty), fun hother => ?_⟩
        exact (Finset.card_erase_le).trans ((hs.sizes other streams hstreams).2 hother)
      · exact hs.sizes other left hleft
  · rw [handlerOf, hhandlers]
    exact hs.keyed other response' (streamsOf_unregister s session response other hmem)
  · rw [hended]
    rw [hsessions] at hnone
    exact (streamsOf_unregister s session response other).trans (hs.revoked other hother hnone)

end

theorem coherent_setTimers {limits : StreamLimits} {s : SessionStreams} (timers : Finset ℕ)
    (hs : Coherent limits s) : Coherent limits { s with timers } :=
  ⟨hs.count, hs.bounded, hs.sizes, hs.keyed, hs.named, hs.kept, hs.revoked⟩

theorem coherent_closeStream {limits : StreamLimits} {s : SessionStreams} (response : ℕ)
    (cookieSession : String) (hs : Coherent limits s) :
    Coherent limits (s.closeStream response cookieSession) :=
  (ends_endResponse _ response).coherent
    (coherent_unregister cookieSession response (coherent_setTimers _ hs))

/-! Runs -/

theorem step_coherent {limits : StreamLimits} (s : SessionStreams) (e : SessionEvent)
    (s' : SessionStreams) (hstep : step limits s e = some s') (hs : Coherent limits s) :
    Coherent limits s' := by
  cases e with
  | issue token now =>
    cases hstep
    exact coherent_issueSession token now hs
  | logout cookie =>
    cases hstep
    exact (ends_revokeSession s cookie).coherent hs
  | authenticate cookie now =>
    cases hstep
    exact (ends_validSession s cookie now).coherent hs
  | openStream cookie now =>
    cases hstep
    exact coherent_openStream cookie now hs
  | emit response now =>
    obtain ⟨-, hmap⟩ := Option.ite_none_right_eq_some.1 hstep
    obtain ⟨session, -, rfl⟩ := Option.map_eq_some_iff.1 hmap
    exact (ends_beginEmit s response session now).coherent hs
  | settle response now =>
    obtain ⟨-, hmap⟩ := Option.ite_none_right_eq_some.1 hstep
    obtain ⟨session, -, rfl⟩ := Option.map_eq_some_iff.1 hmap
    exact (ends_finishEmit s response session now).coherent hs
  | disconnect response =>
    obtain ⟨-, heq⟩ := Option.ite_none_right_eq_some.1 hstep
    cases heq
    exact (ends_endResponse s response).coherent hs
  | close response =>
    obtain ⟨-, hmap⟩ := Option.ite_none_right_eq_some.1 hstep
    obtain ⟨session, -, rfl⟩ := Option.map_eq_some_iff.1 hmap
    exact coherent_closeStream response session hs

/-- No step takes a handler or an end back. -/
structure Extends (s s' : SessionStreams) : Prop where
  handlers : s.handlers <+: s'.handlers
  ended : s.ended ⊆ s'.ended

namespace Extends

variable {s s' s'' : SessionStreams}

theorem refl (s : SessionStreams) : Extends s s := ⟨List.prefix_refl _, Finset.Subset.refl _⟩

theorem trans (h : Extends s s') (h' : Extends s' s'') : Extends s s'' :=
  ⟨h.handlers.trans h'.handlers, h.ended.trans h'.ended⟩

theorem handlerOf_eq (h : Extends s s') {response : ℕ} (hbound : response < s.handlers.length) :
    s'.handlerOf response = s.handlerOf response := by
  obtain ⟨handlers, hhandlers⟩ := h.handlers
  exact handlerOf_append hhandlers.symm hbound

end Extends

theorem Ends.extends {s s' : SessionStreams} (h : Ends s s') : Extends s s' :=
  ⟨h.handlers ▸ List.prefix_refl _, h.ended⟩

theorem extends_issueSession (s : SessionStreams) (token : SessionToken) (now : ℕ) :
    Extends s (s.issueSession token now) :=
  have hevicted := (ends_expireSessions s now).trans (ends_evictOldest _ _)
  ⟨hevicted.extends.handlers, hevicted.extends.ended⟩

theorem extends_openStream (limits : StreamLimits) (s : SessionStreams) (cookie : String)
    (now : ℕ) : Extends s (s.openStream limits cookie now) := by
  refine (ends_validSession s cookie now).extends.trans ?_
  obtain ⟨-, -, hregisters⟩ | hrefused := openStream_cases limits s cookie now
  · refine ⟨hregisters.handlers ▸ List.prefix_append .., ?_⟩
    rw [hregisters.ended]
  · rw [hrefused]
    exact ⟨List.prefix_append .., Finset.Subset.refl _⟩

theorem extends_closeStream (s : SessionStreams) (response : ℕ) (cookieSession : String) :
    Extends s (s.closeStream response cookieSession) := by
  obtain ⟨hhandlers, hended, -⟩ := unregister_rest
    { s with timers := s.timers.erase response } cookieSession response
  refine Extends.trans ⟨?_, ?_⟩ (ends_endResponse _ response).extends
  · rw [hhandlers]
  · rw [hended]

theorem step_extends {limits : StreamLimits} (s : SessionStreams) (e : SessionEvent)
    (s' : SessionStreams) (hstep : step limits s e = some s') : Extends s s' := by
  cases e with
  | issue token now =>
    cases hstep
    exact extends_issueSession s token now
  | logout cookie =>
    cases hstep
    exact (ends_revokeSession s cookie).extends
  | authenticate cookie now =>
    cases hstep
    exact (ends_validSession s cookie now).extends
  | openStream cookie now =>
    cases hstep
    exact extends_openStream limits s cookie now
  | emit response now =>
    obtain ⟨-, hmap⟩ := Option.ite_none_right_eq_some.1 hstep
    obtain ⟨session, -, rfl⟩ := Option.map_eq_some_iff.1 hmap
    exact (ends_beginEmit s response session now).extends
  | settle response now =>
    obtain ⟨-, hmap⟩ := Option.ite_none_right_eq_some.1 hstep
    obtain ⟨session, -, rfl⟩ := Option.map_eq_some_iff.1 hmap
    exact (ends_finishEmit s response session now).extends
  | disconnect response =>
    obtain ⟨-, heq⟩ := Option.ite_none_right_eq_some.1 hstep
    cases heq
    exact (ends_endResponse s response).extends
  | close response =>
    obtain ⟨-, hmap⟩ := Option.ite_none_right_eq_some.1 hstep
    obtain ⟨session, -, rfl⟩ := Option.map_eq_some_iff.1 hmap
    exact extends_closeStream s response session

section

variable {limits : StreamLimits} {s s' : SessionStreams} {es : List SessionEvent}

theorem run_coherent (h : Steps (step limits) anyStep {} es s) : Coherent limits s :=
  h.invariant (fun s e s' _ => step_coherent s e s') (coherent_new limits)

theorem run_extends (h : Steps (step limits) anyStep s es s') : Extends s s' :=
  h.invariant (fun mid e next _ hstep hmid => hmid.trans (step_extends mid e next hstep))
    (.refl s)

/-- A refused or anonymous stream is never registered under the session of its cookie. -/
theorem openStream_invalid {cookie : String} {now : ℕ} (hcookie : cookie ≠ "")
    (hinvalid : s.IsInvalid cookie now) :
    s.handlers.length < (s.openStream limits cookie now).handlers.length ∧
      (s.openStream limits cookie now).handlerOf s.handlers.length ≠ some cookie := by
  have hhandlers := (ends_validSession s cookie now).handlers
  have hanonymous : s.cookieSession cookie now = "" := by
    rw [cookieSession, if_neg]
    exact fun hvalid => (get?_of_validSession hvalid).2 hinvalid
  obtain ⟨-, -, hregisters⟩ | hrefused := openStream_cases limits s cookie now
  · rw [hregisters.handlers, hhandlers, List.length_append]
    refine ⟨Nat.lt_succ_self _, ?_⟩
    have hnew := hregisters.handlerOf_new
    rw [hhandlers, hanonymous] at hnew
    rw [hnew]
    exact fun heq => hcookie (Option.some.inj heq).symm
  · rw [hrefused, handlerOf, hhandlers, List.length_append, List.getElem?_concat_length]
    exact ⟨Nat.lt_succ_self _, fun heq => by cases heq⟩

end

/-- In every run the registry is sound; a session that is gone leaves ended streams only, for
good, and a stream opened with its cookie is never registered under it. -/
theorem streams_follow_sessions (limits : StreamLimits) (es : List SessionEvent)
    (s : SessionStreams) (h : Steps (step limits) anyStep {} es s) :
    RegistryInvariant limits s ∧
      (∀ session, session ≠ "" → s.sessions.get? session = none →
        ∀ es' s', Steps (step limits) anyStep s es' s' → s.streamsOf session ⊆ s'.ended) ∧
      ∀ cookie now, cookie ≠ "" → s.IsInvalid cookie now →
        ∀ s', step limits s (.openStream cookie now) = some s' →
          ∀ es' s'', Steps (step limits) anyStep s' es' s'' →
            s.handlers.length ∉ s''.streamsOf cookie := by
  have hs := run_coherent h
  refine ⟨hs.registryInvariant, ?_, ?_⟩
  · intro session hsession hnone es' s' h'
    exact (hs.revoked session hsession hnone).trans (run_extends h').ended
  · intro cookie now hcookie hinvalid s' hstep es' s'' h' hmem
    obtain ⟨hbound, hkey⟩ := @openStream_invalid limits s cookie now hcookie hinvalid
    cases hstep
    have hs' := h'.invariant (fun s e s' _ => step_coherent s e s')
      (coherent_openStream cookie now hs)
    have hregistered := hs'.keyed cookie s.handlers.length hmem
    rw [(run_extends h').handlerOf_eq hbound] at hregistered
    exact hkey hregistered

/-- The defaults of the configuration. -/
def defaultLimits : StreamLimits := ⟨8, 128, by decide, by decide⟩

def loggedOutToken : SessionToken := ⟨"q3m0vY5tQm1hX0b9J7d2cK8sLw4nRzP6uVaE_gT-iFo", by decide⟩

/-- A stream that is open when its session logs out. -/
def loggedOut : List SessionEvent :=
  [.issue loggedOutToken 1000, .openStream loggedOutToken.text 2000, .emit 0 2000,
    .logout loggedOutToken.text]

theorem streams_follow_sessions_at_logout :
    ∃ s, run (step defaultLimits) anyStep {} loggedOut = some s ∧
      s.streamsOf loggedOutToken.text = {0} ∧ RegistryInvariant defaultLimits s ∧
      s.streamsOf loggedOutToken.text ⊆ s.ended ∧
      s.handlers.length ∉ (s.openStream defaultLimits loggedOutToken.text 3000).streamsOf
        loggedOutToken.text := by
  obtain ⟨s, hrun⟩ : ∃ s, run (step defaultLimits) anyStep {} loggedOut = some s :=
    Option.isSome_iff_exists.1 (by decide +kernel)
  have hstreams : (run (step defaultLimits) anyStep {} loggedOut).map
      (fun s => (s.streamsOf loggedOutToken.text, s.sessions.get? loggedOutToken.text)) =
        some ({0}, none) := by
    decide +kernel
  rw [hrun, Option.map_some, Option.some.injEq, Prod.mk.injEq] at hstreams
  obtain ⟨hstreams, hnone⟩ := hstreams
  obtain ⟨hinvariant, hended, hopened⟩ :=
    streams_follow_sessions defaultLimits loggedOut s (.of_run hrun)
  refine ⟨s, hrun, hstreams, hinvariant,
    hended loggedOutToken.text (by decide) hnone [] s .nil,
    hopened loggedOutToken.text 3000 (by decide) ?_ _ rfl [] _ .nil⟩
  intro expiresAt hget
  rw [hnone] at hget
  cases hget

end SessionStreams

end DockerMap.Api
