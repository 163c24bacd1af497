import DockerMap.Api.Authentication
import DockerMap.Lib.Chronicle
import DockerMap.Proofs.Logout
import DockerMap.Proofs.RoutePolicy

/-! What stands behind a request that is served: whatever runs, and in whatever order, no handler
but that of the session route runs for a request that nobody vouched for when it arrived. -/

namespace DockerMap.Api

open Runs

/-! The table of sessions -/

namespace SessionStreams

/-- The entry has run out. -/
def HasExpired (now : ℕ) (e : String × ℕ) : Prop := e.2 ≤ now

/-- Only sessions that have run out are gone. -/
abbrev Expires (now : ℕ) (s s' : SessionStreams) : Prop :=
  s.sessions.DropsOnly (HasExpired now) s'.sessions

variable {s : SessionStreams} {now : ℕ}

theorem expires_of_eq {s' : SessionStreams} (h : s'.sessions = s.sessions) : Expires now s s' := by
  rw [Expires, h]
  exact .refl _

theorem expires_validSession (s : SessionStreams) (session : String) (now : ℕ) :
    Expires now s (s.validSession session now).1 := by
  rw [validSession]
  cases hget : s.sessions.get? session with
  | none => exact .refl _
  | some expiresAt =>
    dsimp only
    split_ifs with hzero hexpired
    · exact .refl _
    · refine .delete fun v hv => ?_
      rw [hget] at hv
      cases hv
      exact hexpired
    · exact .refl _

theorem expires_admits (s : SessionStreams) (cookieSession : String) (now : ℕ) :
    Expires now s (s.admits cookieSession now).1 := by
  rw [admits]
  split_ifs
  · exact .refl _
  · exact expires_validSession s cookieSession now

theorem expires_beginEmit (s : SessionStreams) (response : ℕ) (cookieSession : String) (now : ℕ) :
    Expires now s (s.beginEmit response cookieSession now) := by
  rw [beginEmit]
  split_ifs
  · exact .refl _
  · have hadmits := expires_admits s cookieSession now
    generalize s.admits cookieSession now = answer at hadmits
    obtain ⟨checked, _ | _⟩ := answer
    · exact hadmits
    · exact hadmits

theorem expires_finishEmit (s : SessionStreams) (response : ℕ) (cookieSession : String)
    (now : ℕ) : Expires now s (s.finishEmit response cookieSession now) := by
  rw [finishEmit]
  split_ifs
  · exact .refl _
  · have hadmits := expires_admits { s with busy := s.busy.erase response } cookieSession now
    generalize admits { s with busy := s.busy.erase response } cookieSession now = answer at hadmits
    obtain ⟨checked, _ | _⟩ := answer
    · exact hadmits
    · exact hadmits

theorem expires_openStream (limits : StreamLimits) (s : SessionStreams) (cookie : String)
    (now : ℕ) : Expires now s (s.openStream limits cookie now) := by
  refine (expires_validSession s cookie now).trans (expires_of_eq ?_)
  obtain ⟨-, -, hregisters⟩ | hrefused := openStream_cases limits s cookie now
  · exact hregisters.sessions
  · rw [hrefused]

theorem sessions_closeStream (s : SessionStreams) (response : ℕ) (cookieSession : String) :
    (s.closeStream response cookieSession).sessions = s.sessions :=
  (unregister_rest { s with timers := s.timers.erase response } cookieSession response).2.2

/-- Whether the event belongs to a stream that is open. -/
def IsStreamEvent (now : ℕ) (e : SessionEvent) : Prop :=
  ∃ response, e = .emit response now ∨ e = .settle response now ∨ e = .disconnect response ∨
    e = .close response

theorem expires_streamEvent {limits : StreamLimits} {e : SessionEvent} {s' : SessionStreams}
    (he : IsStreamEvent now e) (hstep : step limits s e = some s') : Expires now s s' := by
  obtain ⟨response, rfl | rfl | rfl | rfl⟩ := he
  · obtain ⟨-, hmap⟩ := Option.ite_none_right_eq_some.1 hstep
    obtain ⟨session, -, rfl⟩ := Option.map_eq_some_iff.1 hmap
    exact expires_beginEmit s response session now
  · obtain ⟨-, hmap⟩ := Option.ite_none_right_eq_some.1 hstep
    obtain ⟨session, -, rfl⟩ := Option.map_eq_some_iff.1 hmap
    exact expires_finishEmit s response session now
  · obtain ⟨-, heq⟩ := Option.ite_none_right_eq_some.1 hstep
    cases heq
    exact .refl _
  · obtain ⟨-, hmap⟩ := Option.ite_none_right_eq_some.1 hstep
    obtain ⟨session, -, rfl⟩ := Option.map_eq_some_iff.1 hmap
    exact expires_of_eq (sessions_closeStream s response session)

/-- A session that is there after another was issued is that one, or was there before. -/
theorem get?_issueSession {token : SessionToken} {session : String} {expiresAt : ℕ}
    (h : (s.issueSession token now).sessions.get? session = some expiresAt) :
    session = token.text ∧ expiresAt = now + sessionTtlMs ∨
      s.sessions.get? session = some expiresAt := by
  have hends := (ends_expireSessions s now).trans (ends_evictOldest
    (s.expireSessions now).sessions.size (s.expireSessions now))
  rw [issueSession] at h
  generalize evictOldest (s.expireSessions now).sessions.size (s.expireSessions now) = evicted
    at h hends
  have hget : (evicted.sessions.set token.text (now + sessionTtlMs)).get? session =
      some expiresAt := h
  rw [InsertionMap.get?_set] at hget
  split_ifs at hget with heq
  · exact Or.inl ⟨heq, (Option.some.inj hget).symm⟩
  · right
    obtain hkept | ⟨hnone, -⟩ := hends.sessions session
    · rw [← hkept]
      exact hget
    · rw [hnone] at hget
      cases hget

end SessionStreams

/-! What a request is served for -/

/-- The entry takes the session away. -/
def Revokes (session : String) (e : Entry) : Prop := ∃ arrival, e = .revoked arrival session

/-- Someone vouched for the request when it arrived: nobody had to, the proxy in front did, or it
carried the token of the API, or a session that a request with that token was given. -/
inductive Vouched (config : ApiConfig) (log : List Entry) (arrival : Arrival) : Prop
  | unguarded (hmode : config.authMode = .none)
  | forwarded (hmode : config.authMode = .forwardAuth)
      (huser : arrival.request.user.getD "" ≠ "")
  | token (hmode : config.authMode = .bearer)
      (htoken : arrival.request.presentsToken config = true)
  | session (issuer : Arrival) (issuedAt : ℕ) (hmode : config.authMode = .bearer)
      (hissuer : ∃ received ∈ issuer.request.bodyToken, config.matchesApiToken received = true)
      (hstands : Chronicle.Stands (Revokes (arrival.request.session config))
        (.issued issuer (arrival.request.session config) issuedAt) log)
      (hlive : arrival.time < issuedAt + sessionTtlMs)

/-- What the entries before an entry say about it. -/
def Reason (config : ApiConfig) (express : Server.Express) (earlier : List Entry) : Entry → Prop
  | .arrived arrival verdict =>
      verdict = .next → arrival.request.isExempt config = true ∨ Vouched config earlier arrival
  | .served arrival route =>
      .arrived arrival .next ∈ earlier ∧
        route = express arrival.request.method arrival.request.path
  | .issued arrival _ _ =>
      config.authMode = .bearer ∧
        ∃ received ∈ arrival.request.bodyToken, config.matchesApiToken received = true
  | .revoked arrival session => session = arrival.request.session config

def servedNumber : Entry → Option ℕ
  | .served arrival _ => some arrival.number
  | _ => none

def servedNumbers (log : List Entry) : List ℕ := log.filterMap servedNumber

namespace Server

variable {config : ApiConfig} {express : Express} {s s' : Server}

structure Sound (config : ApiConfig) (express : Express) (s : Server) : Prop where
  justified : Chronicle.Justified (Reason config express) s.log
  /-- A session that is in the table was issued, and nobody logged out of it since. -/
  sessions : ∀ session expiresAt, s.streams.sessions.get? session = some expiresAt →
    ∃ issuer issuedAt, expiresAt = issuedAt + sessionTtlMs ∧
      Chronicle.Stands (Revokes session) (.issued issuer session issuedAt) s.log
  pending : ∀ arrival ∈ s.pending, .arrived arrival .next ∈ s.log
  numbered : ∀ number ∈ s.pending.map Arrival.number ++ servedNumbers s.log, number < s.arrivals
  once : (s.pending.map Arrival.number ++ servedNumbers s.log).Nodup

theorem sound_new : Sound config express {} where
  justified := Chronicle.justified_nil
  sessions _ _ h := by cases h
  pending _ h := by cases h
  numbered _ h := by cases h
  once := List.nodup_nil

/-! The gate -/

/-- Why the gate lets a request through. -/
inductive Passes (config : ApiConfig) (streams : SessionStreams) (request : ApiRequest) (now : ℕ) :
    Prop
  | exempt (h : request.isExempt config = true)
  | forwarded (hmode : config.authMode = .forwardAuth) (huser : request.user.getD "" ≠ "")
  | token (hmode : config.authMode = .bearer) (htoken : request.presentsToken config = true)
  | session (hmode : config.authMode = .bearer)
      (hvalid : (streams.validSession (request.session config) now).2 = true)

variable (config) in
theorem requireAuthentication_cases (streams : SessionStreams) (request : ApiRequest) (now : ℕ) :
    SessionStreams.Expires now streams (request.requireAuthentication config streams now).1 ∧
      ((request.requireAuthentication config streams now).2 = .next →
        Passes config streams request now) := by
  rw [ApiRequest.requireAuthentication]
  by_cases hexempt : request.isExempt config = true
  · rw [if_pos hexempt]
    exact ⟨.refl _, fun _ => .exempt hexempt⟩
  rw [if_neg hexempt]
  by_cases hbearer : config.authMode = .bearer
  · rw [if_pos hbearer]
    by_cases htoken : request.presentsToken config = true
    · rw [if_pos htoken]
      exact ⟨.refl _, fun _ => .token hbearer htoken⟩
    rw [if_neg htoken]
    by_cases hscheme : request.hasNoScheme = true
    · rw [if_pos hscheme]
      refine ⟨SessionStreams.expires_validSession .., fun hnext => .session hbearer ?_⟩
      dsimp only at hnext
      split_ifs at hnext with hvalid
      · exact hvalid
    · rw [if_neg hscheme]
      exact ⟨.refl _, fun hnext => by cases hnext⟩
  · rw [if_neg hbearer]
    by_cases huser : request.user.getD "" = ""
    · rw [if_pos huser]
      exact ⟨.refl _, fun hnext => by cases hnext⟩
    · rw [if_neg huser]
      refine ⟨.refl _, fun _ => .forwarded ?_ huser⟩
      have hnone : config.authMode ≠ .none := fun hmode =>
        hexempt (by rw [ApiRequest.isExempt, hmode]; simp)
      cases hmode : config.authMode with
      | none => exact absurd hmode hnone
      | bearer => exact absurd hmode hbearer
      | forwardAuth => rfl

variable (config) in
/-- What happens when a request arrives. -/
theorem arrive_cases (s : Server) (request : ApiRequest) (now : ℕ) :
    ∃ verdict, (s.arrive config request now).log =
        s.log ++ [.arrived ⟨s.arrivals, request, now⟩ verdict] ∧
      (s.arrive config request now).pending =
        s.pending ++ (if verdict = .next then [⟨s.arrivals, request, now⟩] else []) ∧
      (s.arrive config request now).arrivals = s.arrivals + 1 ∧
      (s.arrive config request now).clock = now ∧
      SessionStreams.Expires now s.streams (s.arrive config request now).streams ∧
      (verdict = .next → Passes config s.streams request now) := by
  obtain ⟨hexpires, hpasses⟩ := requireAuthentication_cases config s.streams request now
  rw [arrive]
  generalize limitSessionAttempts config.authMode s.sessionAttemptsBySource
    (request.attempt now) = limited
  obtain ⟨table, _ | seconds⟩ := limited
  · exact ⟨_, rfl, rfl, rfl, rfl, hexpires, hpasses⟩
  · exact ⟨.rateLimited seconds, rfl, (List.append_nil _).symm, rfl, rfl, .refl _,
      fun h => by cases h⟩

/-! The handlers -/

/-- What a handler does: it issues a session, it takes one away, or it does neither. -/
inductive Serves (config : ApiConfig) (route : Option RouteId) (s : Server) (arrival : Arrival)
    (token : SessionToken) (now : ℕ) (s' : Server) : Prop
  | issues (hbearer : config.authMode = .bearer)
      (htoken : ∃ received ∈ arrival.request.bodyToken, config.matchesApiToken received = true)
      (hlog : s'.log =
        s.log ++ [.served arrival route] ++ [.issued arrival token.text now])
      (hstreams : s'.streams = s.streams.issueSession token now)
  | revokes (hlog : s'.log = s.log ++ [.served arrival route] ++
        [.revoked arrival (arrival.request.session config)])
      (hstreams : s'.streams = s.streams.revokeSession (arrival.request.session config))
  | answers (hlog : s'.log = s.log ++ [.served arrival route])
      (hstreams : SessionStreams.Expires now s.streams s'.streams)

variable (config) in
theorem serve_rest (route : Option RouteId) (s : Server) (arrival : Arrival)
    (token : SessionToken) (now : ℕ) :
    (serve config route s arrival token now).pending = s.pending ∧
      (serve config route s arrival token now).arrivals = s.arrivals ∧
      (serve config route s arrival token now).clock = s.clock := by
  unfold serve
  split
  · split_ifs
    · exact ⟨rfl, rfl, rfl⟩
    · exact ⟨rfl, rfl, rfl⟩
  · exact ⟨rfl, rfl, rfl⟩
  · exact ⟨rfl, rfl, rfl⟩
  · exact ⟨rfl, rfl, rfl⟩

variable (config) in
theorem serve_cases (route : Option RouteId) (s : Server) (arrival : Arrival)
    (token : SessionToken) (now : ℕ) :
    Serves config route s arrival token now (serve config route s arrival token now) := by
  unfold serve
  split
  · split_ifs with hissues
    · refine .issues hissues.1 ?_ rfl rfl
      have hany := hissues.2
      rw [Option.any_eq_true] at hany
      exact hany
    · exact .answers rfl (.refl _)
  · exact .revokes rfl rfl
  · exact .answers rfl (SessionStreams.expires_openStream ..)
  · exact .answers rfl (.refl _)

/-! Steps -/

/-- The step is one of an open stream, which reads and writes nothing but the streams. -/
structure Streams (s s' : Server) : Prop where
  log : s'.log = s.log
  pending : s'.pending = s.pending
  arrivals : s'.arrivals = s.arrivals
  expires : SessionStreams.Expires s'.clock s.streams s'.streams

theorem streams_streamStep {e : SessionEvent} (he : SessionStreams.IsStreamEvent s.clock e)
    (hstep : s.streamStep config e = some s') : Streams s s' ∧ s'.clock = s.clock := by
  obtain ⟨streams, hstreams, rfl⟩ := Option.map_eq_some_iff.1 hstep
  exact ⟨⟨rfl, rfl, rfl, SessionStreams.expires_streamEvent he hstreams⟩, rfl⟩

/-- What one step does. -/
theorem step_cases {e : ServerEvent} (hstep : step config express s e = some s') :
    (∃ request now, e = .arrive request now ∧ s' = s.arrive config request now) ∨
      (∃ arrival token now, e = .handle arrival token now ∧ arrival ∈ s.pending ∧
        s' = serve config (express arrival.request.method arrival.request.path)
          { s with pending := s.pending.erase arrival, clock := now } arrival token now) ∨
      Streams s s' ∧ ((∃ response, e = .emit response s'.clock ∨ e = .settle response s'.clock) ∨
        s'.clock = s.clock) := by
  cases e with
  | arrive request now =>
    cases hstep
    exact Or.inl ⟨request, now, rfl, rfl⟩
  | handle arrival token now =>
    obtain ⟨hmem, heq⟩ := Option.ite_none_right_eq_some.1 hstep
    exact Or.inr (Or.inl ⟨arrival, token, now, rfl, hmem, (Option.some.inj heq).symm⟩)
  | emit response now =>
    obtain ⟨⟨hlog, hpending, harrivals, hexpires⟩, hclock⟩ := streams_streamStep
      (s := { s with clock := now }) ⟨response, Or.inl rfl⟩ hstep
    exact Or.inr (Or.inr ⟨⟨hlog, hpending, harrivals, hexpires⟩,
      Or.inl ⟨response, Or.inl (by rw [hclock])⟩⟩)
  | settle response now =>
    obtain ⟨⟨hlog, hpending, harrivals, hexpires⟩, hclock⟩ := streams_streamStep
      (s := { s with clock := now }) ⟨response, Or.inr (Or.inl rfl)⟩ hstep
    exact Or.inr (Or.inr ⟨⟨hlog, hpending, harrivals, hexpires⟩,
      Or.inl ⟨response, Or.inr (by rw [hclock])⟩⟩)
  | disconnect response =>
    obtain ⟨hstreams, hclock⟩ := streams_streamStep
      ⟨response, Or.inr (Or.inr (Or.inl rfl))⟩ hstep
    exact Or.inr (Or.inr ⟨hstreams, Or.inr hclock⟩)
  | close response =>
    obtain ⟨hstreams, hclock⟩ := streams_streamStep
      ⟨response, Or.inr (Or.inr (Or.inr rfl))⟩ hstep
    exact Or.inr (Or.inr ⟨hstreams, Or.inr hclock⟩)

/-! The invariant -/

theorem not_revokes_arrived (session : String) (arrival : Arrival) (verdict : GateVerdict) :
    ¬ Revokes session (.arrived arrival verdict) := fun ⟨_, h⟩ => by cases h

theorem not_revokes_served (session : String) (arrival : Arrival) (route : Option RouteId) :
    ¬ Revokes session (.served arrival route) := fun ⟨_, h⟩ => by cases h

theorem not_revokes_issued (session : String) (arrival : Arrival) (other : String) (now : ℕ) :
    ¬ Revokes session (.issued arrival other now) := fun ⟨_, h⟩ => by cases h

/-- A session that the check accepts is in the table and has time left. -/
theorem exists_of_validSession {streams : SessionStreams} {session : String} {now : ℕ}
    (h : (streams.validSession session now).2 = true) :
    ∃ expiresAt, streams.sessions.get? session = some expiresAt ∧ now < expiresAt := by
  by_contra hnone
  refine (SessionStreams.get?_of_validSession h).2 fun expiresAt hget => ?_
  exact not_lt.1 fun hlt => hnone ⟨expiresAt, hget, hlt⟩

/-- What passes the gate is exempt, or someone vouched for it. -/
theorem Sound.vouched (hs : Sound config express s) {request : ApiRequest} {now : ℕ}
    (h : Passes config s.streams request now) (number : ℕ) :
    request.isExempt config = true ∨ Vouched config s.log ⟨number, request, now⟩ := by
  cases h with
  | exempt h => exact Or.inl h
  | forwarded hmode huser => exact Or.inr (.forwarded hmode huser)
  | token hmode htoken => exact Or.inr (.token hmode htoken)
  | session hmode hvalid =>
    obtain ⟨expiresAt, hget, hlt⟩ := exists_of_validSession hvalid
    obtain ⟨issuer, issuedAt, rfl, hstands⟩ := hs.sessions _ _ hget
    obtain ⟨earlier, later, hlog, -⟩ := id hstands
    obtain ⟨-, hissuer⟩ := hs.justified earlier _ later hlog
    exact Or.inr (.session issuer issuedAt hmode hissuer hstands hlt)

theorem servedNumbers_append (log : List Entry) (e : Entry) :
    servedNumbers (log ++ [e]) = servedNumbers log ++ (servedNumber e).toList := by
  rw [servedNumbers, List.filterMap_append, servedNumbers, List.filterMap_cons]
  cases servedNumber e with
  | none => rfl
  | some number => rfl

theorem sound_arrive (hs : Sound config express s) (request : ApiRequest) (now : ℕ) :
    Sound config express (s.arrive config request now) := by
  obtain ⟨verdict, hlog, hpending, harrivals, -, hexpires, hpasses⟩ :=
    arrive_cases config s request now
  have hserved : servedNumbers (s.arrive config request now).log = servedNumbers s.log := by
    rw [hlog, servedNumbers_append]
    exact List.append_nil _
  refine ⟨?_, ?_, ?_, ?_, ?_⟩
  · rw [hlog]
    exact hs.justified.snoc fun hnext => hs.vouched (hpasses hnext) s.arrivals
  · intro session expiresAt hget
    obtain ⟨issuer, issuedAt, hexpiry, hstands⟩ :=
      hs.sessions session expiresAt (hexpires.get?_eq_some hget)
    rw [hlog]
    exact ⟨issuer, issuedAt, hexpiry, hstands.snoc (not_revokes_arrived _ _ _)⟩
  · intro arrival hmem
    rw [hpending, List.mem_append] at hmem
    rw [hlog, List.mem_append]
    rcases hmem with hmem | hmem
    · exact Or.inl (hs.pending arrival hmem)
    · split_ifs at hmem with hnext
      · rw [List.mem_singleton.1 hmem, hnext]
        exact Or.inr (List.mem_singleton_self _)
      · cases hmem
  · intro number hmem
    rw [hserved, hpending, List.map_append, List.mem_append, List.mem_append] at hmem
    rw [harrivals]
    rcases hmem with (hmem | hmem) | hmem
    · exact Nat.lt_succ_of_lt (hs.numbered number (List.mem_append_left _ hmem))
    · split_ifs at hmem
      · rw [List.mem_singleton.1 hmem]
        exact Nat.lt_succ_self _
      · cases hmem
    · exact Nat.lt_succ_of_lt (hs.numbered number (List.mem_append_right _ hmem))
  · rw [hserved, hpending]
    split_ifs
    · -- the new number is larger than all that are there
      rw [List.map_append, List.append_assoc]
      refine (List.perm_middle.nodup_iff).2 (List.nodup_cons.2 ⟨fun hmem => ?_, hs.once⟩)
      exact lt_irrefl _ (hs.numbered s.arrivals hmem)
    · rw [List.append_nil]
      exact hs.once

theorem sound_streams (hs : Sound config express s) (h : Streams s s') :
    Sound config express s' := by
  obtain ⟨hlog, hpending, harrivals, hexpires⟩ := h
  refine ⟨hlog ▸ hs.justified, fun session expiresAt hget => ?_, ?_, ?_, ?_⟩
  · rw [hlog]
    exact hs.sessions session expiresAt (hexpires.get?_eq_some hget)
  · rw [hlog, hpending]
    exact hs.pending
  · rw [hlog, hpending, harrivals]
    exact hs.numbered
  · rw [hlog, hpending]
    exact hs.once

/-- The table and the log after a handler, before what else it changes. -/
theorem sound_serve (hs : Sound config express s) {arrival : Arrival} (harrival : arrival ∈ s.pending)
    (token : SessionToken) (now : ℕ) :
    Sound config express (serve config (express arrival.request.method arrival.request.path)
      { s with pending := s.pending.erase arrival, clock := now } arrival token now) := by
  obtain ⟨hpending, harrivals, -⟩ := serve_rest config
    (express arrival.request.method arrival.request.path)
    { s with pending := s.pending.erase arrival, clock := now } arrival token now
  have hcases := serve_cases config
    (express arrival.request.method arrival.request.path)
    { s with pending := s.pending.erase arrival, clock := now } arrival token now
  generalize serve config (express arrival.request.method arrival.request.path)
    { s with pending := s.pending.erase arrival, clock := now } arrival token now = s' at *
  have hserved : Chronicle.Justified (Reason config express) (s.log ++ [.served arrival
      (express arrival.request.method arrival.request.path)]) :=
    hs.justified.snoc ⟨hs.pending arrival harrival, rfl⟩
  have hnumbers : (s'.pending.map Arrival.number ++ servedNumbers s'.log).Perm
      (s.pending.map Arrival.number ++ servedNumbers s.log) := by
    have hlog : servedNumbers s'.log = servedNumbers s.log ++ [arrival.number] := by
      cases hcases with
      | issues _ _ hlog _ =>
        rw [hlog, servedNumbers_append, servedNumbers_append]
        exact List.append_nil _
      | revokes hlog _ =>
        rw [hlog, servedNumbers_append, servedNumbers_append]
        exact List.append_nil _
      | answers hlog _ =>
        rw [hlog, servedNumbers_append]
        rfl
    rw [hlog, hpending, ← List.append_assoc]
    refine List.perm_append_comm.trans ?_
    rw [List.singleton_append, ← List.cons_append, ← List.map_cons]
    exact ((List.perm_cons_erase harrival).symm.map _).append_right _
  have hkept : ∀ arrival' ∈ s'.pending, .arrived arrival' .next ∈ s.log := by
    intro arrival' hmem
    rw [hpending] at hmem
    exact hs.pending arrival' (List.mem_of_mem_erase hmem)
  have hrest : (∀ number ∈ s'.pending.map Arrival.number ++ servedNumbers s'.log,
      number < s'.arrivals) ∧ (s'.pending.map Arrival.number ++ servedNumbers s'.log).Nodup := by
    refine ⟨fun number hmem => ?_, hnumbers.nodup_iff.2 hs.once⟩
    rw [harrivals]
    exact hs.numbered number (hnumbers.mem_iff.1 hmem)
  cases hcases with
  | issues hbearer htoken hlog hstreams =>
    refine ⟨?_, fun session expiresAt hget => ?_, fun arrival' hmem => ?_, hrest.1, hrest.2⟩
    · rw [hlog]
      exact hserved.snoc ⟨hbearer, htoken⟩
    · rw [hstreams] at hget
      rw [hlog]
      rcases SessionStreams.get?_issueSession hget with ⟨rfl, hexpiry⟩ | hget
      · exact ⟨arrival, now, hexpiry, Chronicle.stands_new⟩
      · obtain ⟨issuer, issuedAt, hexpiry, hstands⟩ := hs.sessions session expiresAt hget
        exact ⟨issuer, issuedAt, hexpiry,
          (hstands.snoc (not_revokes_served _ _ _)).snoc (not_revokes_issued _ _ _ _)⟩
    · rw [hlog, List.append_assoc]
      exact List.mem_append_left _ (hkept arrival' hmem)
  | revokes hlog hstreams =>
    refine ⟨?_, fun session expiresAt hget => ?_, fun arrival' hmem => ?_, hrest.1, hrest.2⟩
    · rw [hlog]
      exact hserved.snoc rfl
    · rw [hstreams] at hget
      have hdelete : (s.streams.sessions.delete (arrival.request.session config)).get? session =
          some expiresAt := hget
      rw [InsertionMap.get?_delete] at hdelete
      split_ifs at hdelete with hsession
      obtain ⟨issuer, issuedAt, hexpiry, hstands⟩ := hs.sessions session expiresAt hdelete
      rw [hlog]
      refine ⟨issuer, issuedAt, hexpiry, (hstands.snoc (not_revokes_served _ _ _)).snoc ?_⟩
      rintro ⟨_, hrevoked⟩
      injection hrevoked with _ heq
      exact hsession heq.symm
    · rw [hlog, List.append_assoc]
      exact List.mem_append_left _ (hkept arrival' hmem)
  | answers hlog hstreams =>
    refine ⟨?_, fun session expiresAt hget => ?_, fun arrival' hmem => ?_, hrest.1, hrest.2⟩
    · rw [hlog]
      exact hserved
    · obtain ⟨issuer, issuedAt, hexpiry, hstands⟩ :=
        hs.sessions session expiresAt (hstreams.get?_eq_some hget)
      rw [hlog]
      exact ⟨issuer, issuedAt, hexpiry, hstands.snoc (not_revokes_served _ _ _)⟩
    · rw [hlog]
      exact List.mem_append_left _ (hkept arrival' hmem)

theorem sound_step (e : ServerEvent) (hstep : step config express s e = some s')
    (hs : Sound config express s) : Sound config express s' := by
  rcases step_cases hstep with ⟨request, now, -, rfl⟩ | ⟨arrival, token, now, -, hmem, rfl⟩ |
    ⟨hstreams, -⟩
  · exact sound_arrive hs request now
  · exact sound_serve hs hmem token now
  · exact sound_streams hs hstreams

theorem run_sound {ok : Server → ServerEvent → Prop} {es : List ServerEvent}
    (h : Steps (step config express) ok {} es s) : Sound config express s :=
  h.invariant (fun _ e _ _ hstep => sound_step e hstep) sound_new

/-! Handlers -/

/-- What is relied on of Express: it calls no handler of a route for an `OPTIONS` request, and the
handler of the session route, which is registered first, for a request to that route. -/
structure IsExpress (express : Express) : Prop where
  options : ∀ path, express "OPTIONS" path = none
  session : ∀ path, lowered path ∈ sessionPaths → express "POST" path = some .authSession

theorem session_of_isPublicRoute {request : ApiRequest}
    (h : request.isPublicRoute config = true) :
    request.method = "POST" ∧ lowered request.path ∈ sessionPaths := by
  rw [ApiRequest.isPublicRoute, Bool.and_eq_true, Option.any_eq_true] at h
  obtain ⟨-, route, hroute, hpublic⟩ := h
  refine (route_isSession_iff _ _).1 ⟨route, hroute, ?_⟩
  rw [routeForRequest] at hroute
  exact ((isSession_iff route (List.mem_of_find?_eq_some hroute)).1.1 (by simpa using hpublic))

/-- In every run each request is served at most once; a session is issued for the token only; and
no handler but that of the session route runs for a request that nobody vouched for when it
arrived. -/
theorem served_vouched (config : ApiConfig) (express : Express) (hexpress : IsExpress express)
    (es : List ServerEvent) (s : Server) (h : Steps (step config express) anyStep {} es s) :
    (servedNumbers s.log).Nodup ∧
      (∀ issuer session issuedAt, .issued issuer session issuedAt ∈ s.log →
        ∃ received ∈ issuer.request.bodyToken, config.matchesApiToken received = true) ∧
      ∀ earlier arrival route later, s.log = earlier ++ .served arrival (some route) :: later →
        route ≠ .authSession →
          ∃ before after, earlier = before ++ .arrived arrival .next :: after ∧
            Vouched config before arrival := by
  have hs := run_sound h
  refine ⟨(List.nodup_append'.1 hs.once).2.1, fun issuer session issuedAt hmem => ?_,
    fun earlier arrival route later hlog hroute => ?_⟩
  · obtain ⟨earlier, later, hlog⟩ := List.append_of_mem hmem
    exact (hs.justified earlier _ later hlog).2
  obtain ⟨harrived, hhandler⟩ := hs.justified earlier _ later hlog
  obtain ⟨before, after, rfl⟩ := List.append_of_mem harrived
  refine ⟨before, after, rfl, ?_⟩
  have hreason := hs.justified before (.arrived arrival .next)
    (after ++ .served arrival (some route) :: later)
    (by rw [hlog, List.append_assoc, List.cons_append])
  rcases hreason rfl with hexempt | hvouched
  · rw [ApiRequest.isExempt, Bool.or_eq_true, Bool.or_eq_true, decide_eq_true_eq,
      decide_eq_true_eq] at hexempt
    rcases hexempt with (hoptions | hpublic) | hmode
    · rw [hoptions, hexpress.options] at hhandler
      cases hhandler
    · obtain ⟨hpost, hpath⟩ := session_of_isPublicRoute hpublic
      rw [hpost, hexpress.session _ hpath] at hhandler
      exact absurd (Option.some.inj hhandler) hroute
    · exact .unguarded hmode
  · exact hvouched

/-- A sign-in with the token, and a request with the session it gives. -/
def tokenConfig : ApiConfig where
  authRequired := false
  apiToken := some ⟨"a-token", by decide⟩
  authCookieName := "dockermap_session"
  limits := SessionStreams.defaultLimits

def signIn : ApiRequest where
  method := "POST"
  path := "/api/auth/session".toList
  ip := some "127.0.0.1"
  remoteAddress := some "127.0.0.1"
  authorization := none
  cookie := none
  user := none
  bodyToken := some "a-token"

def readSnapshot : ApiRequest where
  method := "GET"
  path := "/api/v1/snapshot".toList
  ip := some "127.0.0.1"
  remoteAddress := some "127.0.0.1"
  authorization := none
  cookie := some ("theme=dark; dockermap_session=" ++ SessionStreams.loggedOutToken.text)
  user := none
  bodyToken := none

/-- The handlers of the manifest. -/
def manifestExpress : Express := fun method path =>
  (routeForRequest method path).map RouteManifestEntry.id

theorem isExpress_manifest : IsExpress manifestExpress where
  options path := by
    rw [manifestExpress, Option.map_eq_none_iff, routeForRequest, List.find?_eq_none]
    intro route _ hfound
    rw [Bool.and_eq_true, beq_iff_eq] at hfound
    have hmethod : ∀ method : HttpMethod, method.name ≠ "OPTIONS" := by
      intro method
      cases method <;> decide
    exact hmethod route.method hfound.1
  session path hpath := by rw [manifestExpress, routeForRequest_session hpath, Option.map_some,
    sessionRoute]

def signedIn : List ServerEvent :=
  [.arrive signIn 1000, .arrive readSnapshot 1500,
    .handle ⟨0, signIn, 1000⟩ SessionStreams.loggedOutToken 2000, .arrive readSnapshot 3000,
    .handle ⟨2, readSnapshot, 3000⟩ SessionStreams.loggedOutToken 4000]

theorem served_vouched_signedIn : ∃ before after,
    [.arrived ⟨0, signIn, 1000⟩ .next, .arrived ⟨1, readSnapshot, 1500⟩ .unauthorized,
      .served ⟨0, signIn, 1000⟩ (some .authSession),
      .issued ⟨0, signIn, 1000⟩ SessionStreams.loggedOutToken.text 2000,
      .arrived ⟨2, readSnapshot, 3000⟩ .next] =
        before ++ .arrived ⟨2, readSnapshot, 3000⟩ .next :: after ∧
      Vouched tokenConfig before ⟨2, readSnapshot, 3000⟩ := by
  obtain ⟨s, hrun⟩ : ∃ s, run (step tokenConfig manifestExpress) anyStep {} signedIn = some s :=
    Option.isSome_iff_exists.1 (by decide +kernel)
  have hlog : (run (step tokenConfig manifestExpress) anyStep {} signedIn).map Server.log =
      some ([.arrived ⟨0, signIn, 1000⟩ .next, .arrived ⟨1, readSnapshot, 1500⟩ .unauthorized,
        .served ⟨0, signIn, 1000⟩ (some .authSession),
        .issued ⟨0, signIn, 1000⟩ SessionStreams.loggedOutToken.text 2000,
        .arrived ⟨2, readSnapshot, 3000⟩ .next] ++
          [.served ⟨2, readSnapshot, 3000⟩ (some .snapshot)]) := by
    decide +kernel
  rw [hrun, Option.map_some, Option.some.injEq] at hlog
  exact (served_vouched tokenConfig manifestExpress isExpress_manifest signedIn s
    (.of_run hrun)).2.2 _ _ _ [] hlog (by decide)

end Server

end DockerMap.Api
