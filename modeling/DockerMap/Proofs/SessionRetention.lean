import DockerMap.Proofs.Authentication

/-! How long a session lasts. A session makes way for another only when as many were issued after
it as the table holds; until then it serves its cookie for its whole time, unless somebody logs out
of it. -/

namespace DockerMap.Api

open Runs

/-! The table of sessions -/

namespace SessionStreams

/-- The session is in the table, and at most so many were put there after it. -/
def Followed (sessions : InsertionMap String ℕ) (session : String) (expiresAt n : ℕ) : Prop :=
  ∃ before after, sessions.entries = before ++ (session, expiresAt) :: after ∧ after.length ≤ n

variable {s : SessionStreams} {sessions sessions' : InsertionMap String ℕ} {session : String}
  {expiresAt now n : ℕ}

theorem Followed.get? (h : Followed sessions session expiresAt n) :
    sessions.get? session = some expiresAt := by
  obtain ⟨before, after, hentries, -⟩ := h
  rw [InsertionMap.get?_eq_some_iff, hentries]
  exact List.mem_append_right _ List.mem_cons_self

theorem Followed.drops {gone : String × ℕ → Prop} (h : Followed sessions session expiresAt n)
    (hdrops : sessions.DropsOnly gone sessions') (hgone : ¬ gone (session, expiresAt)) :
    Followed sessions' session expiresAt n := by
  obtain ⟨before, after, hentries, hlength⟩ := h
  obtain ⟨before', after', hentries', hsublist⟩ := hdrops.split hentries hgone
  exact ⟨before', after', hentries', hsublist.length_le.trans hlength⟩

theorem Followed.revokeSession (h : Followed s.sessions session expiresAt n) {other : String}
    (hother : other ≠ session) : Followed (s.revokeSession other).sessions session expiresAt n :=
  h.drops (.delete fun _ _ => rfl : InsertionMap.DropsOnly (fun e => e.1 = other) _ _) fun heq => hother heq.symm

theorem expires_expireSessions (s : SessionStreams) (now : ℕ) :
    Expires now s (s.expireSessions now) := by
  have hfold : ∀ (entries : List (String × ℕ)) (s' : SessionStreams),
      (∀ e ∈ entries, e ∈ s.sessions.entries) → s.sessions.DropsOnly (HasExpired now) s'.sessions →
        s.sessions.DropsOnly (HasExpired now)
          (entries.foldl (fun s e => if e.2 ≤ now then s.revokeSession e.1 else s) s').sessions := by
    intro entries
    induction entries with
    | nil => exact fun _ _ h => h
    | cons e entries ih =>
      intro s' hentries hs'
      rw [List.forall_mem_cons] at hentries
      rw [List.foldl_cons]
      refine ih _ hentries.2 ?_
      split_ifs with hexpired
      · refine hs'.trans (.delete fun expiresAt hget => ?_)
        -- the entry of the fold is the only one of its key
        have hkey := hs'.get?_eq_some hget
        rw [InsertionMap.get?_eq_some_iff.2 hentries.1] at hkey
        cases hkey
        exact hexpired
      · exact hs'
  exact hfold s.sessions.entries s (fun _ he => he) (.refl _)

/-- The loop that makes room stops before it reaches a session that few others follow. -/
theorem Followed.evictOldest (turns : ℕ) (h : Followed s.sessions session expiresAt n)
    (hn : n + 1 < maxSessions) :
    Followed (evictOldest turns s).sessions session expiresAt n := by
  induction turns generalizing s with
  | zero => exact h
  | succ turns ih =>
    rw [SessionStreams.evictOldest]
    split_ifs with hroom
    · exact h
    · split
      · exact h
      · rename_i oldest hfirst
        split_ifs
        · exact h
        · refine ih (h.revokeSession ?_)
          rintro rfl
          obtain ⟨before, after, hentries, hlength⟩ := h
          have hsize : s.sessions.size = before.length + (after.length + 1) := by
            rw [InsertionMap.size, hentries, List.length_append, List.length_cons]
          cases before with
          | nil => simp at hsize; omega
          | cons e before =>
            -- the first entry has another key
            have hkey : e.1 = oldest := by
              rw [InsertionMap.first?, hentries] at hfirst
              exact Option.some.inj hfirst
            have hnodup := s.sessions.nodup
            rw [hentries, List.cons_append, List.map_cons, List.nodup_cons, hkey] at hnodup
            exact hnodup.1 (by simp)

theorem Followed.issueSession (h : Followed s.sessions session expiresAt n)
    (hlive : now < expiresAt) (hn : n + 1 < maxSessions) {token : SessionToken}
    (hfresh : s.sessions.get? token.text = none) :
    Followed (s.issueSession token now).sessions session expiresAt (n + 1) := by
  have hexpired := expires_expireSessions s now
  have hends := (ends_expireSessions s now).trans (ends_evictOldest
    (s.expireSessions now).sessions.size (s.expireSessions now))
  have hkept := (h.drops hexpired (not_le.2 hlive)).evictOldest
    (s.expireSessions now).sessions.size hn
  rw [SessionStreams.issueSession]
  generalize SessionStreams.evictOldest (s.expireSessions now).sessions.size
    (s.expireSessions now) = evicted at hkept hends ⊢
  have habsent : evicted.sessions.get? token.text = none := by
    obtain heq | ⟨hnone, -⟩ := hends.sessions token.text
    · rw [heq, hfresh]
    · exact hnone
  obtain ⟨before, after, hentries, hlength⟩ := hkept
  refine ⟨before, after ++ [(token.text, now + sessionTtlMs)], ?_, ?_⟩
  · have hset := InsertionMap.entries_set_of_none (m := evicted.sessions) (k := token.text)
      (fun hmem => InsertionMap.mem_keys_iff.1 hmem habsent) (now + sessionTtlMs)
    rw [hset, hentries, List.append_assoc, List.cons_append]
  · rw [List.length_append, List.length_singleton]
    omega

/-- A session is the last of the table when it is issued. -/
theorem followed_issueSession (s : SessionStreams) {token : SessionToken} (now : ℕ)
    (hfresh : s.sessions.get? token.text = none) :
    Followed (s.issueSession token now).sessions token.text (now + sessionTtlMs) 0 := by
  have hends := (ends_expireSessions s now).trans (ends_evictOldest
    (s.expireSessions now).sessions.size (s.expireSessions now))
  rw [SessionStreams.issueSession]
  generalize SessionStreams.evictOldest (s.expireSessions now).sessions.size
    (s.expireSessions now) = evicted at hends ⊢
  have habsent : evicted.sessions.get? token.text = none := by
    obtain heq | ⟨hnone, -⟩ := hends.sessions token.text
    · rw [heq, hfresh]
    · exact hnone
  exact ⟨evicted.sessions.entries, [], InsertionMap.entries_set_of_none
    (fun hmem => InsertionMap.mem_keys_iff.1 hmem habsent) _, le_refl _⟩

end SessionStreams

/-! Runs -/

def ServerEvent.time : ServerEvent → Option ℕ
  | .arrive _ now => some now
  | .handle _ _ now => some now
  | .emit _ now => some now
  | .settle _ now => some now
  | .disconnect _ => none
  | .close _ => none

def ServerEvent.token : ServerEvent → Option SessionToken
  | .handle _ token _ => some token
  | _ => none

def issuedSession : Entry → Option String
  | .issued _ session _ => some session
  | _ => none

/-- How many sessions the log issues. -/
def issues (log : List Entry) : ℕ := (log.filterMap issuedSession).length

theorem issues_append (log log' : List Entry) : issues (log ++ log') = issues log + issues log' := by
  rw [issues, List.filterMap_append, List.length_append, issues, issues]

namespace Server

/-- The clock does not go back, and no session is drawn twice. -/
def Orderly (s : Server) (e : ServerEvent) : Prop :=
  (∀ now ∈ e.time, s.clock ≤ now) ∧
    ∀ token ∈ e.token, token.text ∉ s.log.filterMap issuedSession

instance (s : Server) (e : ServerEvent) : Decidable (Orderly s e) :=
  inferInstanceAs (Decidable (_ ∧ _))

variable {config : ApiConfig} {express : Express} {s s' : Server}

/-- Every session that was issued and has time left is in the table, unless somebody logged out of
it or enough others came after it. -/
def Retains (s : Server) : Prop :=
  ∀ earlier issuer session issuedAt later,
    s.log = earlier ++ .issued issuer session issuedAt :: later →
      (∀ e ∈ later, ¬ Revokes session e) → issues later < maxSessions →
        s.clock < issuedAt + sessionTtlMs →
          SessionStreams.Followed s.streams.sessions session (issuedAt + sessionTtlMs)
            (issues later)

theorem retains_new : Retains {} := by
  intro earlier issuer session issuedAt later hlog
  exact absurd hlog.symm (List.append_ne_nil_of_right_ne_nil _ (List.cons_ne_nil _ _))

/-- An entry that issues nothing takes no session away that it does not revoke. -/
theorem Retains.snoc (hs : Retains s) {e : Entry} (he : issuedSession e = none)
    (hlog : s'.log = s.log ++ [e]) (hclock : s.clock ≤ s'.clock)
    (hkeeps : ∀ session expiresAt n, ¬ Revokes session e → s'.clock < expiresAt →
      SessionStreams.Followed s.streams.sessions session expiresAt n →
        SessionStreams.Followed s'.streams.sessions session expiresAt n) : Retains s' := by
  intro earlier issuer session issuedAt later hsplit hlater hroom hlive
  rw [hlog] at hsplit
  rcases Chronicle.append_singleton_cases hsplit with ⟨-, rfl, -⟩ | ⟨before, rfl, hbefore⟩
  · cases he
  have hsame : issues (before ++ [e]) = issues before := by
    rw [issues_append, issues, issues, List.filterMap_cons, he]
    rfl
  rw [hsame] at hroom ⊢
  rw [List.forall_mem_append] at hlater
  exact hkeeps session _ _ (hlater.2 e (List.mem_singleton_self e)) hlive
    (hs earlier issuer session issuedAt before hbefore hlater.1 hroom (hclock.trans_lt hlive))

theorem mem_issued (hs : Sound config express s) {session : String} {expiresAt : ℕ}
    (hget : s.streams.sessions.get? session = some expiresAt) :
    session ∈ s.log.filterMap issuedSession := by
  obtain ⟨issuer, issuedAt, -, earlier, later, hlog, -⟩ := hs.sessions session expiresAt hget
  rw [hlog, List.filterMap_append, List.mem_append]
  exact Or.inr (by simp [issuedSession])

/-- The session that is issued follows the others. -/
theorem retains_issued (hs : Retains s) {arrival : Arrival} {token : SessionToken} {now : ℕ}
    (hfresh : s.streams.sessions.get? token.text = none) (hnew : s.clock ≤ now)
    (hlog : s'.log = s.log ++ [.issued arrival token.text now])
    (hstreams : s'.streams = s.streams.issueSession token now) (hclock : s'.clock = now) :
    Retains s' := by
  intro earlier issuer session issuedAt later hsplit hlater hroom hlive
  rw [hlog] at hsplit
  rw [hstreams]
  rcases Chronicle.append_singleton_cases hsplit with ⟨-, heq, rfl⟩ | ⟨before, rfl, hbefore⟩
  · injection heq with _ hsession hissuedAt
    rw [← hsession, ← hissuedAt]
    exact SessionStreams.followed_issueSession s.streams now hfresh
  · have hissues : issues (before ++ [.issued arrival token.text now]) = issues before + 1 := by
      rw [issues_append]
      rfl
    rw [hissues] at hroom ⊢
    rw [List.forall_mem_append] at hlater
    rw [hclock] at hlive
    exact (hs earlier issuer session issuedAt before hbefore hlater.1 (by omega)
      (hnew.trans_lt hlive)).issueSession hlive hroom hfresh

theorem retains_serve (hsound : Sound config express s) (hs : Retains s) {arrival : Arrival}
    {token : SessionToken} {now : ℕ} (hnew : s.clock ≤ now)
    (hfresh : token.text ∉ s.log.filterMap issuedSession) (route : Option RouteId) :
    Retains (serve config route { s with pending := s.pending.erase arrival, clock := now }
      arrival token now) := by
  have hclock := (serve_rest config route
    { s with pending := s.pending.erase arrival, clock := now } arrival token now).2.2
  have hcases := serve_cases config route
    { s with pending := s.pending.erase arrival, clock := now } arrival token now
  generalize serve config route { s with pending := s.pending.erase arrival, clock := now }
    arrival token now = s' at *
  have habsent : s.streams.sessions.get? token.text = none := by
    cases hget : s.streams.sessions.get? token.text with
    | none => rfl
    | some expiresAt => exact absurd (mem_issued hsound hget) hfresh
  -- the log entry of the handler itself changes nothing
  have hserved : Retains { s with log := s.log ++ [.served arrival route], clock := now } :=
    hs.snoc rfl rfl hnew fun _ _ _ _ _ h => h
  cases hcases with
  | issues hbearer htoken hlog hstreams =>
    exact retains_issued hserved habsent (le_refl now) hlog hstreams hclock
  | revokes hlog hstreams =>
    refine hserved.snoc rfl hlog (le_of_eq hclock.symm) fun session expiresAt n hrevokes _ h => ?_
    rw [hstreams]
    exact h.revokeSession fun heq => hrevokes ⟨arrival, by rw [heq]⟩
  | answers hlog hstreams =>
    refine hs.snoc rfl hlog (hnew.trans (le_of_eq hclock.symm)) fun session expiresAt n _ hlive h => ?_
    have hnow : now < expiresAt := by
      rw [hclock] at hlive
      exact hlive
    exact h.drops hstreams (not_le.2 hnow)

theorem retains_step (e : ServerEvent) (hok : Orderly s e)
    (hstep : step config express s e = some s') (hsound : Sound config express s)
    (hs : Retains s) : Retains s' := by
  rcases step_cases hstep with ⟨request, now, rfl, rfl⟩ | ⟨arrival, token, now, rfl, hmem, rfl⟩ |
    ⟨⟨hlog, -, -, hexpires⟩, hclock⟩
  · obtain ⟨verdict, hlog, -, -, hclock, hexpires, -⟩ :=
      arrive_cases config s request now
    refine hs.snoc rfl hlog ?_ fun session expiresAt n _ hlive h => ?_
    · rw [hclock]
      exact hok.1 now rfl
    · rw [hclock] at hlive
      exact h.drops hexpires (not_le.2 hlive)
  · exact retains_serve hsound hs (hok.1 now rfl) (hok.2 token rfl) _
  · have hle : s.clock ≤ s'.clock := by
      rcases hclock with ⟨response, rfl | rfl⟩ | hclock
      · exact hok.1 s'.clock rfl
      · exact hok.1 s'.clock rfl
      · exact hclock.ge
    intro earlier issuer session issuedAt later hsplit hlater hroom hlive
    rw [hlog] at hsplit
    exact (hs earlier issuer session issuedAt later hsplit hlater hroom
      (hle.trans_lt hlive)).drops hexpires (not_le.2 hlive)

theorem run_retains {es : List ServerEvent} (h : Steps (step config express) Orderly {} es s) :
    Sound config express s ∧ Retains s :=
  h.invariant (I := fun s => Sound config express s ∧ Retains s)
    (fun _ e _ hok hstep hs => ⟨sound_step e hstep hs.1, retains_step e hok hstep hs.1 hs.2⟩)
    ⟨sound_new, retains_new⟩

/-- A session serves its cookie for its whole time, unless somebody logs out of it or as many
sessions are issued after it as the table holds. -/
theorem session_honoured (config : ApiConfig) (express : Express) (es : List ServerEvent)
    (s : Server) (h : Steps (step config express) Orderly {} es s) (earlier later : List Entry)
    (issuer : Arrival) (session : String) (issuedAt : ℕ)
    (hlog : s.log = earlier ++ .issued issuer session issuedAt :: later)
    (hlater : ∀ e ∈ later, ¬ Revokes session e) (hroom : issues later < maxSessions)
    (request : ApiRequest) (hscheme : request.hasNoScheme = true)
    (hcookie : request.session config = session) (now : ℕ) (hnow : s.clock ≤ now)
    (hlive : now < issuedAt + sessionTtlMs) :
    (request.requireAuthentication config s.streams now).2 = .next := by
  obtain ⟨hsound, hretains⟩ := run_retains h
  have hbearer : config.authMode = .bearer := (hsound.justified earlier _ later hlog).1
  have hget := (hretains earlier issuer session issuedAt later hlog hlater hroom
    (hnow.trans_lt hlive)).get?
  have hvalid : (s.streams.validSession (request.session config) now).2 = true := by
    rw [hcookie, SessionStreams.validSession, hget]
    dsimp only
    rw [if_neg (Nat.ne_zero_of_lt hlive), if_neg (not_le.2 hlive)]
  rw [ApiRequest.requireAuthentication]
  split_ifs
  · rfl
  · rfl
  · dsimp only
    rw [if_pos hvalid]

def laterToken : SessionToken := ⟨"Zr8kN1uXw5sTq0cYb7eHj3LmPv9aGf2dKiOo4RtU_-Q", by decide⟩

/-- Somebody signs in, and once more while the first session lasts. -/
def signedInAgain : List ServerEvent :=
  signedIn.take 3 ++ [.arrive signIn 5000, .handle ⟨2, signIn, 5000⟩ laterToken 6000]

theorem session_honoured_applied : ∃ s,
    run (step tokenConfig manifestExpress) Orderly {} signedInAgain = some s ∧
      (readSnapshot.requireAuthentication tokenConfig s.streams 86401999).2 = .next := by
  obtain ⟨s, hrun⟩ : ∃ s,
      run (step tokenConfig manifestExpress) Orderly {} signedInAgain = some s :=
    Option.isSome_iff_exists.1 (by decide +kernel)
  have hlog : (run (step tokenConfig manifestExpress) Orderly {} signedInAgain).map
      (fun s => (s.clock, s.log)) =
      some (6000, [.arrived ⟨0, signIn, 1000⟩ .next, .arrived ⟨1, readSnapshot, 1500⟩ .unauthorized,
        .served ⟨0, signIn, 1000⟩ (some .authSession)] ++
          .issued ⟨0, signIn, 1000⟩ SessionStreams.loggedOutToken.text 2000 ::
            [.arrived ⟨2, signIn, 5000⟩ .next, .served ⟨2, signIn, 5000⟩ (some .authSession),
              .issued ⟨2, signIn, 5000⟩ laterToken.text 6000]) := by
    decide +kernel
  rw [hrun, Option.map_some, Option.some.injEq, Prod.mk.injEq] at hlog
  refine ⟨s, hrun, session_honoured tokenConfig manifestExpress _ s (.of_run hrun) _ _ _
    SessionStreams.loggedOutToken.text 2000 hlog.2 ?_ (by decide) readSnapshot
    (by decide +kernel) (by decide +kernel) 86401999 (by rw [hlog.1]; decide) (by decide)⟩
  rintro e he ⟨arrival, rfl⟩
  simp at he

end Server

end DockerMap.Api
