import DockerMap.Api.Logout
import DockerMap.Proofs.StreamRegistry

/-! Which streams a logout ends. Streams without a session are registered under the empty
key, which is also what an absent cookie reads as. -/

namespace DockerMap.Api

open Runs

namespace SessionStreams

variable {s s' : SessionStreams} {limits : StreamLimits} {session : String}

/-- Every stream that ended was opened under this session, and the session is one. -/
def EndsOnlyOwn (s s' : SessionStreams) (session : String) : Prop :=
  ∀ response ∈ s'.ended, response ∉ s.ended →
    session ≠ "" ∧ s.handlerOf response = some session

theorem endsOnlyOwn_refl (s : SessionStreams) (session : String) : EndsOnlyOwn s s session :=
  fun _ hended hnot => absurd hended hnot

/-- A stream ends exactly if it is registered under the session that is revoked. -/
theorem mem_ended_revokeSession (s : SessionStreams) (session : String) (response : ℕ) :
    response ∈ (s.revokeSession session).ended ↔
      response ∈ s.ended ∨ response ∈ s.streamsOf session :=
  Finset.mem_union

theorem endsOnlyOwn_revokeSession (hs : Coherent limits s) (hsession : session ≠ "") :
    EndsOnlyOwn s (s.revokeSession session) session := by
  intro response hended hnot
  rw [mem_ended_revokeSession] at hended
  exact ⟨hsession, hs.keyed session response (hended.resolve_left hnot)⟩

/-- To revoke the empty session ends every stream without one. -/
theorem endsOnlyOwn_revokeEmpty (s : SessionStreams) :
    EndsOnlyOwn s (s.revokeSession "") "" ↔ s.streamsOf "" ⊆ s.ended := by
  constructor
  · intro h response hresponse
    by_contra hnot
    exact (h response ((mem_ended_revokeSession s "" response).2 (Or.inr hresponse)) hnot).1 rfl
  · intro h response hended hnot
    rw [mem_ended_revokeSession] at hended
    exact absurd (h (hended.resolve_left hnot)) hnot

theorem validSession_cases (s : SessionStreams) (session : String) (now : ℕ) :
    s.validSession session now = (s, false) ∨
      s.sessions.get? session ≠ none ∧ (s.validSession session now = (s, true) ∨
        s.validSession session now = (s.revokeSession session, false)) := by
  rw [validSession]
  cases hget : s.sessions.get? session with
  | none => exact Or.inl rfl
  | some expiresAt =>
    dsimp only
    split_ifs
    · exact Or.inl rfl
    · exact Or.inr ⟨Option.some_ne_none _, Or.inr rfl⟩
    · exact Or.inr ⟨Option.some_ne_none _, Or.inl rfl⟩

/-- A request whose cookie decides ends streams of that session at most. -/
theorem endsOnlyOwn_cookie (hs : Coherent limits s) (authCookieName : String)
    {request : LogoutRequest} (hidentity : request.identity = .cookie) :
    EndsOnlyOwn s (s.logout authCookieName request)
      (readCookie request.cookieHeader authCookieName) := by
  rw [logout, hidentity]
  dsimp only
  generalize readCookie request.cookieHeader authCookieName = session
  rcases validSession_cases s session request.now with hvalid | ⟨hget, hvalid⟩
  · rw [hvalid]
    exact endsOnlyOwn_refl s session
  · have hsession : session ≠ "" := fun heq => hget (heq ▸ hs.named)
    rcases hvalid with hvalid | hvalid
    · rw [hvalid]
      exact endsOnlyOwn_revokeSession hs hsession
    · rw [hvalid]
      exact endsOnlyOwn_revokeSession hs hsession

/-- In every state of a run a logout ends only streams of its own session, unless it is let
through by its headers, carries no session cookie, and streams without a session run. -/
theorem logout_isolated_iff (limits : StreamLimits) (es : List SessionEvent) (s : SessionStreams)
    (h : Steps (step limits) anyStep {} es s) (authCookieName : String)
    (request : LogoutRequest) :
    EndsOnlyOwn s (s.logout authCookieName request)
        (readCookie request.cookieHeader authCookieName) ↔
      request.identity = .cookie ∨ readCookie request.cookieHeader authCookieName ≠ "" ∨
        s.streamsOf "" ⊆ s.ended := by
  have hs := run_coherent h
  cases hidentity : request.identity with
  | cookie => exact iff_of_true (endsOnlyOwn_cookie hs authCookieName hidentity) (Or.inl rfl)
  | headers =>
    have hlogout : s.logout authCookieName request =
        s.revokeSession (readCookie request.cookieHeader authCookieName) := by
      rw [logout, hidentity]
    rw [hlogout, or_iff_right (by decide)]
    by_cases hsession : readCookie request.cookieHeader authCookieName = ""
    · rw [hsession, endsOnlyOwn_revokeEmpty, or_iff_right (fun hne => hne rfl)]
    · exact iff_of_true (endsOnlyOwn_revokeSession hs hsession) (Or.inl hsession)

/-- A logout with the bearer token and no cookie. -/
def anonymousLogout : LogoutRequest := ⟨none, .headers, 2000⟩

/-- Another client's stream, opened with the bearer token. -/
def tokenStream : List SessionEvent := [.openStream "" 1000]

theorem run_tokenStream :
    ∃ s, run (step defaultLimits) anyStep {} tokenStream = some s ∧ s.streamsOf "" = {0} ∧
      s.ended = ∅ := by
  have hrun : (run (step defaultLimits) anyStep {} tokenStream).map
      (fun s => (s.streamsOf "", s.ended)) = some ({0}, ∅) := by
    decide +kernel
  obtain ⟨s, hs, heq⟩ := Option.map_eq_some_iff.1 hrun
  rw [Prod.mk.injEq] at heq
  exact ⟨s, hs, heq⟩

/-- The logout of a client without a session ends it. -/
theorem anonymous_logout_ends_stream :
    ∃ s, Steps (step defaultLimits) anyStep {} tokenStream s ∧ 0 ∉ s.ended ∧
      0 ∈ (s.logout "dockermap_session" anonymousLogout).ended := by
  obtain ⟨s, hrun, hstreams, hended⟩ := run_tokenStream
  refine ⟨s, .of_run hrun, by rw [hended]; exact Finset.notMem_empty 0, ?_⟩
  refine (mem_ended_revokeSession s "" 0).2 (Or.inr ?_)
  rw [hstreams]
  exact Finset.mem_singleton_self 0

/-- The same stream outlives the logout of a session. -/
theorem logout_isolated_iff_applied :
    ∃ s, Steps (step defaultLimits) anyStep {} tokenStream s ∧
      EndsOnlyOwn s (s.logout "dockermap_session"
        ⟨some "theme=dark; dockermap_session=abc", .headers, 2000⟩) "abc" ∧
      ¬ EndsOnlyOwn s (s.logout "dockermap_session" anonymousLogout) "" := by
  obtain ⟨s, hrun, hstreams, hended⟩ := run_tokenStream
  refine ⟨s, .of_run hrun, ?_, ?_⟩
  · have hcookie : readCookie (some "theme=dark; dockermap_session=abc") "dockermap_session" =
        "abc" := by
      decide +kernel
    have hiff := logout_isolated_iff defaultLimits tokenStream s (.of_run hrun)
      "dockermap_session" ⟨some "theme=dark; dockermap_session=abc", .headers, 2000⟩
    rw [hcookie] at hiff
    exact hiff.2 (Or.inr (Or.inl (by decide)))
  · have hcookie : readCookie none "dockermap_session" = "" := by decide +kernel
    have hiff := logout_isolated_iff defaultLimits tokenStream s (.of_run hrun)
      "dockermap_session" anonymousLogout
    rw [anonymousLogout, hcookie] at hiff
    intro hown
    rcases hiff.1 hown with hidentity | hne | hsubset
    · cases hidentity
    · exact hne rfl
    · rw [hstreams, hended] at hsubset
      exact Finset.notMem_empty 0 (hsubset (Finset.mem_singleton_self 0))

end SessionStreams

end DockerMap.Api
