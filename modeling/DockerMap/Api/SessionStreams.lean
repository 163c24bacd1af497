import DockerMap.Lib.InsertionMap
import DockerMap.Lib.Runs
import Mathlib.Data.Finset.Card

/-! The sessions of the Node API in bearer mode, and the event streams that are opened with
their cookies. A response is named by its position among the responses of the stream route;
it counts as ended when it was ended or its socket is destroyed. -/

namespace DockerMap.Api

def sessionTtlMs : ℕ := 24 * 60 * 60 * 1000

def maxSessions : ℕ := 1024

/-- The configured bounds, each in the range it is read in. -/
structure StreamLimits where
  maxStreamsPerSession : ℕ
  maxStreams : ℕ
  perSession : 1 ≤ maxStreamsPerSession ∧ maxStreamsPerSession ≤ 64
  process : 1 ≤ maxStreams ∧ maxStreams ≤ 1024

/-- 32 random bytes in base64url. -/
structure SessionToken where
  text : String
  length : text.toList.length = 43

inductive Registration | process | session | accepted
  deriving DecidableEq

structure SessionStreams where
  /-- When each session expires. -/
  sessions : InsertionMap String ℕ := ∅
  activeSessionStreams : InsertionMap String (Finset ℕ) := ∅
  activeStreamCount : ℕ := 0
  /-- The session a response's handler closes over; a refused response has no handler. -/
  handlers : List (Option String) := []
  ended : Finset ℕ := ∅
  /-- The responses whose intervals run. -/
  timers : Finset ℕ := ∅
  busy : Finset ℕ := ∅

namespace SessionStreams

variable (s : SessionStreams)

/-! Sessions -/

def streamsOf (session : String) : Finset ℕ := (s.activeSessionStreams.get? session).getD ∅

def closeSessionStreams (session : String) : SessionStreams :=
  { s with ended := s.ended ∪ s.streamsOf session }

def revokeSession (session : String) : SessionStreams :=
  { s with sessions := s.sessions.delete session }.closeSessionStreams session

def validSession (session : String) (now : ℕ) : SessionStreams × Bool :=
  match s.sessions.get? session with
  | none => (s, false)
  | some expiresAt =>
      if expiresAt = 0 then (s, false)
      else if expiresAt ≤ now then (s.revokeSession session, false)
      else (s, true)

def expireSessions (now : ℕ) : SessionStreams :=
  s.sessions.entries.foldl (fun s e => if e.2 ≤ now then s.revokeSession e.1 else s) s

/-- The loop that makes room for a session; each turn but the last revokes one. -/
def evictOldest : ℕ → SessionStreams → SessionStreams
  | 0, s => s
  | turns + 1, s =>
      if s.sessions.size < maxSessions then s
      else
        match s.sessions.first? with
        | none => s
        | some oldest => if oldest = "" then s else evictOldest turns (s.revokeSession oldest)

def issueSession (token : SessionToken) (now : ℕ) : SessionStreams :=
  let expired := s.expireSessions now
  let evicted := evictOldest expired.sessions.size expired
  { evicted with sessions := evicted.sessions.set token.text (now + sessionTtlMs) }

/-! Streams -/

def registerSessionStream (limits : StreamLimits) (session : String) (response : ℕ) :
    SessionStreams × Registration :=
  if limits.maxStreams ≤ s.activeStreamCount then (s, .process)
  else if session ≠ "" ∧ limits.maxStreamsPerSession ≤ (s.streamsOf session).card then (s, .session)
  else
    ({ s with
      activeSessionStreams :=
        s.activeSessionStreams.set session (insert response (s.streamsOf session))
      activeStreamCount := s.activeStreamCount + 1 }, .accepted)

def unregisterSessionStream (session : String) (response : ℕ) : SessionStreams :=
  match s.activeSessionStreams.get? session with
  | none => s
  | some streams =>
      let left := streams.erase response
      { s with
        activeStreamCount :=
          if response ∈ streams then s.activeStreamCount - 1 else s.activeStreamCount
        activeSessionStreams :=
          if left = ∅ then s.activeSessionStreams.delete session
          else s.activeSessionStreams.set session left }

def endResponse (response : ℕ) : SessionStreams := { s with ended := insert response s.ended }

/-- The session a stream is opened for. -/
def cookieSession (cookie : String) (now : ℕ) : String :=
  if (s.validSession cookie now).2 then cookie else ""

/-- The stream route, up to its first emit. -/
def openStream (limits : StreamLimits) (cookie : String) (now : ℕ) : SessionStreams :=
  let checked := (s.validSession cookie now).1
  let cookieSession := s.cookieSession cookie now
  let response := s.handlers.length
  match checked.registerSessionStream limits cookieSession response with
  | (registered, .accepted) =>
      { registered with
        handlers := registered.handlers ++ [some cookieSession]
        timers := insert response registered.timers }
  | (refused, _) => { refused with handlers := refused.handlers ++ [none] }

/-- `!cookieSession || validSession(cookieSession)`. -/
def admits (cookieSession : String) (now : ℕ) : SessionStreams × Bool :=
  if cookieSession = "" then (s, true) else s.validSession cookieSession now

/-- `emit` up to its await. -/
def beginEmit (response : ℕ) (cookieSession : String) (now : ℕ) : SessionStreams :=
  if response ∈ s.busy ∨ response ∈ s.ended then s
  else
    match s.admits cookieSession now with
    | (checked, true) => { checked with busy := insert response checked.busy }
    | (checked, false) => checked.endResponse response

/-- `emit` after its await, whichever way the poll went. -/
def finishEmit (response : ℕ) (cookieSession : String) (now : ℕ) : SessionStreams :=
  let idle := { s with busy := s.busy.erase response }
  if response ∈ s.ended then idle
  else
    match idle.admits cookieSession now with
    | (checked, true) => checked
    | (checked, false) => checked.endResponse response

def closeStream (response : ℕ) (cookieSession : String) : SessionStreams :=
  { s with timers := s.timers.erase response }.unregisterSessionStream cookieSession response
    |>.endResponse response

end SessionStreams

/-! Runs -/

inductive SessionEvent
  | issue (token : SessionToken) (now : ℕ)
  | logout (cookie : String)
  /-- The authentication of a request by its cookie. -/
  | authenticate (cookie : String) (now : ℕ)
  | openStream (cookie : String) (now : ℕ)
  | emit (response now : ℕ)
  | settle (response now : ℕ)
  /-- The socket of the response is destroyed. -/
  | disconnect (response : ℕ)
  | close (response : ℕ)

namespace SessionStreams

/-- The session the handler of a response closes over. -/
def handlerOf (s : SessionStreams) (response : ℕ) : Option String := (s.handlers[response]?).join

def step (limits : StreamLimits) (s : SessionStreams) : SessionEvent → Option SessionStreams
  | .issue token now => some (s.issueSession token now)
  | .logout cookie => some (s.revokeSession cookie)
  | .authenticate cookie now => some (s.validSession cookie now).1
  | .openStream cookie now => some (s.openStream limits cookie now)
  | .emit response now =>
      if response ∈ s.timers then
        (s.handlerOf response).map fun session => s.beginEmit response session now
      else none
  | .settle response now =>
      if response ∈ s.busy then
        (s.handlerOf response).map fun session => s.finishEmit response session now
      else none
  | .disconnect response =>
      if response < s.handlers.length then some (s.endResponse response) else none
  | .close response =>
      if response ∈ s.timers then
        (s.handlerOf response).map fun session => s.closeStream response session
      else none

end SessionStreams

end DockerMap.Api
