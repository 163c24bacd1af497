import DockerMap.Lib.InsertionMap
import DockerMap.Lib.Runs

/-! The limit on session attempts. A source keeps the times of its attempts of the last
window; the table of sources is bounded, and a new source takes the place of the one that
was inserted first. -/

namespace DockerMap.Api

def sessionAttemptWindowMs : ℕ := 60000

def maxSessionAttemptsPerWindow : ℕ := 20

def maxSessionAttemptSources : ℕ := 1024

inductive AuthMode | none | bearer | forwardAuth
  deriving DecidableEq

/-- What the middleware reads of a request. -/
structure AttemptRequest where
  /-- The route of the request is limited. -/
  limited : Bool
  ip : Option String
  remoteAddress : Option String
  now : ℕ

inductive AttemptVerdict | next | rateLimited (retryAfterSeconds : ℕ)
  deriving DecidableEq

abbrev AttemptTable := InsertionMap String (List ℕ)

def AttemptRequest.source (request : AttemptRequest) : String :=
  (request.ip.or request.remoteAddress).getD "unknown"

/-- The attempt is in the window that ends now. -/
def isRecent (now attempt : ℕ) : Bool := now < attempt + sessionAttemptWindowMs

namespace AttemptTable

variable (table : AttemptTable)

def recorded (source : String) : List ℕ := (table.get? source).getD []

def recent (source : String) (now : ℕ) : List ℕ := (table.recorded source).filter (isRecent now)

/-- An attempt of this source needs a new place in a full table. -/
def isFullFor (source : String) : Bool :=
  (table.get? source).isNone && maxSessionAttemptSources ≤ table.size

/-- `if (oldestSource)`: the empty string is not deleted. -/
def evict (source : String) : AttemptTable :=
  if table.isFullFor source then
    match table.first? with
    | none => table
    | some oldest => if oldest = "" then table else table.delete oldest
  else table

end AttemptTable

/-- `Math.max(1, Math.ceil(… / 1_000))`. -/
def retryAfterSeconds (attempts : List ℕ) (now : ℕ) : ℕ :=
  max 1 ((attempts.head?.getD now + sessionAttemptWindowMs - now + 999) / 1000)

def limitSessionAttempts (authMode : AuthMode) (table : AttemptTable) (request : AttemptRequest) :
    AttemptTable × AttemptVerdict :=
  if authMode ≠ .bearer ∨ request.limited = false then (table, .next)
  else
    let attempts := table.recent request.source request.now
    if maxSessionAttemptsPerWindow ≤ attempts.length then
      (table, .rateLimited (retryAfterSeconds attempts request.now))
    else
      ((table.evict request.source).set request.source (attempts ++ [request.now]), .next)

/-! Runs -/

/-- An attempt and what came of it. -/
structure AttemptOutcome where
  source : String
  time : ℕ
  admitted : Bool
  deriving DecidableEq

structure SessionAttempts where
  sessionAttemptsBySource : AttemptTable := ∅
  clock : ℕ := 0
  /-- The session attempts of the run, in order. -/
  outcomes : List AttemptOutcome := []

namespace SessionAttempts

/-- The outcome of a session attempt; other requests leave none. -/
def outcome (request : AttemptRequest) (verdict : AttemptVerdict) : List AttemptOutcome :=
  if request.limited then [⟨request.source, request.now, verdict = .next⟩] else []

/-- One request in bearer mode. The clock does not go back. -/
def step (s : SessionAttempts) (request : AttemptRequest) : Option SessionAttempts :=
  if request.now < s.clock then none
  else
    let result := limitSessionAttempts .bearer s.sessionAttemptsBySource request
    some ⟨result.1, request.now, s.outcomes ++ outcome request result.2⟩

end SessionAttempts

end DockerMap.Api
