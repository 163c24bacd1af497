import DockerMap.Api.Logout
import DockerMap.Api.Routes
import DockerMap.Api.SessionAttempts

/-! The authentication of the browser-facing API. A request passes the gate when it arrives;
its body is parsed after that, and its handler runs later, between the handlers of others. -/

namespace DockerMap.Api

/-! Configuration -/

/-- A token as the environment may set it. -/
structure ApiToken where
  text : String
  nonempty : text ≠ ""

def readApiToken (value : Option String) : Except String (Option ApiToken) :=
  match value with
  | none => .ok none
  | some value =>
      let token := String.ofList (JavaScript.trim value.toList)
      if h : token = "" then .error "DOCKERMAP_API_TOKEN must not be empty when set"
      else .ok (some ⟨token, h⟩)

/-- `timingSafeEqual` of the bytes. -/
def tokenMatches (received expected : String) : Bool :=
  received.toByteArray.size == expected.toByteArray.size &&
    received.toByteArray == expected.toByteArray

structure ApiConfig where
  authRequired : Bool
  apiToken : Option ApiToken
  authCookieName : String
  limits : StreamLimits

namespace ApiConfig

variable (config : ApiConfig)

def authMode : AuthMode :=
  if config.authRequired then .forwardAuth
  else if config.apiToken.isSome then .bearer
  else .none

def matchesApiToken (received : String) : Bool :=
  config.apiToken.any fun token => tokenMatches received token.text

end ApiConfig

/-! Requests -/

/-- What is read of a request. -/
structure ApiRequest where
  method : String
  path : List Char
  ip : Option String
  remoteAddress : Option String
  authorization : Option String
  cookie : Option String
  /-- The header of the trusted identity. -/
  user : Option String
  /-- The token of the body, where the body has one. -/
  bodyToken : Option String
  deriving DecidableEq

/-- A request, by the order and the time in which it arrived. -/
structure Arrival where
  number : ℕ
  request : ApiRequest
  time : ℕ
  deriving DecidableEq

/-- The first two parts between white space. -/
def splitAuthorization (header : Option String) : List Char × List Char :=
  let isSpace (c : Char) : Bool := JavaScript.isSpaceUnit c.toNat
  let text := (header.getD "").toList
  let rest := (text.dropWhile fun c => !isSpace c).dropWhile isSpace
  (text.takeWhile fun c => !isSpace c, rest.takeWhile fun c => !isSpace c)

inductive GateVerdict
  | next
  | rateLimited (retryAfterSeconds : ℕ)
  | unauthorized
  | authRequired
  deriving DecidableEq

namespace ApiRequest

variable (config : ApiConfig) (request : ApiRequest)

def isPublicRoute : Bool :=
  config.authMode = .bearer &&
    (routeForRequest request.method request.path).any fun route => route.auth = .publicInBearer

def session : String := readCookie request.cookie config.authCookieName

def presentsToken : Bool :=
  (splitAuthorization request.authorization).1 = "Bearer".toList &&
    config.matchesApiToken (String.ofList (splitAuthorization request.authorization).2)

def hasNoScheme : Bool := (splitAuthorization request.authorization).1 = []

def attempt (now : ℕ) : AttemptRequest where
  limited := (routeForRequest request.method request.path).any
    RouteManifestEntry.limitsSessionAttempts
  ip := request.ip
  remoteAddress := request.remoteAddress
  now := now

/-- CORS preflight is no route. -/
def isExempt : Bool :=
  request.method = "OPTIONS" || request.isPublicRoute config || config.authMode = .none

def requireAuthentication (streams : SessionStreams) (now : ℕ) : SessionStreams × GateVerdict :=
  if request.isExempt config then (streams, .next)
  else if config.authMode = .bearer then
    if request.presentsToken config then (streams, .next)
    else if request.hasNoScheme then
      let checked := streams.validSession (request.session config) now
      (checked.1, if checked.2 then .next else .unauthorized)
    else (streams, .unauthorized)
  else if request.user.getD "" = "" then (streams, .authRequired)
  else (streams, .next)

end ApiRequest

/-! Runs -/

inductive Entry
  | arrived (arrival : Arrival) (verdict : GateVerdict)
  /-- The handler that ran, if there was one. -/
  | served (arrival : Arrival) (route : Option RouteId)
  | issued (arrival : Arrival) (session : String) (now : ℕ)
  | revoked (arrival : Arrival) (session : String)
  deriving DecidableEq

structure Server where
  streams : SessionStreams := {}
  sessionAttemptsBySource : AttemptTable := ∅
  arrivals : ℕ := 0
  /-- What the gate let through and no handler has run for. -/
  pending : List Arrival := []
  clock : ℕ := 0
  log : List Entry := []

inductive ServerEvent
  | arrive (request : ApiRequest) (now : ℕ)
  /-- The handler of a pending request runs, with the random bytes it may draw. -/
  | handle (arrival : Arrival) (token : SessionToken) (now : ℕ)
  | emit (response now : ℕ)
  | settle (response now : ℕ)
  | disconnect (response : ℕ)
  | close (response : ℕ)

namespace Server

variable (config : ApiConfig)

/-- The gate: first the limit on session attempts, then the authentication. -/
def arrive (server : Server) (request : ApiRequest) (now : ℕ) : Server :=
  let arrival : Arrival := ⟨server.arrivals, request, now⟩
  let limited := limitSessionAttempts config.authMode server.sessionAttemptsBySource
    (request.attempt now)
  let counted := { server with
    sessionAttemptsBySource := limited.1
    arrivals := server.arrivals + 1
    clock := now }
  match limited.2 with
  | .rateLimited seconds =>
      { counted with log := server.log ++ [.arrived arrival (.rateLimited seconds)] }
  | .next =>
      let authenticated := request.requireAuthentication config server.streams now
      { counted with
        streams := authenticated.1
        pending := server.pending ++ if authenticated.2 = .next then [arrival] else []
        log := server.log ++ [.arrived arrival authenticated.2] }

/-- Handlers of data read no session. -/
def serve (route : Option RouteId) (server : Server) (arrival : Arrival) (token : SessionToken)
    (now : ℕ) : Server :=
  let served := { server with log := server.log ++ [.served arrival route] }
  match route with
  | some .authSession =>
      if config.authMode = .bearer ∧ arrival.request.bodyToken.any config.matchesApiToken then
        { served with
          streams := served.streams.issueSession token now
          log := served.log ++ [.issued arrival token.text now] }
      else served
  | some .authSessionLogout =>
      { served with
        streams := served.streams.revokeSession (arrival.request.session config)
        log := served.log ++ [.revoked arrival (arrival.request.session config)] }
  | some .eventsStream =>
      let cookie := if config.authMode = .bearer then arrival.request.session config else ""
      { served with streams := served.streams.openStream config.limits cookie now }
  | _ => served

def streamStep (server : Server) (event : SessionEvent) : Option Server :=
  (server.streams.step config.limits event).map fun streams => { server with streams }

/-- The handler that Express calls for a method and a path. -/
abbrev Express := String → List Char → Option RouteId

variable (express : Express)

def step (server : Server) : ServerEvent → Option Server
  | .arrive request now => some (server.arrive config request now)
  | .handle arrival token now =>
      if arrival ∈ server.pending then
        some (serve config (express arrival.request.method arrival.request.path)
          { server with pending := server.pending.erase arrival, clock := now } arrival token now)
      else none
  | .emit response now => { server with clock := now }.streamStep config (.emit response now)
  | .settle response now => { server with clock := now }.streamStep config (.settle response now)
  | .disconnect response => server.streamStep config (.disconnect response)
  | .close response => server.streamStep config (.close response)

end Server

end DockerMap.Api
