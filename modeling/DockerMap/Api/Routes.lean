import DockerMap.Lib.TextLines

/-! The routes of the browser-facing API. A path is Latin-1 text, as Node decodes the target of
a request; what is registered with Express is matched by Express as it is matched here. -/

namespace DockerMap.Api

inductive HttpMethod | get | post
  deriving DecidableEq, Repr

def HttpMethod.name : HttpMethod → String
  | .get => "GET"
  | .post => "POST"

inductive RouteAuth | authenticated | publicInBearer
  deriving DecidableEq, Repr

inductive RouteId
  | health | apiHealth | status | openapi | authWhoami | snapshot | graph | runtimeMap | findings
  | history | diagnostics | containers | container | images | networks | volumes | logs
  | composeScan | composeGraph | composeEditPlan | eventsStream | authSession
  | authSessionLogout | apiVersion
  deriving DecidableEq, Repr

structure RoutePath where
  path : List Char
  canonicalPath : List Char
  deriving DecidableEq, Repr

/-- The only rate limit is that on session attempts. -/
structure RouteManifestEntry where
  id : RouteId
  method : HttpMethod := .get
  paths : List RoutePath
  auth : RouteAuth := .authenticated
  limitsSessionAttempts : Bool := false
  deriving DecidableEq, Repr

def apiPaths (path : String) : List RoutePath :=
  [⟨path.toList, path.toList⟩,
    ⟨Text.replaceFirst "/api/".toList "/api/v1/".toList path.toList, path.toList⟩]

def routeManifest : List RouteManifestEntry :=
  [{ id := .health, paths := [⟨"/health".toList, "/health".toList⟩] },
    { id := .apiHealth, paths := apiPaths "/api/health" },
    { id := .status, paths := apiPaths "/api/status" },
    { id := .openapi, paths := apiPaths "/api/openapi.json" },
    { id := .authWhoami, paths := apiPaths "/api/auth/whoami" },
    { id := .snapshot, paths := apiPaths "/api/snapshot" },
    { id := .graph, paths := apiPaths "/api/graph" },
    { id := .runtimeMap, paths := apiPaths "/api/runtime/map" },
    { id := .findings, paths := apiPaths "/api/findings" },
    { id := .history, paths := apiPaths "/api/history" },
    { id := .diagnostics, paths := apiPaths "/api/diagnostics" },
    { id := .containers, paths := apiPaths "/api/containers" },
    { id := .container, paths := apiPaths "/api/containers/:name" },
    { id := .images, paths := apiPaths "/api/images" },
    { id := .networks, paths := apiPaths "/api/networks" },
    { id := .volumes, paths := apiPaths "/api/volumes" },
    { id := .logs, paths := apiPaths "/api/logs" },
    { id := .composeScan, paths := apiPaths "/api/compose/scan" },
    { id := .composeGraph, paths := apiPaths "/api/compose/graph" },
    { id := .composeEditPlan, paths := apiPaths "/api/compose/edit-plan" },
    { id := .eventsStream, paths := apiPaths "/api/events/stream" },
    { id := .authSession, method := .post, paths := apiPaths "/api/auth/session",
      auth := .publicInBearer, limitsSessionAttempts := true },
    { id := .authSessionLogout, method := .post, paths := apiPaths "/api/auth/session/logout" },
    { id := .apiVersion, paths :=
        [⟨"/api/v1".toList, "/api/v1".toList⟩, ⟨"/api/v1/".toList, "/api/v1/".toList⟩] }]

/-! Matching -/

def isUpperLatin1 (c : Char) : Bool :=
  ('A'.toNat ≤ c.toNat && c.toNat ≤ 'Z'.toNat) ||
    ('À'.toNat ≤ c.toNat && c.toNat ≤ 'Þ'.toNat && c ≠ '×')

/-- `toLowerCase` on a Latin-1 character. -/
def lowerLatin1 (c : Char) : Char := if isUpperLatin1 c then Char.ofNat (c.toNat + 32) else c

def lowered (path : List Char) : List Char := path.map lowerLatin1

/-- A part of a template that starts with a colon stands for any part. -/
def partMatches (templatePart part : List Char) : Bool :=
  templatePart.head? == some ':' || templatePart == part

def partsMatch (path template : List Char) : Bool :=
  let pathParts := path.splitOn '/'
  let templateParts := template.splitOn '/'
  pathParts.length == templateParts.length &&
    (templateParts.zip pathParts).all fun parts => partMatches parts.1 parts.2

def endsWithSlash (path : List Char) : Bool := path.getLast? == some '/'

/-- The path may have one slash more, at its end, than the template. -/
def matchesPathTemplate (path template : List Char) : Bool :=
  partsMatch (lowered path) (lowered template) ||
    if hend : !endsWithSlash (lowered template) && endsWithSlash (lowered path) &&
        !(['/', '/'].isSuffixOf (lowered path)) then
      matchesPathTemplate (lowered path).dropLast (lowered template)
    else false
termination_by path.length
decreasing_by
  cases path with
  | nil => simp [endsWithSlash, lowered] at hend
  | cons c path => simp [lowered]

def RouteManifestEntry.matchesPath (route : RouteManifestEntry) (path : List Char) : Bool :=
  route.paths.any fun routePath => matchesPathTemplate path routePath.path

def routeForRequest (method : String) (path : List Char) : Option RouteManifestEntry :=
  let resolvedMethod := if method = "HEAD" then "GET" else method
  routeManifest.find? fun route =>
    route.method.name == resolvedMethod && route.matchesPath path

/-- A path that is written as its template is looked for first. -/
def canonicalRoutePath (path : List Char) : Option (List Char) :=
  let routePaths := routeManifest.flatMap RouteManifestEntry.paths
  ((routePaths.find? fun routePath => routePath.path == path).or
    (routePaths.find? fun routePath => matchesPathTemplate path routePath.path)).map
      RoutePath.canonicalPath

end DockerMap.Api
