import DockerMap.Web.ModelResources
import DockerMap.Web.ObservedHistory

/-! The Copilot's answers about the model that the browser shows. A question is a list of code
units. `Number`, on a text and in a template, is the host's; what is not finite is `none`. -/

namespace DockerMap.Web

open Atlas (UnicodeTables)
open JavaScript (codeUnits isSpaceUnit trimUnits)

/-! Claims -/

inductive EvidenceKind | observed | derived | inferred | demo | unavailable
  deriving DecidableEq, Repr

structure CopilotAnswer where
  question : List ℕ
  headline : String
  body : List String
  references : List String
  evidence : EvidenceKind
  authorityUnresolved : Bool := false
  deriving DecidableEq

/-- The authority of an exact pair of mode and provenance. -/
inductive Authority | host | sample | unresolved
  deriving DecidableEq, Repr

def authorityOf : Option EvidenceMode → Option ModelProvenance → Authority
  | some .live, some .live => .host
  | some .demo, some .demo => .sample
  | some .mock, some .mock => .sample
  | _, _ => .unresolved

def evidenceFor (liveKind : EvidenceKind) (authority : Authority) : EvidenceKind :=
  if authority = .host then liveKind else .demo

def updateStatusText : String :=
  "Update status: Not collected — Update checks not wired — DockerMap does not query registries."

def changeHistoryText : String :=
  "Change history: Not collected — Change collectors not wired — DockerMap does not record " ++
    "deploy, restart or failure events."

structure NumberTables where
  read : List ℕ → Option ℚ
  text : Option ℚ → String

/-! Questions -/

section

variable (lower : List ℕ)

def containsOne (words : List String) : Bool :=
  words.any fun word => codeUnits word <:+: lower

/-- The text after a word, or nothing. -/
def afterWord (word : String) (text : List ℕ) : Option (List ℕ) :=
  if codeUnits word <+: text then some (text.drop (codeUnits word).length) else none

def isDigitUnit (unit : ℕ) : Bool := '0'.toNat ≤ unit && unit ≤ '9'.toNat

/-- `\s+`. -/
def afterSpaces (text : List ℕ) : Option (List ℕ) :=
  if text.head?.any isSpaceUnit then some (text.dropWhile isSpaceUnit) else none

/-- `\s*(\d+)`. -/
def leadingNumber (text : List ℕ) : Option (List ℕ) :=
  let digits := (text.dropWhile isSpaceUnit).takeWhile isDigitUnit
  if digits = [] then none else some digits

/-- The first place where a pattern matches. -/
def firstMatch (pattern : List ℕ → Option (List ℕ)) : List ℕ → Option (List ℕ)
  | [] => none
  | unit :: text => (pattern (unit :: text)).or (firstMatch pattern text)

def numberAfter (words : List String) (text : List ℕ) : Option (List ℕ) :=
  words.findSome? fun word => (afterWord word text).bind leadingNumber

/-- `use[ds]?\b`. -/
def usesAt (text : List ℕ) : Option (List ℕ) :=
  (afterWord "use" text).filter fun rest =>
    !rest.head?.any isWordUnit ||
      rest.head?.any (fun unit => unit == 'd'.toNat || unit == 's'.toNat) &&
        !(rest.drop 1).head?.any isWordUnit

/-- `declares?\s+start\s+order`. -/
def declaresOrderAt (text : List ℕ) : Option (List ℕ) := do
  let text ← afterWord "declare" text
  let text ← afterSpaces (if text.head? = some 's'.toNat then text.drop 1 else text)
  let text ← afterWord "start" text
  let text ← afterSpaces text
  afterWord "order" text

def asksUnhealthy : Bool :=
  containsOne lower ["unhealthy", "broken", "down", "attention", "wrong"]

def asksDependents : Bool :=
  containsOne lower ["depend", "rely", "consumer", "using"] || (firstMatch usesAt lower).isSome ||
    (firstMatch declaresOrderAt lower).isSome

def asksWhy : Bool := containsOne lower ["why", "offline", "failing", "unavailable", "broke"]

def asksPort : Bool :=
  (firstMatch (numberAfter ["port"]) lower).isSome || containsOne lower ["expose", "listening"]

def isRecentHistoryQuestion : Bool :=
  containsAny ["what changed recently", "which changed recently", "recent change",
    "recent changes", "recent history", "change history", "history of changes"] lower

def asksChange : Bool := containsOne lower ["chang", "recent", "deploy", "updat"]

/-- The digits of the port a question names. -/
def portDigits : Option (List ℕ) :=
  ((firstMatch (numberAfter ["port"]) lower).or
    (firstMatch (numberAfter ["listening on"]) lower)).or
    ((firstMatch (numberAfter ["exposes", "expose", "exposing"]) lower).or
      (firstMatch (fun text =>
        (((afterWord "using" text).or (afterWord "for" text)).bind fun rest =>
          (afterWord "port" (rest.dropWhile isSpaceUnit)).bind leadingNumber)) lower))

end

/-! Services -/

def unavailableService : String := "Unavailable service name"

def unavailableServiceStatus : String := "Unavailable service status"

def unavailableImage : String := "Unavailable image reference"

def identityText (value unavailable : String) : String :=
  if value = "" then unavailable else value

def ServiceState.wireName : ServiceState → String
  | .healthy => "healthy"
  | .warning => "warning"
  | .degraded => "degraded"
  | .offline => "offline"
  | .updating => "updating"
  | .unknown => "unknown"

section

variable (unicode : UnicodeTables)

def serviceState (service : Service) : Option ServiceState :=
  stateForStatus unicode (some service.status)

/-- What is inherited under a name is shown as its own text. -/
def stateText (service : Service) : String :=
  match serviceState unicode service with
  | some state => state.wireName
  | none =>
      if leadingToken (unicode.toLowerCase (codeUnits service.status)) = codeUnits "constructor"
      then "function Object() \x7b [native code] \x7d" else "[object Object]"

def serviceNeedsAttention (service : Service) : Bool :=
  (serviceState unicode service).any needsAttention

def nameText (service : Service) : String := identityText service.name unavailableService

def serviceStatusText (service : Service) : String :=
  identityText service.status unavailableServiceStatus

def stateLine (service : Service) : String :=
  nameText service ++ " — " ++ stateText unicode service ++ " (" ++ serviceStatusText service ++ ")"

variable (model : PublishedModel)

/-- The service with the longest name in the question, the first of these. -/
def findService (lower : List ℕ) : Option Service :=
  model.services.foldl (fun best service =>
    if service.name ≠ "" && (model.byName.get? service.name).isSome &&
        unicode.toLowerCase (codeUnits service.name) <:+: lower then
      match best with
      | none => some service
      | some found =>
          if (codeUnits found.name).length < (codeUnits service.name).length then some service
          else some found
    else best) none

/-! Answers -/

variable (q : List ℕ) (authority : Authority)

def derivedAnswer (headline : String) (body references : List String) : CopilotAnswer where
  question := q
  headline := headline
  body := body
  references := references
  evidence := evidenceFor .derived authority

def unhealthyAnswer : CopilotAnswer :=
  if model.services = [] then
    derivedAnswer q authority "No services observed" ["No services are present in this snapshot."]
      []
  else
    let attention := model.services.filter (serviceNeedsAttention unicode)
    if attention = [] then
      if model.services.all fun service => serviceState unicode service = some .healthy then
        derivedAnswer q authority "Everything is healthy"
          ["All observed services are reporting a healthy state."] []
      else
        let pending := model.services.filter fun service =>
          serviceState unicode service ≠ some .healthy
        derivedAnswer q authority "Nothing currently needs attention"
          (("No service needs attention right now, but " ++ toString pending.length ++ " service" ++
            (if pending.length = 1 then "" else "s") ++ " " ++
            (if pending.length = 1 then "is" else "are") ++ " not confirmed healthy:") ::
            pending.map fun service => "• " ++ stateLine unicode service)
          (pending.map Service.name)
    else
      derivedAnswer q authority
        (toString attention.length ++ " service" ++ (if attention.length = 1 then "" else "s") ++
          " need attention")
        (attention.map (stateLine unicode)) (attention.map Service.name)

/-- Only direct declarations. -/
def dependentNames (service : Service) : List String :=
  service.dependents.map fun id => ((model.byId.get? id).map Service.name).getD id

def dependentsAnswer (service : Service) : CopilotAnswer :=
  let names := dependentNames model service
  if names = [] then
    derivedAnswer q authority ("Nothing declares start order after " ++ nameText service)
      ["No service declares that it starts after " ++ nameText service ++ ".",
        "This is based on recorded Compose start-order declarations only — it does not predict " ++
          "runtime failure impact."]
      [service.name]
  else
    derivedAnswer q authority
      (toString names.length ++ " service" ++ (if names.length = 1 then "" else "s") ++ " " ++
        (if names.length = 1 then "declares" else "declare") ++ " start order after " ++
        nameText service)
      (("These services declare in their Compose definitions that they start after " ++
        nameText service ++ ":") :: names.map fun name =>
          "• " ++ identityText name unavailableService)
      (service.name :: names)

def upstreamLine (service : Service) : String :=
  "• " ++ nameText service ++ " is " ++ stateText unicode service

/-- Start order is no evidence of a cause. -/
def whyOfflineAnswer (service : Service) : CopilotAnswer :=
  if serviceState unicode service = some .healthy then
    derivedAnswer q authority (nameText service ++ " is healthy")
      [nameText service ++ " is running normally (" ++ serviceStatusText service ++ ")."] [service.name]
  else
    let upstreams := service.dependsOn.filterMap model.byId.get?
    let unhealthy := upstreams.filter (serviceNeedsAttention unicode)
    let incomplete := upstreams.filter fun dep =>
      serviceState unicode dep = some .unknown || serviceState unicode dep = some .updating
    let reasons :=
      if unhealthy ≠ [] then
        "Inferred cause — an upstream dependency is also unhealthy (heuristic, not measured):" ::
          unhealthy.map (upstreamLine unicode)
      else if incomplete ≠ [] then
        ("Inferred — upstream evidence is incomplete: one or more declared upstreams have " ++
          "unknown or transitioning state, so the cause is not established.") ::
          incomplete.map (upstreamLine unicode)
      else
        ["Inferred — no declared upstream is currently unhealthy, but the cause is not " ++
          "established: Compose start order is not runtime causality evidence, and this " ++
          "service's failure may be local or may be upstream."]
    { question := q
      headline := "Why " ++ nameText service ++ " is " ++ stateText unicode service
      body := (nameText service ++ " is currently " ++ stateText unicode service ++ " (" ++
        serviceStatusText service ++ ").") :: reasons
      references := service.name :: unhealthy.map Service.name
      evidence := evidenceFor .inferred authority }

/-- The side of the host and the side of the container. -/
structure ParsedPort where
  published : Option ℚ
  exposed : Option ℚ

section

variable (numbers : NumberTables)

def parsePort (port : String) : ParsedPort :=
  let body := (codeUnits port).takeWhile (· ≠ '/'.toNat)
  if body = [] then ⟨none, none⟩
  else
    match body.splitOn ':'.toNat with
    | [] => ⟨none, none⟩
    | [privateSide] => ⟨none, numbers.read privateSide⟩
    | publicSide :: privateSide :: _ =>
        if publicSide ≠ [] then
          ⟨(numbers.read publicSide).filter (0 < ·), numbers.read privateSide⟩
        else ⟨none, numbers.read publicSide⟩

def publishes (port : Option ℚ) (text : String) : Bool :=
  port.isSome && (parsePort numbers text).published == port

def exposes (port : Option ℚ) (text : String) : Bool :=
  port.isSome && (parsePort numbers text).exposed == port

def portLine (verb portText : String) (side : String → Bool) (service : Service) : String :=
  "• " ++ nameText service ++ " " ++ verb ++ " port " ++ portText ++ " (" ++
    ", ".intercalate (service.ports.filter side) ++ ")"

def portAnswer (lower : List ℕ) : CopilotAnswer :=
  match (portDigits lower).map numbers.read with
  | none =>
      derivedAnswer q authority "Ports in the snapshot"
        (model.services.flatMap fun service =>
          (service.ports.filter (· ≠ "")).map fun port => nameText service ++ " → " ++ port)
        (model.services.map Service.name)
  | some port =>
      let portText := numbers.text port
      let isPublished := fun (service : Service) => service.ports.any (publishes numbers port)
      let isExposed := fun (service : Service) => service.ports.any (exposes numbers port)
      let exposedHits := model.services.filter isExposed
      let publishedHits := model.services.filter isPublished
      let exposedLine := portLine "exposes" portText (exposes numbers port)
      if containsOne lower ["expose", "exposing", "listening on"] then
        if exposedHits = [] then
          derivedAnswer q authority ("No service exposes port " ++ portText)
            ["No service exposes port " ++ portText ++ "."] []
        else
          derivedAnswer q authority ("Port " ++ portText) (exposedHits.map exposedLine)
            (exposedHits.map Service.name).eraseDups
      else if publishedHits = [] ∧ exposedHits = [] then
        derivedAnswer q authority ("No service publishes port " ++ portText)
          ["No service publishes port " ++ portText ++ "."] []
      else
        derivedAnswer q authority ("Port " ++ portText)
          (publishedHits.map (portLine "publishes" portText (publishes numbers port)) ++
            (exposedHits.filter fun service => !isPublished service).map exposedLine)
          ((publishedHits ++ exposedHits).map Service.name).eraseDups

end

def changeAnswer : CopilotAnswer where
  question := q
  headline := "Recent and pending change"
  body := [updateStatusText, changeHistoryText]
  references := []
  evidence := .unavailable

/-- History of the model's revision, from a live daemon with a baseline. -/
def coherentObservedHistory (mode : Option EvidenceMode) (provenance : Option ModelProvenance)
    (history : Option Json) : Option Json :=
  history.filter fun history =>
    mode = some .live && provenance = some .live && Api.isRecord history &&
      Api.hasText history "source" "docker" &&
      JavaScript.strictEqual (history.field? "baselineEstablished") (some (.bool true)) &&
      Api.isNonEmptyText (history.field? "currentModelRevision") &&
      Api.asText (history.field? "currentModelRevision") == some model.modelRevision &&
      Api.isNonEmptyText (history.field? "observedRevision") &&
      (history.field? "events").any validEvents

def historyBoundary : String :=
  "These are bounded inventory deltas retained only for this daemon process lifetime; they do " ++
    "not establish identity, service, current state, or cause."

def observationText (event : Json) : String :=
  if Api.hasText event "kind" "container_appeared" then
    "A container appeared in the published inventory."
  else if Api.hasText event "kind" "container_disappeared" then
    "A container disappeared from the published inventory."
  else "A container observation changed status in the published inventory."

def historyAnswer (headline first : String) : CopilotAnswer where
  question := q
  headline := headline
  body := [first, historyBoundary]
  references := []
  evidence := .derived

def recentChangeAnswer (mode : Option EvidenceMode) (provenance : Option ModelProvenance)
    (history : Option Json) : CopilotAnswer :=
  match coherentObservedHistory model mode provenance history with
  | none => changeAnswer q
  | some coherent =>
      if authority ≠ .host then changeAnswer q
      else
        match coherent.field? "events" with
        | some (.arr (latest :: _)) =>
            historyAnswer q "Latest retained inventory observation" (observationText latest)
        | _ =>
            historyAnswer q "No retained inventory deltas"
              ("No inventory deltas have been retained since the daemon established its " ++
                "baseline.")

def serviceOverviewAnswer (service : Service) : CopilotAnswer :=
  let publishedPorts := service.ports.filter (· ≠ "")
  derivedAnswer q authority (nameText service ++ " overview")
    ["State: " ++ stateText unicode service ++ " (" ++ serviceStatusText service ++ ")",
      "Image: " ++ identityText service.image unavailableImage,
      "Declares start order after " ++ toString service.dependsOn.length ++ " service" ++
        (if service.dependsOn.length = 1 then "" else "s") ++ "; " ++
        toString service.dependents.length ++ " declare start order after it.",
      if publishedPorts ≠ [] then "Ports: " ++ ", ".intercalate publishedPorts
      else "No published ports."]
    [service.name]

end

def refusal (q : List ℕ) : CopilotAnswer where
  question := q
  headline := "Source not established"
  body := ["DockerMap cannot verify the source of this model, so it cannot answer from it.",
    "Wait until the live or sample authority is established and ask again."]
  references := []
  evidence := .unavailable
  authorityUnresolved := true

def answer (unicode : UnicodeTables) (numbers : NumberTables) (model : PublishedModel)
    (raw : List ℕ) (mode : Option EvidenceMode) (provenance : Option ModelProvenance)
    (history : Option Json) : CopilotAnswer :=
  let q := trimUnits raw
  let lower := unicode.toLowerCase q
  let authority := authorityOf mode provenance
  if authority = .unresolved then refusal q
  else
    match findService unicode model lower with
    | none =>
        if asksUnhealthy lower then unhealthyAnswer unicode model q authority
        else if asksPort lower then portAnswer model q authority numbers lower
        else if isRecentHistoryQuestion lower then
          recentChangeAnswer model q authority mode provenance history
        else if asksChange lower then changeAnswer q
        else
          derivedAnswer q authority "I can explain your topology"
            ["Try asking about a specific service, what declares start order after something, " ++
              "why a service is offline, or what changed recently.",
              "Everything I answer is computed from your service map."] []
    | some named =>
        if asksDependents lower then dependentsAnswer model q authority named
        else if asksWhy lower then whyOfflineAnswer unicode model q authority named
        else if asksPort lower then portAnswer model q authority numbers lower
        else if isRecentHistoryQuestion lower then
          recentChangeAnswer model q authority mode provenance history
        else if asksChange lower then changeAnswer q
        else serviceOverviewAnswer unicode q authority named

/-! The screen -/

/-- What the shell gives the hook. -/
def shellInputs (refreshTick : ℕ) (demoMode : Bool) (healthMode : Option RuntimeMode) :
    HookInputs where
  refreshTick := refreshTick
  demoMode := demoMode
  evidenceMode := resolveEvidenceMode demoMode healthMode
  includeFindings := true

def copilotResult (unicode : UnicodeTables) (numbers : NumberTables) (state : SystemModelState)
    (submitted : List ℕ) (mode : Option EvidenceMode) (observedHistory : Option Json) :
    Option CopilotAnswer :=
  if trimUnits submitted = [] then none
  else
    state.model.map fun model =>
      answer unicode numbers model submitted mode state.modelProvenance observedHistory

end DockerMap.Web
