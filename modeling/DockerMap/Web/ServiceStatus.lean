import DockerMap.Core.SnapshotRuntime
import DockerMap.Core.Wire
import DockerMap.Web.AtlasProjection

/-! What the browser and the API read out of the status text of a container. Texts are lists
of code units, lowercased by the standard's tables. -/

namespace DockerMap.Web

open JavaScript (codeUnits isSpaceUnit)
open Atlas (UnicodeTables)

inductive ServiceState | healthy | warning | degraded | offline | updating | unknown
  deriving DecidableEq, Repr

/-! Patterns -/

def openParen : ℕ := '('.toNat

def closeParen : ℕ := ')'.toNat

/-- `[a-z]`. -/
def isLowerUnit (unit : ℕ) : Bool := 'a'.toNat ≤ unit && unit ≤ 'z'.toNat

/-- `\w`. -/
def isWordUnit (unit : ℕ) : Bool :=
  isLowerUnit unit || 'A'.toNat ≤ unit && unit ≤ 'Z'.toNat ||
    '0'.toNat ≤ unit && unit ≤ '9'.toNat || unit == '_'.toNat

/-- A nonempty run of letters that a parenthesis closes. -/
def closedWord (text : List ℕ) : Option (List ℕ) :=
  let word := text.takeWhile isLowerUnit
  if word ≠ [] ∧ (text.drop word.length).head? = some closeParen then some word else none

def dropHealth (text : List ℕ) : List ℕ :=
  if codeUnits "health:" <+: text then
    (text.drop (codeUnits "health:").length).dropWhile isSpaceUnit
  else text

/-- The group of the first match of `\((?:health:\s*)?([a-z]+)\)`. -/
def healthMarker : List ℕ → Option (List ℕ)
  | [] => none
  | unit :: text =>
      if unit = openParen then (closedWord (dropHealth text)).or (healthMarker text)
      else healthMarker text

/-- `split(/[\s(]/)[0]`. -/
def leadingToken (text : List ℕ) : List ℕ :=
  text.takeWhile fun unit => !(isSpaceUnit unit || unit == openParen)

/-- Whether `\bword\b` matches; the flag tells a word character before the text. -/
def containsWord (word : List ℕ) : Bool → List ℕ → Bool
  | _, [] => false
  | after, unit :: text =>
      (!after && decide (word <+: unit :: text) &&
        !((unit :: text).drop word.length).head?.any isWordUnit) ||
      containsWord word (isWordUnit unit) text

def containsAny (words : List String) (text : List ℕ) : Bool :=
  words.any fun word => containsWord (codeUnits word) false text

/-- The units are one of the words. -/
def Among (words : List String) (units : List ℕ) : Prop := units ∈ words.map codeUnits

instance (words : List String) (units : List ℕ) : Decidable (Among words units) :=
  inferInstanceAs (Decidable (units ∈ words.map codeUnits))

section

variable (unicode : UnicodeTables)

/-! The service card -/

def stateByStatus : List (String × ServiceState) :=
  [("running", .healthy), ("up", .healthy), ("healthy", .healthy), ("paused", .warning),
    ("restarting", .updating), ("created", .updating), ("starting", .updating),
    ("removing", .updating), ("exited", .offline), ("dead", .offline), ("stopped", .offline),
    ("down", .offline), ("unhealthy", .degraded), ("degraded", .degraded)]

/-- What every object inherits under a name in lower case is no state. -/
def inheritedNames : List String := ["constructor", "__proto__"]

def lookupState (key : List ℕ) : Option ServiceState :=
  match stateByStatus.find? fun entry => codeUnits entry.1 = key with
  | some entry => some entry.2
  | none => if Among inheritedNames key then none else some .unknown

def markerState (marker : List ℕ) : Option ServiceState :=
  if marker = codeUnits "unhealthy" then some .degraded
  else if marker = codeUnits "degraded" then some .degraded
  else if Among ["starting", "started", "updating"] marker then some .updating
  else if marker = codeUnits "healthy" then some .healthy
  else none

/-- The health marker is stronger evidence than the leading token. -/
def stateForStatus (status : Option String) : Option ServiceState :=
  match status.filter (· ≠ "") with
  | none => some .unknown
  | some text =>
      let lower := unicode.toLowerCase (codeUnits text)
      match (healthMarker lower).bind markerState with
      | some state => some state
      | none => lookupState (leadingToken lower)

/-! The status endpoint -/

inductive ContainerStatusKind | running | offline | attention
  deriving DecidableEq, Repr

def markerKind (marker : List ℕ) : Option ContainerStatusKind :=
  if Among ["unhealthy", "degraded", "starting", "started", "updating"] marker then
    some .attention
  else if marker = codeUnits "healthy" then some .running
  else none

def kindOfToken (key : List ℕ) : ContainerStatusKind :=
  if Among ["up", "running"] key then .running
  else if Among ["exited", "dead"] key then .offline
  else .attention

def containerStatusKind (status : String) : ContainerStatusKind :=
  let lower := unicode.toLowerCase (codeUnits status)
  ((healthMarker lower).bind markerKind).getD (kindOfToken (leadingToken lower))

/-! The runtime node -/

def degradedWords : List String := ["degraded", "failed", "error"]

def offlineWords : List String :=
  ["offline", "stopped", "dead", "down", "exited", "missing", "unhealthy", "unavailable",
    "inactive", "disconnected"]

def negatedPhrases : List String :=
  ["not ready", "not running", "not responding", "not reachable", "not started", "not startable"]

def warningWords : List String := ["warning", "paused"]

def updatingWords : List String := ["starting", "restarting", "reloading", "pending", "loading"]

def positiveWords : List String :=
  ["healthy", "running", "active", "online", "available", "attached", "ready", "connected"]

def negativeGroups : List (List String × ServiceState) :=
  [(degradedWords, .degraded), (offlineWords, .offline), (negatedPhrases, .offline),
    (warningWords, .warning), (updatingWords, .updating)]

/-- The first group with a word in the text; the positive words come last. -/
def stateOfText (value : List ℕ) : Option ServiceState :=
  match negativeGroups.find? fun group => containsAny group.1 value with
  | some group => some group.2
  | none => if containsAny positiveWords value then some .healthy else none

def healthNodeState (state : List ℕ) : Option ServiceState :=
  if state = codeUnits "healthy" then some .healthy
  else if state = codeUnits "degraded" ∨ state = codeUnits "unhealthy" then some .degraded
  else if state = codeUnits "unknown" then some .unknown
  else none

def runtimeStateForNode (node : RuntimeMapNode) : ServiceState :=
  let healthState := (node.service.bind RuntimeServiceEntity.health).map fun health =>
    unicode.toLowerCase (codeUnits health.state.wireName)
  match healthState.bind healthNodeState with
  | some state => state
  | none =>
      let values := [node.service.map fun service => service.status.wireName, node.status]
      let candidates := (values.filterMap fun value =>
        value.map fun text => unicode.toLowerCase (codeUnits text)).filter (· ≠ [])
      (candidates.findSome? stateOfText).getD .unknown

end

end DockerMap.Web
