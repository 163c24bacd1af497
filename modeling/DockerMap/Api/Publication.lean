import DockerMap.Core.Logs
import DockerMap.Lib.Binary64
import DockerMap.Lib.Json

/-! The browser boundary of the Node API. `toLowerCase` is `String.prototype.toLowerCase`,
whose Unicode table is not part of the repository; everything here takes it as a
parameter. Numbers read from text are binary64. -/

namespace DockerMap.Api

def redactedValue : String := "[redacted]"

def isUnsafeDisplayCharacter (character : Char) : Bool :=
  let code := character.toNat
  code ≤ 0x1F ||
    (0x7F ≤ code && code ≤ 0x9F) ||
    (0x200B ≤ code && code ≤ 0x200F) ||
    (0x2028 ≤ code && code ≤ 0x202E) ||
    (0x2060 ≤ code && code ≤ 0x2069) ||
    code == 0xFEFF ||
    (0xFDD0 ≤ code && code ≤ 0xFDEF) ||
    code % 0x10000 == 0xFFFE || code % 0x10000 == 0xFFFF

/-- ECMAScript white space and line terminators. -/
def isWhitespace (c : Char) : Bool :=
  let n := c.toNat
  (9 ≤ n && n ≤ 13) || n == 0x20 || n == 0xA0 || n == 0x1680 || (0x2000 ≤ n && n ≤ 0x200A) ||
    n == 0x2028 || n == 0x2029 || n == 0x202F || n == 0x205F || n == 0x3000 || n == 0xFEFF

def containsUrlUserinfo (value : List Char) : Bool :=
  match Text.afterFirst "://".toList value with
  | none => false
  | some authority => (authority.takeWhile fun c => c ≠ '/' && c ≠ '?' && c ≠ '#').contains '@'

def sensitiveNeedles : List String :=
  ["token=", "token:", "auth_token=", "auth_token:", "_authtoken=", "_authtoken:", "_auth=",
    "_auth:", "api_key=", "api_key:", "api-key=", "api-key:", "apikey=", "apikey:", "x-api-key=",
    "x-api-key:", "secret_key=", "secret_key:", "secret-key=", "secret-key:",
    "secret_access_key=", "secret_access_key:", "secret-access-key=", "secret-access-key:",
    "aws_secret_access_key=", "aws_secret_access_key:", "authorization=", "authorization:",
    "password=", "password:", "passwd=", "passwd:", "secret=", "secret:", "client_secret=",
    "client_secret:", "private_key=", "private_key:", "credential=", "credential:",
    "access_token=", "access_token:", "refresh_token=", "refresh_token:"]

def sensitiveFlags : List String :=
  ["--token", "--auth", "--api-key", "--authorization", "--password", "--secret",
    "--client-secret", "--private-key"]

/-- `Object.fromEntries`: a repeated name keeps its place and takes the later value. -/
def fromEntries (entries : List (String × Json)) : List (String × Json) :=
  entries.foldl (fun fields entry =>
    if (fields.map Prod.fst).contains entry.1 then
      fields.map fun field => if field.1 = entry.1 then entry else field
    else fields ++ [entry]) []

section

variable (toLowerCase : String → String)

def isSensitiveText (value : String) : Bool :=
  let lower := (toLowerCase value).toList
  Text.contains lower "dockermap_test_fake_".toList ||
    containsUrlUserinfo value.toList ||
    sensitiveNeedles.any (fun needle => Text.contains lower needle.toList) ||
    (value.toList.splitOnP isWhitespace).any (fun token =>
      let token := (toLowerCase (String.ofList token)).toList
      sensitiveFlags.any fun flag =>
        token == flag.toList || Text.startsWith token (flag.toList ++ ['='])) ||
    Text.startsWith (lower.dropWhile isWhitespace) "bearer ".toList ||
    Text.contains lower "authorization=bearer".toList ||
    Text.contains lower "authorization=basic".toList

def publishDisplayText (value : String) : String :=
  let redacted := if isSensitiveText toLowerCase value then redactedValue else value
  String.ofList (redacted.toList.map fun character =>
    if isUnsafeDisplayCharacter character then '\uFFFD' else character)

mutual

/-- Every string of a payload goes through the boundary, the names of properties too. -/
def publishApiPayload : Json → Json
  | .str text => .str (publishDisplayText toLowerCase text)
  | .arr items => .arr (publishItems items)
  | .obj fields => .obj (fromEntries (publishEntries fields))
  | value => value

def publishItems : List Json → List Json
  | [] => []
  | item :: items => publishApiPayload item :: publishItems items

def publishEntries : List (String × Json) → List (String × Json)
  | [] => []
  | (key, item) :: entries =>
      (publishDisplayText toLowerCase key, publishApiPayload item) :: publishEntries entries

end

/-- `publishApiPayload` at a log entry: its string fields go through the boundary. -/
def publishLogEntry (entry : LogEntry) : LogEntry :=
  { entry with
    id := publishDisplayText toLowerCase entry.id
    container := publishDisplayText toLowerCase entry.container
    message := publishDisplayText toLowerCase entry.message }

def matchesQuery (query : Option String) (entry : LogEntry) : Bool :=
  match query.map toLowerCase with
  | none => true
  | some filter => Text.contains (toLowerCase entry.message).toList filter.toList

end

/-- `Number(text)` on decimal digits and on the empty text. -/
def number (text : List Char) : ℕ := Binary64.ofNat (Nat.ofDigitChars 10 text 0)

/-- The two parts of `cursor.split(":", 2)`; a missing offset is `"0"`. -/
def cursorParts (cursor : String) : List Char × List Char :=
  let parts := (cursor.toList.splitOnP (· == ':')).take 2
  (parts.headD [], (parts[1]?).getD ['0'])

/-- The stateful filter of a cursor; the counter is `sameTimestampSeen`. -/
def afterCursor (millis offset : ℕ) : ℕ → List LogEntry → List LogEntry
  | _, [] => []
  | seen, entry :: entries =>
      if entry.timestamp.val < millis then entry :: afterCursor millis offset seen entries
      else if millis < entry.timestamp.val then afterCursor millis offset seen entries
      else if offset ≤ seen then entry :: afterCursor millis offset (seen + 1) entries
      else afterCursor millis offset (seen + 1) entries

def resumeEntries (cursor : Option String) (entries : List LogEntry) : List LogEntry :=
  match cursor with
  | some cursor =>
      afterCursor (number (cursorParts cursor).1) (number (cursorParts cursor).2) 0 entries
  | none => entries

def publishLogsResponse (toLowerCase : String → String) (service : Option String)
    (entries : List LogEntry) (query cursor : Option String) (limit : ℕ) : LogsResponse :=
  let publishedService := service.map (publishDisplayText toLowerCase)
  let safeEntries := entries.map (publishLogEntry toLowerCase)
  let filtered := (safeEntries.filter fun entry =>
    publishedService.all fun service => entry.container == service).filter
      (matchesQuery toLowerCase query)
  let filtered := RunPaging.newestFirst LogEntry.timestamp filtered
  let filtered := resumeEntries cursor filtered
  let boundedLimit := max 1 (min 500 limit)
  let hasMore := boundedLimit < filtered.length
  let page := filtered.take boundedLimit
  let nextCursor :=
    match page.getLast? with
    | some boundary =>
        if hasMore then
          let firstAtBoundary :=
            ((page.findIdx? fun entry => entry.timestamp = boundary.timestamp).getD 0)
          let (cursorMillisPart, offsetPart) := cursorParts (cursor.getD "")
          let previouslyEmitted :=
            if number cursorMillisPart = boundary.timestamp.val then number offsetPart else 0
          some (toString boundary.timestamp.val ++ ":" ++
            toString (previouslyEmitted + page.length - firstAtBoundary))
        else none
    | none => none
  { service := publishedService, entries := page, nextCursor := nextCursor }

/-- The cursor texts the query contract lets through: `^\d+(:\d+)?$`, at most 32 characters. -/
def acceptedCursor (cursor : String) : Bool :=
  let millis := cursor.toList.takeWhile Char.isDigit
  cursor.toList.length ≤ 32 && millis ≠ [] &&
    match cursor.toList.dropWhile Char.isDigit with
    | [] => true
    | ':' :: offset => offset ≠ [] && offset.all Char.isDigit
    | _ => false

end DockerMap.Api
