import DockerMap.Core.Logs
import DockerMap.Daemon.FormQuery
import DockerMap.Lib.InsertionMap

/-! The daemon's reading of the queries of the log and Compose routes. -/

namespace DockerMap

def maxLogQueryChars : ℕ := 256
def maxLogServiceChars : ℕ := 128
def maxComposeFiles : ℕ := 8
def maxComposeFileChars : ℕ := 512
def maxComposeServiceChars : ℕ := 128

def badRequest {α : Type} (message : String) : Except ApiError α := .error ⟨400, message⟩

def trimText (value : String) : String := String.ofList (Text.trim value.toList)

/-- `value.len()`. -/
def byteLength (value : String) : ℕ := Text.byteLength value.toList

/-- The loop over the parsed pairs: each name is one of these, and comes once. -/
def collectValues (names : List String) (failure : ApiError) :
    List (String × String) → InsertionMap String String →
      Except ApiError (InsertionMap String String)
  | [], values => .ok values
  | (name, value) :: pairs, values =>
      if !names.contains name || (values.get? name).isSome then .error failure
      else collectValues names failure pairs (values.set name value)

/-! Logs -/

structure LogsQuery where
  service : Option String
  q : Option String
  cursor : Option String
  limit : Option ℕ

def invalidLogsQuery : ApiError where
  status := 400
  message := "invalid log query"

/-- Blank, or an ASCII letter or digit and then such characters and `_.-`. -/
def isServiceText (service : String) : Bool :=
  let value := Text.trim service.toList
  value.isEmpty ||
    (value.head?.any Char.isAlphanum &&
      value.all fun c => c.isAlphanum || ['_', '.', '-'].contains c)

def parseLimitText (value : String) : Except ApiError ℕ :=
  if !value.toList.all Char.isDigit then .error invalidLogsQuery
  else (Text.parseUnsigned usizeBound value.toList).elim (.error invalidLogsQuery) .ok

def parseLogsQuery (raw : Option String) : Except ApiError LogsQuery := do
  let raw := raw.getD ""
  if !strictFormUrlencodedUtf8 raw then .error invalidLogsQuery
  let values ← collectValues ["service", "q", "cursor", "limit"] invalidLogsQuery
    (FormEncoding.parse (FormEncoding.utf8 raw.toList)) ∅
  let limit ← (values.get? "limit").mapM parseLimitText
  let service := values.get? "service"
  if service.any fun value => !isServiceText value then .error invalidLogsQuery
  return { service, q := values.get? "q", cursor := values.get? "cursor", limit }

def validateOptionalQuery (value : Option String) (name : String) (maxChars : ℕ) :
    Except ApiError (Option String) :=
  match value with
  | none => .ok none
  | some value =>
      let text := trimText value
      if text = "" then .ok none
      else if maxChars < text.toList.length ∨ '\x00' ∈ text.toList then
        badRequest ("query parameter `" ++ name ++ "` must be " ++
          String.ofList (Nat.toDigits 10 maxChars) ++ " characters or fewer")
      else .ok (some text)

def parseLogCursor (value : Option String) : Except ApiError (Option LogCursor) := do
  let value ← validateOptionalQuery value "cursor" 32
  value.mapM fun value =>
    (LogCursor.parse value).elim
      (badRequest "query parameter `cursor` must be `millis` or `millis:offset`") .ok

def parseLogLimit (value : Option ℕ) : Except ApiError ℕ :=
  match value with
  | some value =>
      if 1 ≤ value ∧ value ≤ maxLogPageSize then .ok value
      else
        badRequest ("query parameter `limit` must be between 1 and " ++
          String.ofList (Nat.toDigits 10 maxLogPageSize))
  | none => .ok defaultLogPageSize

/-- What `get_logs` reads of its query. -/
structure LogsRequest where
  service : Option String
  q : Option String
  cursor : Option LogCursor
  limit : ℕ

def readLogsRequest (raw : Option String) : Except ApiError LogsRequest := do
  let query ← parseLogsQuery raw
  let service ← validateOptionalQuery query.service "service" maxLogServiceChars
  let q ← validateOptionalQuery query.q "q" maxLogQueryChars
  let cursor ← parseLogCursor query.cursor
  let limit ← parseLogLimit query.limit
  return { service, q, cursor, limit }

/-! Compose -/

def validateComposeFile (value : String) : Except ApiError String :=
  let text := trimText value
  if text = "" then badRequest "compose file query values must be non-empty strings"
  else if maxComposeFileChars < byteLength text ∨ '\x00' ∈ text.toList then
    badRequest ("compose file query values must be " ++
      String.ofList (Nat.toDigits 10 maxComposeFileChars) ++ " characters or fewer")
  else .ok text

def validateComposeFiles (files : List String) : Except ApiError (List String) := do
  let files ← files.mapM validateComposeFile
  if maxComposeFiles < files.length then
    badRequest ("compose scan accepts at most " ++
      String.ofList (Nat.toDigits 10 maxComposeFiles) ++ " files")
  else return files

structure ComposeScanQuery where
  file : List String

def parseComposeScanQuery (raw : Option String) : Except ApiError ComposeScanQuery := do
  let pairs ← decodeQuery raw
  if pairs.any fun pair => pair.1 ≠ "file" then .error malformedQuery
  let file ← validateComposeFiles (pairs.map Prod.snd)
  return { file }

def validateOptionalRawQuery (value : String) (maximum : ℕ) : Except ApiError String :=
  let text := trimText value
  if maximum < byteLength text ∨ '\x00' ∈ text.toList then .error malformedQuery
  else .ok text

def validateRequiredRawQuery (value : String) (maximum : ℕ) : Except ApiError String := do
  let text ← validateOptionalRawQuery value maximum
  if text = "" then .error malformedQuery
  else return text

structure ComposeEditPlanQuery where
  file : String
  service : String
  mount : ℕ
  source : Option String
  target : Option String

/-- The closure `required`: every failure is the same error. -/
def requiredValue (values : InsertionMap String String) (name : String) (maximum : ℕ) :
    Except ApiError String :=
  match values.get? name with
  | none => .error malformedQuery
  | some value => validateRequiredRawQuery value maximum

def parseMountText (value : String) : Except ApiError ℕ :=
  if !value.toList.all Char.isDigit then .error malformedQuery
  else (Text.parseUnsigned usizeBound value.toList).elim (.error malformedQuery) .ok

def parseComposeEditPlanQuery (raw : Option String) : Except ApiError ComposeEditPlanQuery := do
  let pairs ← decodeQuery raw
  let values ← collectValues ["file", "service", "mount", "source", "target"] malformedQuery
    pairs ∅
  let file ← requiredValue values "file" maxComposeFileChars
  let service ← requiredValue values "service" maxComposeServiceChars
  let mountText ← requiredValue values "mount" 16
  let mount ← parseMountText mountText
  let source ← (values.get? "source").mapM fun value =>
    validateOptionalRawQuery value maxComposeFileChars
  let target ← (values.get? "target").mapM fun value =>
    validateOptionalRawQuery value maxComposeFileChars
  return { file, service, mount, source, target }

end DockerMap
