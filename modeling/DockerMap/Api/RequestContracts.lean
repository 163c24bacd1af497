import DockerMap.Api.EventsStream
import DockerMap.Api.ResponseValidation
import DockerMap.Lib.FormRoundTrip
import DockerMap.Lib.InsertionMap
import DockerMap.Lib.TextLines
import DockerMap.Lib.UriComponent
import DockerMap.Lib.Utf16

/-! The queries that the browser API takes for logs and Compose, and the daemon paths that it
builds from them. -/

namespace DockerMap.Api

open FormEncoding (utf8 serialize)
open JavaScript (codeUnits decodeUriComponent isSpaceUnit)

structure HttpError where
  status : ℕ
  body : ApiError
  deriving DecidableEq

/-! Contracts -/

structure StringQueryContract where
  name : String
  required : Bool := false
  maxLength : ℕ
  minLength : Option ℕ := none
  pattern : Option (List Char → Bool) := none

structure IntegerQueryContract where
  name : String
  minimum : ℕ
  maximum : ℕ

structure RepeatedStringQueryContract where
  name : String
  maxItems : ℕ
  minLength : ℕ
  maxLength : ℕ
  pattern : List Char → Bool

inductive BrowserQueryContract
  | string (contract : StringQueryContract)
  | integer (contract : IntegerQueryContract)
  | repeatedString (contract : RepeatedStringQueryContract)

abbrev BrowserQueryContractSet := List (String × BrowserQueryContract)

/-- `^\d+$`. -/
def isDigits (text : List Char) : Bool := text ≠ [] && text.all Char.isDigit

/-- `^\d+(:\d+)?$`. -/
def isCursor (text : List Char) : Bool :=
  let millis := text.takeWhile Char.isDigit
  millis ≠ [] &&
    match text.dropWhile Char.isDigit with
    | [] => true
    | ':' :: offset => isDigits offset
    | _ => false

/-- `^[A-Za-z0-9][A-Za-z0-9_.-]*$`. -/
def isContainerName (text : List Char) : Bool :=
  text.head?.any Char.isAlphanum &&
    text.tail.all fun c => c.isAlphanum || ['_', '.', '-'].contains c

/-- `\S`. -/
def hasVisible (text : List Char) : Bool := text.any fun c => !isSpaceUnit c.toNat

namespace LogsQueryContract

def service : StringQueryContract :=
  { name := "service", maxLength := 128, pattern := some isContainerName }

def q : StringQueryContract := { name := "q", maxLength := 256 }

def cursor : StringQueryContract := { name := "cursor", maxLength := 32, pattern := some isCursor }

def limit : IntegerQueryContract := { name := "limit", minimum := 1, maximum := 500 }

end LogsQueryContract

def logsQueryContract : BrowserQueryContractSet :=
  [("service", .string LogsQueryContract.service), ("q", .string LogsQueryContract.q),
    ("cursor", .string LogsQueryContract.cursor), ("limit", .integer LogsQueryContract.limit)]

namespace ComposeScanQueryContract

def file : RepeatedStringQueryContract where
  name := "file"
  maxItems := 8
  minLength := 1
  maxLength := 512
  pattern := hasVisible

end ComposeScanQueryContract

def composeScanQueryContract : BrowserQueryContractSet :=
  [("file", .repeatedString ComposeScanQueryContract.file)]

namespace ComposeEditPlanQueryContract

def file : StringQueryContract where
  name := "file"
  required := true
  minLength := some 1
  maxLength := 512
  pattern := some hasVisible

def service : StringQueryContract where
  name := "service"
  required := true
  minLength := some 1
  maxLength := 128
  pattern := some hasVisible

def mount : StringQueryContract where
  name := "mount"
  required := true
  maxLength := 16
  pattern := some isDigits

def source : StringQueryContract := { name := "source", maxLength := 512 }

def target : StringQueryContract := { name := "target", maxLength := 512 }

end ComposeEditPlanQueryContract

def composeEditPlanQueryContract : BrowserQueryContractSet :=
  [("file", .string ComposeEditPlanQueryContract.file),
    ("service", .string ComposeEditPlanQueryContract.service),
    ("mount", .string ComposeEditPlanQueryContract.mount),
    ("source", .string ComposeEditPlanQueryContract.source),
    ("target", .string ComposeEditPlanQueryContract.target)]

/-! Keys and encoding -/

def badRequest {α : Type} (code message : String) : Except HttpError α :=
  .error ⟨400, { code, message }⟩

def invalidQuery {α : Type} (message : String) : Except HttpError α :=
  badRequest "invalid_query" message

/-- The query of a request: the values of each name, in their order. -/
abbrev Query := InsertionMap String (List String)

/-- The query parser of Express on a query in its encoding; it reads a thousand pairs. -/
def expressQuery (raw : String) : Query :=
  ((FormEncoding.parse (utf8 raw.toList)).take 1000).foldl
    (fun query pair => query.push pair.1 pair.2) ∅

def assertOnlyDeclaredQueryKeys (query : Query) (contract : BrowserQueryContractSet) :
    Except HttpError Unit :=
  match query.entries.find? fun entry => !(contract.map Prod.fst).contains entry.1 with
  | some entry => invalidQuery ("Query parameter " ++ entry.1 ++ " is not supported")
  | none => .ok ()

/-- The names that a plain object inherits. -/
def inheritedNames : List String :=
  ["constructor", "__defineGetter__", "__defineSetter__", "hasOwnProperty", "__lookupGetter__",
    "__lookupSetter__", "isPrototypeOf", "propertyIsEnumerable", "toString", "valueOf",
    "__proto__", "toLocaleString"]

/-- `contract[name]`: an inherited property is of no kind. -/
def parameterOf (contract : BrowserQueryContractSet) (name : List ℕ) :
    Option (Option BrowserQueryContract) :=
  match contract.find? fun entry => codeUnits entry.1 == name with
  | some entry => some (some entry.2)
  | none => if (inheritedNames.map codeUnits).contains name then some none else none

def isRepeatedString : Option BrowserQueryContract → Bool
  | some (.repeatedString _) => true
  | _ => false

def plusToSpace (unit : ℕ) : ℕ := if unit = 0x2B then 0x20 else unit

def textOf (units : List ℕ) : String := String.ofList (JavaScript.scalars units)

/-- The loop over the pairs, with the names that it has seen. -/
def assertPairs (contract : BrowserQueryContractSet) :
    List (List ℕ) → List (List ℕ) → Except HttpError Unit
  | [], _ => .ok ()
  | pair :: pairs, seen =>
      match decodeUriComponent ((pair.takeWhile (· ≠ 0x3D)).map plusToSpace) with
      | none => invalidQuery "Request query encoding is invalid"
      | some name =>
          match parameterOf contract name with
          | none => invalidQuery ("Query parameter " ++ textOf name ++ " is not supported")
          | some parameter =>
              if !isRepeatedString parameter && seen.contains name then
                invalidQuery ("Query parameter " ++ textOf name ++ " must not be repeated")
              else assertPairs contract pairs (name :: seen)

def assertStrictRequestQueryEncoding (raw : Option String) (contract : BrowserQueryContractSet) :
    Except HttpError Unit :=
  match raw with
  | none => .ok ()
  | some raw =>
      match decodeUriComponent ((codeUnits raw).map plusToSpace) with
      | none => invalidQuery "Request query encoding is invalid"
      | some _ => assertPairs contract ((codeUnits raw).splitOnP (· == 0x26)) []

/-! Values -/

def trimText (value : String) : String := String.ofList (JavaScript.trim value.toList)

/-- `text.length`. -/
def lengthOf (text : String) : ℕ := (codeUnits text).length

def decimal (n : ℕ) : String := String.ofList (Nat.toDigits 10 n)

def readQueryString (value : Option (List String)) (contract : StringQueryContract) :
    Except HttpError String :=
  match value with
  | none =>
      if contract.required then
        invalidQuery ("Query parameter " ++ contract.name ++ " is required")
      else .ok ""
  | some [value] =>
      let text := trimText value
      if text = "" ∧ contract.required then
        invalidQuery ("Query parameter " ++ contract.name ++ " is required")
      else if contract.maxLength < lengthOf text ∨ '\x00' ∈ text.toList then
        invalidQuery ("Query parameter " ++ contract.name ++ " must be " ++
          decimal contract.maxLength ++ " characters or fewer")
      else if text ≠ "" ∧ contract.minLength.any (lengthOf text < ·) then
        invalidQuery ("Query parameter " ++ contract.name ++ " is required")
      else if text ≠ "" ∧ contract.pattern.any fun pattern => !pattern text.toList then
        if contract.name = "service" then
          invalidQuery "Query parameter service must be a Docker container name"
        else if contract.name = "cursor" then
          invalidQuery "Query parameter cursor must be `millis` or `millis:offset`"
        else if contract.name = "mount" then
          invalidQuery "Query parameter mount must be a zero-based integer"
        else invalidQuery ("Query parameter " ++ contract.name ++ " is invalid")
      else .ok text
  | some _ => invalidQuery ("Query parameter " ++ contract.name ++ " must be a string")

def readQueryInteger (value : Option (List String)) (contract : IntegerQueryContract) :
    Except HttpError (Option ℕ) :=
  match value with
  | none => .ok none
  | some [value] =>
      if !isDigits value.toList then
        invalidQuery ("Query parameter " ++ contract.name ++ " must be an integer")
      else
        let parsed := Binary64.ofNat (Nat.ofDigitChars 10 value.toList 0)
        if maxSafeInteger < parsed ∨ parsed < contract.minimum ∨ contract.maximum < parsed then
          invalidQuery ("Query parameter " ++ contract.name ++ " must be between " ++
            decimal contract.minimum ++ " and " ++ decimal contract.maximum)
        else .ok (some parsed)
  | some _ => invalidQuery ("Query parameter " ++ contract.name ++ " must be an integer")

def readRepeatedQueryString (contract : RepeatedStringQueryContract) (value : String) :
    Except HttpError String :=
  let normalized := trimText value
  if normalized = "" then
    badRequest "invalid_compose_file" "Compose scan file query values must be non-empty strings"
  else if contract.maxLength < lengthOf normalized ∨ '\x00' ∈ normalized.toList ∨
      !contract.pattern normalized.toList then
    badRequest "invalid_compose_file" ("Compose scan file query values must be " ++
      decimal contract.maxLength ++ " characters or fewer")
  else .ok normalized

def readRepeatedQueryStrings (value : Option (List String))
    (contract : RepeatedStringQueryContract) : Except HttpError (List String) :=
  let values := value.getD []
  if contract.maxItems < values.length then
    badRequest "too_many_compose_files"
      ("Compose scan accepts at most " ++ decimal contract.maxItems ++ " files")
  else values.mapM (readRepeatedQueryString contract)

/-! Paths -/

structure LogsFields where
  service : String
  q : String
  cursor : String
  limit : Option ℕ
  deriving DecidableEq

structure ComposeEditPlanFields where
  file : String
  service : String
  mount : String
  source : String
  target : String

def withSuffix (path : String) (params : List (String × String)) : String :=
  let suffix := String.ofList (serialize params)
  if suffix ≠ "" then path ++ "?" ++ suffix else path

/-- `if (value) params.set(name, value)`. -/
def optionalParam (name value : String) : List (String × String) :=
  if value ≠ "" then [(name, value)] else []

def readLogsFields (query : Query) : Except HttpError LogsFields := do
  assertOnlyDeclaredQueryKeys query logsQueryContract
  let service ← readQueryString (query.get? "service") LogsQueryContract.service
  let q ← readQueryString (query.get? "q") LogsQueryContract.q
  let cursor ← readQueryString (query.get? "cursor") LogsQueryContract.cursor
  let limit ← readQueryInteger (query.get? "limit") LogsQueryContract.limit
  return { service, q, cursor, limit }

def logsParams (fields : LogsFields) : List (String × String) :=
  optionalParam "service" fields.service ++ optionalParam "q" fields.q ++
    optionalParam "cursor" fields.cursor ++
    (fields.limit.map fun limit => ("limit", decimal limit)).toList

def buildLogsPath (query : Query) : Except HttpError String :=
  (readLogsFields query).map fun fields => withSuffix "/daemon/logs" (logsParams fields)

def readComposeScanFiles (query : Query) : Except HttpError (List String) := do
  assertOnlyDeclaredQueryKeys query composeScanQueryContract
  readRepeatedQueryStrings (query.get? "file") ComposeScanQueryContract.file

def composeScanParams (files : List String) : List (String × String) := files.map (("file", ·))

def buildComposeScanPath (query : Query) : Except HttpError String :=
  (readComposeScanFiles query).map fun files =>
    withSuffix "/daemon/compose/scan" (composeScanParams files)

def readComposeEditPlanFields (query : Query) : Except HttpError ComposeEditPlanFields := do
  assertOnlyDeclaredQueryKeys query composeEditPlanQueryContract
  let file ← readQueryString (query.get? "file") ComposeEditPlanQueryContract.file
  let service ← readQueryString (query.get? "service") ComposeEditPlanQueryContract.service
  let mount ← readQueryString (query.get? "mount") ComposeEditPlanQueryContract.mount
  let source ← readQueryString (query.get? "source") ComposeEditPlanQueryContract.source
  let target ← readQueryString (query.get? "target") ComposeEditPlanQueryContract.target
  return { file, service, mount, source, target }

def composeEditPlanParams (fields : ComposeEditPlanFields) : List (String × String) :=
  [("file", fields.file), ("service", fields.service), ("mount", fields.mount)] ++
    optionalParam "source" fields.source ++ optionalParam "target" fields.target

def buildComposeEditPlanPath (query : Query) : Except HttpError String :=
  (readComposeEditPlanFields query).map fun fields =>
    "/daemon/compose/edit-plan?" ++ String.ofList (serialize (composeEditPlanParams fields))

/-! Handlers -/

namespace ReadHandlers

/-- The handlers up to the path that they fetch; the query is what follows the first question mark
of the request, if it has one. -/
def logs (raw : Option String) : Except HttpError String := do
  assertStrictRequestQueryEncoding raw logsQueryContract
  buildLogsPath (expressQuery (raw.getD ""))

def composeScan (raw : Option String) : Except HttpError String := do
  assertStrictRequestQueryEncoding raw composeScanQueryContract
  buildComposeScanPath (expressQuery (raw.getD ""))

def composeGraph (raw : Option String) : Except HttpError String := do
  assertStrictRequestQueryEncoding raw composeScanQueryContract
  let path ← buildComposeScanPath (expressQuery (raw.getD ""))
  return String.ofList (Text.replaceFirst "/scan".toList "/graph".toList path.toList)

def composeEditPlan (raw : Option String) : Except HttpError String := do
  assertStrictRequestQueryEncoding raw composeEditPlanQueryContract
  buildComposeEditPlanPath (expressQuery (raw.getD ""))

end ReadHandlers

end DockerMap.Api
