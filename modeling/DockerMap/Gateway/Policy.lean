import DockerMap.Lib.FormEncoding
import DockerMap.Lib.Json

/-! The fixed, measured read contract of the Docker gateway. A request is checked before the
raw Docker socket is opened, and its target goes upstream as it came. -/

namespace DockerMap.Gateway

def logTail : String := "4096"

structure Policy where
  labelFilter : Option String
  deriving DecidableEq

inductive Deny | method | framing | target | query
  deriving DecidableEq, Repr

/-- A parsed request. Header names are in lower case. -/
structure Request where
  method : String
  scheme : Option String := none
  authority : Option String := none
  headers : List (String × String) := []
  pathAndQuery : Option String
  deriving DecidableEq

/-- The policy answers, or a slice of the path is out of range. -/
inductive Verdict
  | allowed (target : String)
  | denied (reason : Deny)
  | panicked
  deriving DecidableEq

/-- Blank labels are no filter. -/
def Policy.new (labelFilter : Option String) : Policy where
  labelFilter := (labelFilter.map fun value => String.ofList (Text.trim value.toList)).filter
    fun trimmed => trimmed ≠ ""

def forbiddenHeaders : List String :=
  ["content-length", "transfer-encoding", "upgrade", "expect", "trailer", "connection"]

def Request.containsKey (request : Request) (name : String) : Bool :=
  request.headers.any fun header => header.1 == name

/-- `{"label":[...]}` with the label as a JSON string. -/
def filtersJson (label : String) : List Char :=
  "\x7b\"label\":[".toList ++ Json.renderStr label ++ "]\x7d".toList

def encodedFilters (label : String) : List Char :=
  FormEncoding.byteSerialize (FormEncoding.utf8 (filtersJson label))

def inventory (policy : Policy) (target base : String) : Verdict :=
  match policy.labelFilter with
  | none => if target = base then .allowed target else .denied .query
  | some label =>
      let separator := if base.toList.getLast? = some '?' then "" else "&"
      if target = base ++ separator ++ "filters=" ++ String.ofList (encodedFilters label) then
        .allowed target
      else .denied .query

/-- A character outside ASCII is read byte by byte, and none of its bytes is a name byte. -/
def validContainerName (name : List Char) : Bool :=
  !name.isEmpty && Text.byteLength name ≤ 255 &&
    name.zipIdx.all fun (c, index) =>
      c.isAlphanum || (['_', '.', '-'].contains c && index ≠ 0)

/-- `strip_prefix` and `strip_suffix`. -/
def stripBoth (front back l : List Char) : Option (List Char) :=
  if front <+: l then
    let rest := l.drop front.length
    if back <:+ rest then some (rest.take (rest.length - back.length)) else none
  else none

def logsPrefix : String := "follow=false&stdout=true&stderr=true&since=0&until="

def logsSuffix : String := "&timestamps=true&tail=" ++ logTail

/-- `path[12..path.len() - 5]`. Both ends lie on the ASCII of a prefix or a suffix already
matched, so characters stand for bytes. -/
def containerName (path : List Char) : Option (List Char) :=
  if 12 ≤ path.length - 5 then some ((path.drop 12).take (path.length - 5 - 12)) else none

def isCanonicalUntil (until_ : List Char) : Bool :=
  until_ == ['0'] ||
    (until_.head?.any (fun c => c.isDigit && c ≠ '0') && until_.all Char.isDigit)

def logs (target : String) (path query : List Char) : Verdict :=
  match containerName path with
  | none => .panicked
  | some name =>
      if !validContainerName name then .denied .target
      else
        match stripBoth logsPrefix.toList logsSuffix.toList query with
        | none => .denied .query
        | some until_ =>
            if !isCanonicalUntil until_ then .denied .query
            else if until_.isEmpty || query.count '&' ≠ 6 || query.contains '%' then .denied .query
            else .allowed target

/-- Spellings that some parser may read as another path. -/
def isSuspicious (target path : List Char) : Bool :=
  1 < target.count '?' || Text.contains path "/./".toList || Text.contains path "/../".toList ||
    decide ("/.".toList <:+ path) || decide ("/..".toList <:+ path) || path.contains '%' ||
    path.contains '\\'

def allowTarget (policy : Policy) (target : String) : Verdict :=
  let (path, query) := (Text.splitOnce '?' target.toList).getD (target.toList, [])
  if !Text.startsWith target.toList "/".toList || Text.startsWith target.toList "//".toList then
    .denied .target
  else if isSuspicious target.toList path then .denied .target
  else if path = "/containers/json".toList then
    inventory policy target "/containers/json?all=true&size=false"
  else if path = "/networks".toList then inventory policy target "/networks?"
  else if path = "/volumes".toList then inventory policy target "/volumes?"
  else if Text.startsWith path "/containers/".toList && decide ("/logs".toList <:+ path) then
    logs target path query
  else .denied .target

/-- The caller sends the returned target upstream verbatim. -/
def allow (policy : Policy) (request : Request) : Verdict :=
  if request.method ≠ "GET" then .denied .method
  else if request.scheme.isSome || request.authority.isSome then .denied .target
  else if forbiddenHeaders.any request.containsKey then .denied .framing
  else
    match request.pathAndQuery with
    | none => .denied .target
    | some target => allowTarget policy target

end DockerMap.Gateway
