import DockerMap.Lib.FormParsing

/-! The strict reading of the form-encoded queries of the log and Compose routes. -/

namespace DockerMap

open FormEncoding (utf8 nibble)

structure ApiError where
  status : ℕ
  message : String
  deriving DecidableEq

/-- The loop over the bytes of one component, which both validators have. -/
def strictComponent : List UInt8 → Option (List UInt8)
  | [] => some []
  | byte :: rest =>
      if byte = 0x2B then (strictComponent rest).map (0x20 :: ·)
      else if byte = 0x25 then
        match rest with
        | high :: low :: after =>
            if FormEncoding.isHexDigit high && FormEncoding.isHexDigit low then
              (strictComponent after).map (UInt8.ofNat (nibble high * 16 + nibble low) :: ·)
            else none
        | _ => none
      else (strictComponent rest).map (byte :: ·)

/-- `split(['&', '='])`. -/
def formComponents (raw : String) : List (List Char) :=
  raw.toList.splitOnP fun c => c == '&' || c == '='

def strictFormUrlencodedUtf8 (raw : String) : Bool :=
  (formComponents raw).all fun component => (strictComponent (utf8 component)).any Utf8.isText

def malformedQuery : ApiError where
  status := 400
  message := "invalid request query"

/-- The loop over the components, left at the first that is malformed. -/
def validateComponents : List (List Char) → Except ApiError Unit
  | [] => .ok ()
  | component :: components =>
      match strictComponent (utf8 component) with
      | none => .error malformedQuery
      | some decoded =>
          if Utf8.isText decoded then validateComponents components else .error malformedQuery

/-- Reject the lossy UTF-8 replacement performed by the parser. -/
def validateStrictFormUrlencoded (raw : String) : Except ApiError Unit :=
  validateComponents (formComponents raw)

def decodeQuery (raw : Option String) : Except ApiError (List (String × String)) := do
  let raw := raw.getD ""
  validateStrictFormUrlencoded raw
  return FormEncoding.parse (utf8 raw.toList)

end DockerMap
