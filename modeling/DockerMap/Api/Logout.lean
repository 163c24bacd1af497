import DockerMap.Api.SessionStreams
import DockerMap.Lib.JavaScript

/-! The logout route. It revokes whatever the session cookie of the request names. -/

namespace DockerMap.Api

/-- The value of the first cookie of that name, or the empty string. -/
def readCookie (header : Option String) (name : String) : String :=
  let namePart := name.toList ++ ['=']
  let cookies := ((header.getD "").toList.splitOnP (· = ';')).map JavaScript.trim
  match cookies.find? fun value => Text.startsWith value namePart with
  | some value => String.ofList (value.drop namePart.length)
  | none => ""

/-- What lets a request through to an authenticated route. -/
inductive RequestIdentity
  /-- The bearer token, a trusted identity header, or no authentication configured. -/
  | headers
  /-- Bearer mode without a scheme: the session cookie decides. -/
  | cookie
  deriving DecidableEq

structure LogoutRequest where
  cookieHeader : Option String
  identity : RequestIdentity
  now : ℕ

namespace SessionStreams

variable (s : SessionStreams)

/-- The route behind the authentication of the request. -/
def logout (authCookieName : String) (request : LogoutRequest) : SessionStreams :=
  let session := readCookie request.cookieHeader authCookieName
  match request.identity with
  | .headers => s.revokeSession session
  | .cookie =>
      let (checked, valid) := s.validSession session request.now
      if valid then checked.revokeSession session else checked

end SessionStreams

end DockerMap.Api
