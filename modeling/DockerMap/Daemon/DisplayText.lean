import DockerMap.Lib.Text

/-! The redaction and normalization of provider-controlled display strings. -/

namespace DockerMap

def redactedValue : String := "[redacted]"

def maxRuntimeEvidenceTextChars : ℕ := 256

def truncateChars (value : String) (maxChars : ℕ) : String :=
  String.ofList (Text.truncateChars value.toList maxChars)

def unsafeRuntimeDisplayCharacter (character : Char) : Bool :=
  let code := character.toNat
  Text.isControl character ||
    (0x200B ≤ code && code ≤ 0x200F) ||
    (0x2028 ≤ code && code ≤ 0x202E) ||
    (0x2060 ≤ code && code ≤ 0x2069) ||
    code == 0xFEFF ||
    (0xFDD0 ≤ code && code ≤ 0xFDEF) ||
    code % 0x10000 == 0xFFFE || code % 0x10000 == 0xFFFF

def replacementCharacter : Char := '\uFFFD'

def normalizeCharacter (character : Char) : Char :=
  if unsafeRuntimeDisplayCharacter character then replacementCharacter else character

def normalizeRuntimeDisplayString (value : String) : String :=
  String.ofList (value.toList.map normalizeCharacter)

/-- The authority of the first URL of the text names a user. -/
def containsUrlUserinfo (value : List Char) : Bool :=
  match Text.afterFirst "://".toList value with
  | none => false
  | some authority => (authority.takeWhile fun c => c ≠ '/' && c ≠ '?' && c ≠ '#').contains '@'

def sensitiveAssignments : List (List Char) :=
  ["token=", "token:", "auth_token=", "auth_token:", "_authtoken=", "_authtoken:", "_auth=",
    "_auth:", "api_key=", "api_key:", "api-key=", "api-key:", "apikey=", "apikey:", "x-api-key=",
    "x-api-key:", "secret_key=", "secret_key:", "secret-key=", "secret-key:",
    "secret_access_key=", "secret_access_key:", "secret-access-key=", "secret-access-key:",
    "aws_secret_access_key=", "aws_secret_access_key:", "authorization=", "authorization:",
    "password=", "password:", "passwd=", "passwd:", "secret=", "secret:", "client_secret=",
    "client_secret:", "private_key=", "private_key:", "credential=", "credential:",
    "access_token=", "access_token:", "refresh_token=", "refresh_token:"].map String.toList

def containsSensitiveAssignment (value : List Char) : Bool :=
  sensitiveAssignments.any (Text.contains value)

def sensitiveFlags : List (List Char) :=
  ["--token", "--auth", "--api-key", "--authorization", "--password", "--secret",
    "--client-secret", "--private-key"].map String.toList

def isSensitiveFlag (token : List Char) : Bool :=
  sensitiveFlags.any fun flag => token == flag || Text.startsWith token (flag ++ ['='])

def containsSensitiveFlag (value : List Char) : Bool :=
  (Text.splitWhitespace value).any isSensitiveFlag

def containsAuthScheme (value : List Char) : Bool :=
  Text.startsWith (Text.trimStart value) "bearer ".toList ||
    Text.contains value "authorization: bearer".toList ||
    Text.contains value "authorization: basic".toList ||
    Text.contains value "authorization=bearer".toList ||
    Text.contains value "authorization=basic".toList

def isSensitiveText (value : List Char) : Bool :=
  let lower := Text.asciiLower value
  Text.contains lower "dockermap_test_fake_".toList ||
    containsUrlUserinfo value ||
    containsSensitiveAssignment lower ||
    containsSensitiveFlag lower ||
    containsAuthScheme lower

def redactSensitiveText (value : String) : String :=
  if isSensitiveText value.toList then redactedValue else value

/-- The single gate for provider-controlled display strings. -/
def redactRuntimeDisplayText (value : String) : String :=
  normalizeRuntimeDisplayString (redactSensitiveText value)

example : redactRuntimeDisplayText "GET https://user:pw@host/path" = "[redacted]" := by decide
example : redactRuntimeDisplayText "plain\ntext" = "plain\uFFFDtext" := by decide

end DockerMap
