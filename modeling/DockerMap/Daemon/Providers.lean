import DockerMap.Core.Identity
import DockerMap.Daemon.DisplayText

/-! What the host providers share: command results, diagnostics, bounded text and safe
identifiers. -/

namespace DockerMap

inductive ProviderCommandError
  | spawn
  | wait
  | reader
  /-- The budget that ran out, in seconds. -/
  | timedOut (timeout : ℕ)
  deriving DecidableEq

def ProviderCommandError.text : ProviderCommandError → String
  | .spawn => "provider command unavailable"
  | .wait => "provider command wait failed"
  | .reader => "provider command output reader failed"
  | .timedOut timeout => "provider command timed out after " ++ toString timeout ++ "s"

/-- How a command ended, and its output read as text. -/
structure ProviderCommandOutput where
  success : Bool
  stdout : List Char

def providerDiagnostic (provider : RuntimeProviderKind) (severity : DiagnosticSeverity)
    (message : String) : RuntimeMapDiagnostic where
  provider := provider
  severity := severity
  message := redactRuntimeDisplayText message

def looksLikeAiAgent (value : List Char) : Bool :=
  ["openai", "anthropic", "langchain", "llamaindex", "autogen", "crewai", "agent",
    "@modelcontextprotocol/sdk"].any fun needle => Text.contains value needle.toList

def nonEmptyString (value : List Char) : Option String :=
  if Text.trim value = [] then none else some (String.ofList (Text.trim value))

/-- A secret leaves its digest only. -/
def safeRuntimeIdComponent (value fallback : String) : String :=
  if redactSensitiveText value = redactedValue then
    -- the digest holds no dash: it is what follows the last `--` of the whole component
    fallback ++ "--" ++ Sha256.hex value
  else collisionResistantIdComponent value

end DockerMap
