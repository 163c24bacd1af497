import DockerMap.Core.SnapshotRuntime
import DockerMap.Daemon.Providers
import DockerMap.Lib.TextLines
import Mathlib.Data.List.SplitOn

/-! Discovery of tmux sessions. Nothing of the listing is published but that a session is there:
its id leaves a digest, under a key that the process draws. -/

namespace DockerMap

def tmuxSessionListingMarker : String := "__dockermapTmuxSessionListing"

def maxTmuxSessions : ℕ := 64

/-- A digest under the key of the process. -/
def opaqueRuntimeIdComponent (key : List UInt8) (value : List Char) (fallback : String) : String :=
  fallback ++ "--" ++ String.ofList ((Sha256.digest (key ++
    value.flatMap String.utf8EncodeChar)).words.flatMap fun word => Text.hexPadded 8 word.toNat)

def tmuxSessionNode (key : List UInt8) (sessionId : List Char) : RuntimeMapNode where
  id := "tmux_session_" ++ opaqueRuntimeIdComponent key sessionId "session"
  provider := .tmux
  kind := .tmuxSession
  label := "tmux session"
  status := none
  layer := some .session
  metadata := (∅ : Metadata).insert "serviceEntityKind" (serviceEntityKindName .session)
  service := none
  package := none

/-- The session a line lists; a record has four fields, the others are never kept. -/
def tmuxSessionOfLine (line : List Char) : Option (List Char) :=
  match line.splitOn '\t' with
  | sessionId :: _ :: _ :: _ :: _ => some sessionId
  | _ => none

def tmuxSessionNodesFromOutput (key : List UInt8) (value : List Char) : List RuntimeMapNode :=
  (((Text.lines value).filterMap tmuxSessionOfLine).map (tmuxSessionNode key)).take maxTmuxSessions

def tmuxSessionListingEdges (sessions : List RuntimeMapNode) : List RuntimeMapEdge :=
  (sessions.filter fun session => session.provider == .tmux && session.kind == .tmuxSession &&
    Text.startsWith session.id.toList "tmux_session_".toList).map fun session =>
      { source := session.id
        target := "host_local"
        relationship := .runsOn
        metadata := (∅ : Metadata).insert tmuxSessionListingMarker "observed"
        evidenceRefs := [] }

/-- What `tmux list-sessions` left; `stderr` is absent where it is no UTF-8. -/
structure TmuxOutput where
  exitCode : Option ℤ
  stdout : List Char
  stderr : Option (List Char)
  stderrTruncated : Bool

/-- The one diagnostic that stands for no sessions. -/
def isTmuxNoServerDiagnostic (stderr : Option (List Char)) (truncated : Bool) : Bool :=
  !truncated && stderr.any fun stderr =>
    let diagnostic := if stderr.getLast? = some '\n' then stderr.dropLast else stderr
    let word := "no server running on ".toList
    Text.startsWith diagnostic word && diagnostic.drop word.length ≠ [] &&
      (diagnostic.drop word.length).all fun c => c ≠ '\n' && c ≠ '\r'

structure TmuxPass where
  nodes : List RuntimeMapNode := []
  edges : List RuntimeMapEdge := []
  diagnostics : List RuntimeMapDiagnostic := []
  error : Option ProviderCommandError := none

def collectTmuxSessions (key : List UInt8) (output : Except ProviderCommandError TmuxOutput) :
    TmuxPass :=
  match output with
  | .error error =>
      { diagnostics := [providerDiagnostic .tmux .info ("tmux discovery skipped: " ++ error.text)]
        error := some error }
  | .ok output =>
      if output.exitCode = some 1 ∧
          isTmuxNoServerDiagnostic output.stderr output.stderrTruncated then {}
      else if output.exitCode ≠ some 0 then
        { diagnostics := [providerDiagnostic .tmux .warning "tmux discovery command failed"]
          error := some .wait }
      else
        let sessions := tmuxSessionNodesFromOutput key output.stdout
        { nodes := sessions, edges := tmuxSessionListingEdges sessions }

end DockerMap
