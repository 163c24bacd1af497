import DockerMap.Daemon.Providers
import DockerMap.Lib.ByteSlice
import DockerMap.Lib.TextLines

/-! TCP listeners of the fixed kernel tables. A byte slice inside a character panics and ends
the pass, which then pushes nothing. -/

namespace DockerMap

open Text

def procTcpTables : List String := ["/proc/net/tcp", "/proc/net/tcp6"]

structure ListeningSocket where
  address : String
  port : ℕ
  inode : String
  deriving DecidableEq

/-- The digits of a number in base sixteen, of either case. -/
def isHexDigit (character : Char) : Bool :=
  character.isDigit || 'a' ≤ character && character ≤ 'f' || 'A' ≤ character && character ≤ 'F'

def parseHexDigits (bound : ℕ) (value : List Char) : Option ℕ :=
  let number := value.foldl (fun number digit => 16 * number + hexDigitValue digit.toLower) 0
  if value ≠ [] ∧ value.all isHexDigit ∧ number < bound then some number else none

/-- `from_str_radix(value, 16)` at an unsigned type. -/
def fromHex (bound : ℕ) : List Char → Option ℕ
  | '+' :: value => parseHexDigits bound value
  | value => parseHexDigits bound value

/-- The four byte pairs of an address; those that are no number are left out. -/
def addressBytes (rawAddress : List Char) : Option (List ℕ) :=
  ((List.range 4).mapM fun index => sliceBytes rawAddress (index * 2) (index * 2 + 2)).map
    (List.filterMap (fromHex (2 ^ 8)))

def dottedAddress : List ℕ → Option String
  | [first, second, third, fourth] =>
      some (".".intercalate ([fourth, third, second, first].map toString))
  | _ => none

def parseAddress (rawAddress : List Char) : Option (Option String) :=
  if byteLength rawAddress = 8 then (addressBytes rawAddress).map dottedAddress
  else some (some (String.ofList (asciiLower rawAddress)))

/-- The outer `none` is a panic. -/
def parseProcNetLocalAddress (value : List Char) : Option (Option (String × ℕ)) :=
  match splitOnce ':' value with
  | none => some none
  | some (rawAddress, rawPort) =>
      match fromHex (2 ^ 16) rawPort with
      | none => some none
      | some port =>
          (parseAddress rawAddress).map fun address => address.map fun text => (text, port)

/-- A socket in the LISTEN state. -/
def parseProcNetListenerLine (line : List Char) : Option (Option ListeningSocket) :=
  match splitWhitespace line with
  | _ :: localAddress :: _ :: state :: _ :: _ :: _ :: _ :: _ :: inode :: _ =>
      if state = "0A".toList then
        (parseProcNetLocalAddress localAddress).map fun parsed => parsed.map fun pair =>
          ⟨pair.1, pair.2, String.ofList inode⟩
      else some none
  | _ => some none

def readSockets (content : List Char) : Option (List ListeningSocket) :=
  (((lines content).drop 1).mapM parseProcNetListenerLine).map (List.filterMap id)

def listeningSocketId (socket : ListeningSocket) : String :=
  "network_listener_" ++ collisionResistantIdComponent socket.address ++ "_" ++
    toString socket.port

def listeningSocketNode (socket : ListeningSocket) : RuntimeMapNode where
  id := listeningSocketId socket
  provider := .network
  kind := .networkListener
  label := socket.address ++ ":" ++ toString socket.port
  status := some "listening"
  layer := some .host
  metadata := (((∅ : Metadata).insert "address" socket.address).insert "port"
    (toString socket.port)).insert "socketInode" socket.inode
  service := none
  package := none

structure ListenerPass where
  nodes : List RuntimeMapNode := []
  diagnostics : List RuntimeMapDiagnostic := []

def collectListenerTable (readTable : String → Option (List Char)) (path : String) :
    Option ListenerPass :=
  match readTable path with
  | none => some { diagnostics := [providerDiagnostic .network .info
      ("network listener discovery skipped for " ++ path)] }
  | some content =>
      (readSockets content).map fun sockets => { nodes := sockets.map listeningSocketNode }

def collectNetworkListeners (readTable : String → Option (List Char)) : Option ListenerPass :=
  (procTcpTables.mapM (collectListenerTable readTable)).map fun passes =>
    { nodes := passes.flatMap ListenerPass.nodes
      diagnostics := passes.flatMap ListenerPass.diagnostics }

end DockerMap
