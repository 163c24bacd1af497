import DockerMap.Core.Logs
import DockerMap.Daemon.DisplayText

/-! Live Docker logs: the collected window, the ids of its entries and the published
page. A line carries its position in the container's log, which the collector never
reads; it only says which physical line an entry came from. -/

namespace DockerMap

def maxLogCursorTail : ℕ := 4096

def logTailCount : ℕ := maxLogCursorTail

def maxLogMessageChars : ℕ := 4096

def maxLogStreamCap : ℕ := maxLogCursorTail + 1

def i32Max : ℕ := 2147483647

structure LogLine where
  position : ℕ
  text : String

structure CollectedLine where
  position : ℕ
  entry : LogEntry
  deriving DecidableEq

def parseTimestampedLogLine (line : String) : Option (U64 × String) := do
  let (pre, rest) ← Text.splitOnce ' ' line.toList
  let timestamp ← parseRfc3339NanoMillis (String.ofList pre)
  let message := truncateChars (String.ofList (Text.trim rest)) maxLogMessageChars
  if message = "" then none
  some (timestamp, message)

def logUntilSeconds (cursorMillis : U64) : ℕ := min (cursorMillis.val / 1000 + 1) i32Max

def logEntryId (service : String) (timestamp : U64) (ordinal : ℕ) : String :=
  service ++ "-" ++ toString timestamp.val ++ "-" ++ String.ofList (Text.hexPadded 4 ordinal)

def logLevel (message : String) : LogLevel :=
  if Text.contains (toAsciiLowercase message) "error".toList then .error
  else if Text.contains (toAsciiLowercase message) "warn".toList then .warn
  else .info

/-- First position of the window `tail` opens on a log. -/
def windowStart (log : List String) : ℕ := log.length - logTailCount

/-- The exclusive whole-second filter of `until`; a line without a timestamp passes. -/
def beforeUntil (untilSeconds : Option ℕ) (line : LogLine) : Bool :=
  match untilSeconds, parseTimestampedLogLine line.text with
  | some bound, some (timestamp, _) => timestamp.val / 1000 < bound
  | _, _ => true

def logLines (log : List String) : List LogLine := log.zipIdx.map fun line => ⟨line.2, line.1⟩

/-- Docker's answer: `tail` selects the last lines of the full log, `until` filters them. -/
def dockerLogs (untilSeconds : Option ℕ) (log : List String) : List LogLine :=
  ((logLines log).drop (windowStart log)).filter (beforeUntil untilSeconds)

def collectedEntry (service : String) (timestamp : U64) (message : String) (ordinal : ℕ) :
    LogEntry where
  id := logEntryId service timestamp ordinal
  timestamp := timestamp
  container := service
  level := logLevel message
  message := message

/-- The collecting loop; `seen` is `same_timestamp_seen`, `collected` the length of `entries`. -/
def collectEntries (service : String) : (U64 → ℕ) → ℕ → List LogLine → List CollectedLine
  | _, _, [] => []
  | seen, collected, line :: lines =>
      match parseTimestampedLogLine line.text with
      | none => collectEntries service seen collected lines
      | some (timestamp, message) =>
          let entry := collectedEntry service timestamp message (seen timestamp)
          if maxLogStreamCap ≤ collected + 1 then [⟨line.position, entry⟩]
          else ⟨line.position, entry⟩ :: collectEntries service
            (Function.update seen timestamp (seen timestamp + 1)) (collected + 1) lines

def collectedLines (service : String) (cursor : Option LogCursor) (log : List String) :
    List CollectedLine :=
  collectEntries service (fun _ => 0) 0
    (dockerLogs (cursor.map fun cursor => logUntilSeconds cursor.millis) log)

def publishLogEntry (entry : LogEntry) : LogEntry :=
  { entry with
    id := redactRuntimeDisplayText entry.id
    container := redactRuntimeDisplayText entry.container
    message := redactRuntimeDisplayText entry.message }

@[simp] theorem publishLogEntry_timestamp (entry : LogEntry) :
    (publishLogEntry entry).timestamp = entry.timestamp := by rw [publishLogEntry]

def publishLogResponse (service : Option String) (entries : List LogEntry)
    (query : Option String) (cursor : Option LogCursor) (limit : ℕ) : LogsResponse :=
  let (entries, nextCursor) := pageLogEntries (entries.map publishLogEntry) query cursor limit
  { service := service.map redactRuntimeDisplayText
    entries := entries
    nextCursor := nextCursor }

def collectLogs (service : String) (query : Option String) (cursor : Option LogCursor)
    (limit : ℕ) (log : List String) : LogsResponse :=
  let limit := clampLimit limit
  publishLogResponse (some service) ((collectedLines service cursor log).map CollectedLine.entry)
    query cursor limit

/-- The collected lines behind the entries of a response. -/
def collectedPage (service : String) (query : Option String) (cursor : Option LogCursor)
    (limit : ℕ) (log : List String) : List CollectedLine × Option String :=
  pageEntries (fun line => line.entry.timestamp) (fun line => (publishLogEntry line.entry).message)
    (collectedLines service cursor log) query cursor limit

theorem collectLogs_eq (service : String) (query : Option String) (cursor : Option LogCursor)
    (limit : ℕ) (log : List String) :
    (collectLogs service query cursor limit log).entries =
        (collectedPage service query cursor limit log).1.map
          (fun line => publishLogEntry line.entry) ∧
      (collectLogs service query cursor limit log).nextCursor =
        (collectedPage service query cursor limit log).2 := by
  have hmap : ((collectedLines service cursor log).map CollectedLine.entry).map publishLogEntry =
      (collectedLines service cursor log).map fun line => publishLogEntry line.entry := by
    rw [List.map_map]
    rfl
  simp only [collectLogs, publishLogResponse, pageLogEntries, pageEntries_clampLimit, hmap,
    pageEntries_map, collectedPage, Function.comp_def, publishLogEntry_timestamp, and_self]

end DockerMap
