import DockerMap.Api.EventsStream

/-! The live branch of the browser's heartbeat: the listeners of one event source. -/

namespace DockerMap.Web

open Api (StreamEvent)

structure DaemonHeartbeat where
  tick : ℕ := 0
  health : Option HealthResponse := none
  lastStreamRevision : Option String := none
  deriving DecidableEq

/-- The dot of the connection turns offline. -/
def interrupted (current : HealthResponse) : HealthResponse :=
  { current with
    status := .degraded
    message := some "Live stream interrupted"
    dockerReachable := false }

def onSnapshot (heartbeat : DaemonHeartbeat) (message : HealthResponse) : DaemonHeartbeat :=
  let heartbeat := { heartbeat with health := some message }
  if message.modelRevision ≠ "" ∧ some message.modelRevision ≠ heartbeat.lastStreamRevision then
    { heartbeat with
      lastStreamRevision := some message.modelRevision
      tick := heartbeat.tick + 1 }
  else heartbeat

/-- The payload of the event is not read. -/
def onError (heartbeat : DaemonHeartbeat) : DaemonHeartbeat :=
  { heartbeat with health := heartbeat.health.map interrupted }

def onEvent (heartbeat : DaemonHeartbeat) : StreamEvent → DaemonHeartbeat
  | .snapshot payload => onSnapshot heartbeat payload
  | .error _ => onError heartbeat

end DockerMap.Web
