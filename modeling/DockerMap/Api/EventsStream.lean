import DockerMap.Api.Publication
import DockerMap.Core.Models

/-! The live event stream of the Node API: a timer polls the daemon's health, and one poll at
a time is in flight. -/

namespace DockerMap.Api

structure ApiError where
  code : String
  message : String
  details : Option String := none
  deriving DecidableEq

/-- What a poll of `/daemon/health` comes to; an error other than an `HttpError` has no body. -/
inductive PollResult
  | health (payload : HealthResponse)
  | failed (body : Option ApiError)
  deriving DecidableEq

inductive StreamEvent
  | snapshot (payload : HealthResponse)
  | error (payload : ApiError)
  deriving DecidableEq

structure EventsStream where
  busy : Bool := false
  lastEmittedRevision : Option String := none
  /-- The response has ended, or its socket is destroyed. -/
  ended : Bool := false
  validSession : Bool := true
  deriving DecidableEq

/-- `emit` up to its await; whether a poll was sent. -/
def beginEmit (stream : EventsStream) : EventsStream × Bool :=
  if stream.busy || stream.ended then (stream, false)
  else if !stream.validSession then ({ stream with ended := true }, false)
  else ({ stream with busy := true }, true)

section

variable (toLowerCase : String → String)

/-- `publishApiPayload` at a health payload: its string fields go through the boundary. -/
def publishHealth (health : HealthResponse) : HealthResponse :=
  { health with
    snapshotVersion := publishDisplayText toLowerCase health.snapshotVersion
    modelRevision := publishDisplayText toLowerCase health.modelRevision
    message := health.message.map (publishDisplayText toLowerCase) }

def publishError (error : ApiError) : ApiError where
  code := publishDisplayText toLowerCase error.code
  message := publishDisplayText toLowerCase error.message
  details := error.details.map (publishDisplayText toLowerCase)

def streamError : ApiError where
  code := "stream_error"
  message := "Live stream failed"

/-- `emit` after its await. -/
def finishEmit (stream : EventsStream) (result : PollResult) : EventsStream × List StreamEvent :=
  let settled := { stream with busy := false }
  if stream.ended || !stream.validSession then ({ settled with ended := true }, [])
  else
    match result with
    | .health health =>
        if health.modelRevision = "" ∨ some health.modelRevision = stream.lastEmittedRevision then
          (settled, [])
        else
          ({ settled with lastEmittedRevision := some health.modelRevision },
            [.snapshot (publishHealth toLowerCase health)])
    | .failed body => (settled, [.error (publishError toLowerCase (body.getD streamError))])

end

end DockerMap.Api
