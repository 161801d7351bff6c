import JobEngine.Job.Record
import JobEngine.Webhook.CloudEvent

/-!
# Job lifecycle events

Each accepted change of a job can be announced as a CloudEvent: `venue.job.finish` for the
terminal transition and `venue.job.update` for every other one. The events of one job are
numbered from one.

## Main Definitions

* `updateEventType`, `finishEventType` — the two event types.
* `eventWanted` — whether a subscriber's filter lets an event type through.
* `EventNumbering` — numbering the events of one job.
* `EventNumbering.build` — the event for a record.
* `Callback` — where a job's lifecycle events go.
-/

namespace JobEngine

/-- The type of events for non-terminal changes. -/
def updateEventType : String := "venue.job.update"

/-- The type of events for the terminal transition. -/
def finishEventType : String := "venue.job.finish"

/-- The source of events emitted by the engine. -/
def engineEventSource : String := "venue/engine"

/-- The event type matching a record's status. -/
def Record.eventType (r : Record) : String :=
  if r.isFinished then finishEventType else updateEventType

/-- An empty filter lets every event through; otherwise the type must be listed. -/
def eventWanted (type : String) (filter : List String) : Bool :=
  filter.isEmpty || filter.contains type

/-- The event numbering of one job: its id, the event source and the last number used. -/
structure EventNumbering where
  jobId : String
  source : String
  seq : Nat := 0

namespace EventNumbering

/-- The event data of a record: `jobId, op, status, updated`, then `name` if set, `output` if
complete (null included), `error` if set. -/
def data (r : Record) : Value :=
  Value.map <|
    [("jobId", .str r.id), ("op", .str r.op), ("status", .str r.status.text),
     ("updated", .int r.updated)] ++
    (if r.name.isEmpty then [] else [("name", .str r.name)]) ++
    (if r.status = .complete then [("output", r.output)] else []) ++
    (if r.error.isEmpty then [] else [("error", .str r.error)])

/-- The next event for a record, with the given type. Its id is the job id, the event number
and the status; its time is the record's update time when positive, else `now` (ns). -/
def build (type : String) (r : Record) (now : Int) (b : EventNumbering) : CloudEvent × EventNumbering :=
  let seq := b.seq + 1
  let event : CloudEvent :=
    { type, source := b.source, subject := b.jobId,
      id := b.jobId ++ "-" ++ toString seq ++ "-" ++ r.status.text,
      time := if r.updated > 0 then r.updated * 1000000 else now,
      data := data r }
  (event, { b with seq })

/-- The next event for a record, typed by its status. -/
def forRecord (r : Record) (now : Int) (b : EventNumbering) : CloudEvent × EventNumbering :=
  b.build r.eventType r now

end EventNumbering

/-- A callback: the URL events are sent to, the key that signs them, and the event types
wanted (all when empty). -/
structure Callback where
  url : String
  key : String := ""
  events : List String := []

end JobEngine
