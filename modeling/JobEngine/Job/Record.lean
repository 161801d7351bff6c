import JobEngine.Job.Status
import JobEngine.Value

/-!
# Job records

The status record of a job: what the job table stores and what travels over the wire.

## Main Definitions

* `Record` — identity, operation, status, input, output, error text and timestamps.
* `Record.normalize` — drops what the status does not allow.
* `Record.toValue` — the record as a JSON object, fields in their fixed order.

## Design Notes

Only a `COMPLETE` record carries an output and only a failure (`FAILED`, `REJECTED`) carries
an error message; `normalize` enforces both, and every record a job holds has passed through
it. Timestamps are Unix milliseconds.
-/

namespace JobEngine

/-- The status record of a job. -/
structure Record where
  id : String := ""
  op : String := ""
  status : Status := .unknown ""
  input : Value := .null
  output : Value := .null
  error : String := ""
  created : Int := 0
  updated : Int := 0
  name : String := ""
  deriving Inhabited

namespace Record

/-- The record without the fields its status does not allow: the output unless `COMPLETE`,
the error unless a failure. -/
def normalize (r : Record) : Record :=
  { r with
    output := if r.status = .complete then r.output else .null
    error := if r.status.isFailure then r.error else "" }

/-- Whether the record is in a terminal status. -/
def isFinished (r : Record) : Bool := r.status.isFinished

/-- The record as a JSON object: `id, op, status, input, output, error, created, updated,
name`, where `output` is left out when null and `error` and `name` when empty. -/
def toValue (r : Record) : Value :=
  .obj <|
    [("id", .str r.id), ("op", .str r.op), ("status", .str r.status.text), ("input", r.input)] ++
    (if r.output.isNull then [] else [("output", r.output)]) ++
    (if r.error.isEmpty then [] else [("error", .str r.error)]) ++
    [("created", .int r.created), ("updated", .int r.updated)] ++
    (if r.name.isEmpty then [] else [("name", .str r.name)])

end Record

end JobEngine
