import JobEngine.Job.Record
import JobEngine.Value.Bind

/-!
# Records on the wire

A venue answers with job records as JSON objects. Reading one back binds it to the record's
shape: texts for the id, operation, status, error and name, 64-bit whole numbers for the
creation and update times, and any value for the input and output. Absent members read as
empty; a status is kept as written, known or not.

## Main Definitions

* `Record.shape` — the shape of a record.
* `Record.ofBound` — the record a bound value holds.
* `Record.read` — the record a reply body holds.
-/

namespace JobEngine

namespace Record

/-- The shape of a job record. -/
def shape : Shape :=
  .record "job.Record" "Record"
    [("id", .text "string"), ("op", .text "string"), ("status", .text "job.Status"),
     ("input", .any), ("output", .any), ("error", .text "string"),
     ("created", .whole), ("updated", .whole), ("name", .text "string")] false

/-- The record a value bound to `shape` holds. -/
def ofBound (v : Value) : Record :=
  let text (k : String) : String := match v.field? k with
    | some (.str s) => s
    | _ => ""
  let whole (k : String) : Int := match v.field? k with
    | some (.int n) => n
    | _ => 0
  { id := text "id", op := text "op", status := Status.ofText (text "status"),
    input := (v.field? "input").getD .null, output := (v.field? "output").getD .null,
    error := text "error", created := whole "created", updated := whole "updated",
    name := text "name" }

/-- The record a reply body holds: its first JSON document. -/
def read (body : String) : Except Fault Record := do
  let v ← shape.readStream body
  pure (ofBound v)

end Record

/-- The shape of an error reply: an object with an `error` message. -/
def errorReplyShape : Shape := .record "" "" [("error", .text "string")] false

/-- The error message of a reply body, empty when it has none or is no JSON object. -/
def errorReplyMessage (body : String) : String :=
  match errorReplyShape.readLenient body with
  | some v => match v.field? "error" with
    | some (.str s) => s
    | _ => ""
  | none => ""

end JobEngine
