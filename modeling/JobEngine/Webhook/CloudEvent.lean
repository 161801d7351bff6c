import JobEngine.Value.Write
import JobEngine.Clock.Civil
import JobEngine.Crypto.Sha256
import JobEngine.Codec.Hex

/-!
# CloudEvents

Webhook notifications are CloudEvents 1.0 envelopes in structured mode: one JSON object with
the event attributes and its data. A delivery may be signed with an HMAC-SHA256 of its body.

## Main Definitions

* `CloudEvent` — the envelope.
* `CloudEvent.toValue` — its JSON object, attributes in their fixed order.
* `CloudEvent.body` — the exact bytes sent, with HTML-sensitive characters escaped.
* `sign`, `verify` — the `sha256=<hex>` signature of a body under a key.
-/

namespace JobEngine

/-- A CloudEvents 1.0 envelope; `time` is in nanoseconds since the Unix epoch and `data`
is a map or null. -/
structure CloudEvent where
  type : String
  source : String
  subject : String
  id : String
  time : Int
  data : Value

namespace CloudEvent

/-- The event as a JSON object: `specversion, type, source, subject, id, time,
datacontenttype, data`. -/
def toValue (e : CloudEvent) : Value :=
  .obj [("specversion", .str "1.0"), ("type", .str e.type), ("source", .str e.source),
    ("subject", .str e.subject), ("id", .str e.id), ("time", .str (Clock.rfc3339 e.time)),
    ("datacontenttype", .str "application/json"), ("data", e.data)]

/-- The body of a delivery: the event's JSON text with `<`, `>` and `&` escaped. -/
def body (e : CloudEvent) : String := e.toValue.render true

end CloudEvent

/-- The signature of a body under a key: `sha256=` and the hexadecimal HMAC-SHA256. -/
def sign (body : List UInt8) (key : String) : String :=
  "sha256=" ++ Hex.encode (Crypto.hmacSha256 key.toUTF8.toList body)

/-- Whether a signature is the one of the body under the key. The `sha256=` mark is
case-sensitive; the hexadecimal digits may be in either case. -/
def verify (body : List UInt8) (signature key : String) : Bool :=
  if !signature.startsWith "sha256=" then false
  else match Hex.decode (signature.drop 7).toString with
    | .ok want => want == Crypto.hmacSha256 key.toUTF8.toList body
    | .error _ => false

/-- Whether a webhook answer status is a client error (4xx), which retrying cannot fix. -/
def isClientErrorStatus (code : Int) : Bool := 400 ≤ code && code < 500

end JobEngine
