import JobEngine.Value.Write

/-!
# HTTP messages

Requests and responses as a venue's API sees them. Header names are case-insensitive: every
name is kept in its **canonical form**, the first letter and each letter after a hyphen in
upper case and the others in lower case (`content-type` is `Content-Type`). A name holding
a byte that no header name may hold is kept as written.

A response is built by handlers that each see the headers set so far; a handler that fails
early writes a plain-text error, one that succeeds a JSON document followed by a line break.

## Main Definitions

* `Headers` — header fields in the order they were first set, each with its values.
* `Request`, `Response` — the messages.
* `Response.plainError` — a plain-text error answer.
* `Response.json` — a JSON answer.
-/

namespace JobEngine.Http

/-- Whether a character may stand in a header name: ASCII letters and digits, the
apostrophe, the grave accent and the marks `!#$%&*+-.^_|~`. -/
def isNameChar (c : Char) : Bool :=
  c.isAlphanum || "!#$%&*+-.^_|~".contains c || c.toNat == 39 || c.toNat == 96

/-- The canonical form of a header name; a name with a character that no header name holds,
or an empty one, is kept as written. -/
def canonicalName (name : String) : String :=
  if name.isEmpty || !name.all isNameChar then name
  else
    let step (acc : List Char × Bool) (c : Char) : List Char × Bool :=
      let c' := if acc.2 then c.toUpper else c.toLower
      (c' :: acc.1, c' == '-')
    String.ofList (name.foldl step ([], true)).1.reverse

/-- Header fields in the order they were first set; each name is canonical and holds at
least one value. -/
structure Headers where
  fields : List (String × List String) := []

namespace Headers

/-- All values of a header, if it is set. -/
def values? (h : Headers) (name : String) : Option (List String) :=
  (h.fields.find? (·.1 == canonicalName name)).map (·.2)

/-- The first value of a header, empty when it is not set. -/
def get (h : Headers) (name : String) : String :=
  match h.values? name with
  | some (v :: _) => v
  | _ => ""

/-- Whether a header is set. -/
def has (h : Headers) (name : String) : Bool := (h.values? name).isSome

/-- Replaces the values of a header; a new header goes last. -/
def setAll (h : Headers) (name : String) (vs : List String) : Headers :=
  let key := canonicalName name
  if h.fields.any (·.1 == key) then
    { fields := h.fields.map fun (k, old) => if k == key then (k, vs) else (k, old) }
  else { fields := h.fields ++ [(key, vs)] }

/-- Sets a header to one value. -/
def set (h : Headers) (name value : String) : Headers := h.setAll name [value]

/-- Adds a value to a header. -/
def add (h : Headers) (name value : String) : Headers :=
  match h.values? name with
  | some vs => h.setAll name (vs ++ [value])
  | none => h.setAll name [value]

/-- Removes a header. -/
def erase (h : Headers) (name : String) : Headers :=
  { fields := h.fields.filter (·.1 != canonicalName name) }

/-- The headers as an object, each header's values joined by a comma and a space. -/
def toValue (h : Headers) : Value :=
  Value.map (h.fields.map fun (k, vs) => (k, .str (", ".intercalate vs)))

end Headers

/-- A request as the API receives it. -/
structure Request where
  method : String
  /-- The path, with its escapes decoded. -/
  path : String
  /-- The path as written, with its escapes. -/
  rawPath : String
  /-- The query, as written after `?`. -/
  query : String := ""
  headers : Headers := {}
  body : String := ""

/-- A response: its status, headers and body. -/
structure Response where
  status : Nat
  headers : Headers := {}
  body : String := ""

namespace Response

/-- A plain-text error answer: the message and a line break, marked as plain text that must
not be sniffed. -/
def plainError (h : Headers) (status : Nat) (message : String) : Response :=
  let h := ((h.erase "Content-Length").set "Content-Type" "text/plain; charset=utf-8").set
    "X-Content-Type-Options" "nosniff"
  { status, headers := h, body := message ++ "\n" }

/-- A JSON answer: the compact document, with `<`, `>` and `&` escaped, and a line break. -/
def json (h : Headers) (status : Nat) (v : Value) : Response :=
  { status, headers := h.set "Content-Type" "application/json", body := v.render true ++ "\n" }

/-- A JSON answer carrying an error message. -/
def jsonError (h : Headers) (status : Nat) (message : String) : Response :=
  json h status (.obj [("error", .str message)])

/-- How a session shows a response. -/
def toValue (r : Response) : Value :=
  .obj [("status", .int r.status), ("headers", r.headers.toValue), ("body", .str r.body)]

end Response

end JobEngine.Http
