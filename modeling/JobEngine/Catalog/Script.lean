import JobEngine.Catalog.Load

/-!
# Catalog requests

The requests a catalog answers: store a document (`put`), look one up by hash (`get`),
compute a document's hash without storing it (`hash`), list the stored documents (`list`),
and load documents from a YAML text or a file (`load`, `load_file`).

## Main Definitions

* `CatalogRequest` — the requests.
* `Catalog.answer` — the answer to a request, the catalog after it, and the hashes stored.
-/

namespace JobEngine

/-- A request to a catalog. -/
inductive CatalogRequest where
  | put (doc : Value)
  | get (hash : String)
  | hash (doc : Value)
  | list
  | load (yaml : String)
  | loadFile (path : String)
  | unknown (name : String)

/-- What a catalog answer holds. -/
inductive CatalogAnswer where
  | stored (hash : String)
  | found (doc : Option Metadata)
  | hashed (hash : String)
  | listed (entries : List (String × Metadata))
  | loaded (hashes : List String)
  | failed (f : Fault)

namespace Catalog

/-- The content address of a request's document; a missing document is the JSON `null`. -/
def hashOf (doc : Value) : Except Fault String :=
  match doc with
  | .null => .ok (Hex.encode (Crypto.sha256 "null".toUTF8.toList))
  | v => (Metadata.ofValue v).hash

/-- Answers a request. Returns the answer, the catalog after it and the hashes it stored. -/
def answer (c : Catalog) : CatalogRequest → CatalogAnswer × Catalog × List String
  | .put doc =>
    match c.put (Metadata.ofValue doc) with
    | .ok (h, c') => (.stored h, c', [h])
    | .error f => (.failed f, c, [])
  | .get h => (.found (c.get? h), c, [])
  | .hash doc =>
    match hashOf doc with
    | .ok h => (.hashed h, c, [])
    | .error f => (.failed f, c, [])
  | .list => (.listed c.entries, c, [])
  | .load text =>
    match loadYaml text c with
    | (.ok hs, c') => (.loaded hs, c', hs)
    | (.error f, c') => (.failed f, c', [])
  | .loadFile path =>
    (.failed (.wrap "open catalog" (.plain ("open " ++ path ++ ": no such file or directory"))), c, [])
  | .unknown name => (.failed (.plain ("unknown catalog action " ++ Text.quote name)), c, [])

end Catalog

/-- How a session shows a catalog answer. -/
def CatalogAnswer.report : CatalogAnswer → Value
  | .stored h => .obj [("hash", .str h)]
  | .found m => .obj [("found", .bool m.isSome), ("meta", (m.map (·.toValue)).getD .null)]
  | .hashed h => .obj [("hash", .str h)]
  | .listed es => .obj [("entries", .arr (es.map fun (h, m) =>
      .obj [("hash", .str h), ("meta", m.toValue)]))]
  | .loaded hs => .obj [("hashes", .arr (hs.map .str))]
  | .failed f =>
    match f.firstApp? with
    | some e =>
      if e.sentinel == .validation then
        .obj [("error", .str f.kind), ("message", .str f.message), ("field", .str e.field)]
      else .obj [("error", .str f.kind), ("message", .str f.message)]
    | none => .obj [("error", .str f.kind), ("message", .str f.message)]

end JobEngine
