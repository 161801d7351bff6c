import JobEngine.Operation.Metadata
import JobEngine.Value.Write
import JobEngine.Crypto.Sha256
import JobEngine.Codec.Hex
import JobEngine.Fault

/-!
# The operation catalog

A content-addressed store of operation metadata. Each document is keyed by the SHA-256 of
its canonical JSON text: keys in order, numbers in shortest form, and `<`, `>`, `&`
escaped. Storing the same document twice stores it once.

## Main Definitions

* `Metadata.hash` — the content address of a document.
* `Metadata.normalize` — a document as JSON reads it back: every number a binary64.
* `Catalog` — the stored documents, with `put`, `get` and `entries`.

## Design Notes

A document holding a number that is not finite has no JSON text and cannot be stored. A
stored document must name an adapter operation (`operation.adapter`). Lookups ignore the
case of the hash.
-/

namespace JobEngine

/-- The first number of a value, in key order, that is not finite. -/
def Value.nonFinite? : Value → Option Float
  | .num x => if x.isNaN || x.isInf then some x else none
  | .arr xs => xs.attach.findSome? fun ⟨x, _⟩ => x.nonFinite?
  | .obj kvs => kvs.attach.findSome? fun ⟨(_, v), _⟩ => v.nonFinite?
  | _ => none
decreasing_by
  all_goals simp_wf
  · have := List.sizeOf_lt_of_mem ‹_ ∈ xs›; omega
  · have := List.sizeOf_lt_of_mem ‹_ ∈ kvs›; simp at this; omega

/-- The value after a JSON round trip: integers become binary64. -/
def Value.normalize : Value → Value
  | .int n => .num (Float.ofInt n)
  | .arr xs => .arr (xs.attach.map fun ⟨x, _⟩ => x.normalize)
  | .obj kvs => .obj (kvs.attach.map fun ⟨(k, v), _⟩ => (k, v.normalize))
  | v => v
decreasing_by
  all_goals simp_wf
  · have := List.sizeOf_lt_of_mem ‹_ ∈ xs›; omega
  · have := List.sizeOf_lt_of_mem ‹_ ∈ kvs›; simp at this; omega

namespace Metadata

/-- The message of a document with a number that has no JSON text. -/
def unsupported (x : Float) : String :=
  "json: unsupported value: " ++ Decimal.Layout.general.render x

/-- The canonical JSON text of a document. -/
def canonical (m : Metadata) : Except String String :=
  match m.toValue.nonFinite? with
  | some x => .error (unsupported x)
  | none => .ok (m.toValue.render true)

/-- The content address of a document: the hexadecimal SHA-256 of its canonical text. -/
def hash (m : Metadata) : Except Fault String :=
  match m.canonical with
  | .ok text => .ok (Hex.encode (Crypto.sha256 text.toUTF8.toList))
  | .error e => .error (.wrap "encode metadata" (.plain e))

/-- The document as JSON reads it back. -/
def normalize (m : Metadata) : Except String Metadata :=
  match m.toValue.nonFinite? with
  | some x => .error (unsupported x)
  | none => .ok (Metadata.ofValue m.toValue.normalize)

end Metadata

/-- The stored documents, by hash in ascending order. -/
structure Catalog where
  entries : List (String × Metadata) := []

namespace Catalog

/-- Inserts or replaces an entry, keeping the hashes in order. -/
def insertEntry (h : String) (m : Metadata) : List (String × Metadata) → List (String × Metadata)
  | [] => [(h, m)]
  | (k, v) :: rest =>
    if h < k then (h, m) :: (k, v) :: rest
    else if h == k then (h, m) :: rest
    else (k, v) :: insertEntry h m rest

/-- Stores a document and returns its hash. The document is normalized first and must name
an adapter operation. -/
def put (m : Metadata) (c : Catalog) : Except Fault (String × Catalog) := do
  let normalized ← match m.normalize with
    | .ok n => pure n
    | .error e => .error (.validation "metadata" ("metadata is not JSON-compatible: " ++ e))
  if normalized.adapterOp.isEmpty then
    .error (.validation "operation.adapter" "metadata must name an adapter operation")
  let h ← normalized.hash
  return (h, { entries := insertEntry h normalized c.entries })

/-- The document stored under a hash, in either case. -/
def get? (hash : String) (c : Catalog) : Option Metadata :=
  c.entries.lookup (String.map Char.toLower hash)

end Catalog

end JobEngine
