import JobEngine.Catalog.Store
import JobEngine.Yaml.Decode

/-!
# Loading a catalog from YAML

A catalog file is a YAML document with one field, `operations`: a list of operation
metadata documents. Loading stores each document in turn and returns their hashes in file
order.

* A text without a document stores nothing.
* A text that is not YAML, or whose document does not have the catalog layout, stores
  nothing: the error says where the text went wrong, or lists every entry of the wrong
  shape with its line.
* A document that cannot be stored stops the loading; the documents before it stay
  stored. A document is stored as JSON reads it back, so one that JSON cannot write (a
  number that is not finite, a timestamp outside what JSON writes) cannot be stored; an
  empty entry is an empty document.

## Main Definitions

* `Catalog.fileLayout` — the layout of a catalog file.
* `Catalog.readOperations` — the operation documents of a catalog text.
* `Catalog.putDatum` — stores one operation document.
* `Catalog.loadYaml` — loads a catalog text into a catalog.
-/

namespace JobEngine

namespace Catalog

open Yaml

/-- The layout of a catalog file: a record whose `operations` field is a list of maps. -/
def fileLayout : Target := .record "catalog.file" [("operations", .mapList)]

/-- The operation documents of a catalog text, in file order. -/
def readOperations (text : String) : Except Fault (List Datum) :=
  match Document.read text with
  | .error p => .error (.wrap "decode catalog" (.plain p.message))
  | .ok none => .ok []
  | .ok (some doc) =>
    let fuel := 4 * (text.length + 2) * (text.length + 2)
    match Binding.bindDocument doc fileLayout fuel with
    | .error e => .error (.wrap "decode catalog" (.plain ("yaml: " ++ e)))
    | .ok (_, errs@(_ :: _)) =>
      .error (.wrap "decode catalog"
        (.plain ("yaml: unmarshal errors:\n  " ++ "\n  ".intercalate errs)))
    | .ok (some (.strMap fields), []) =>
      match fields.lookup "operations" with
      | some (.seq docs) => .ok docs
      | _ => .ok []
    | .ok (some _, []) => .ok []
    | .ok (none, []) => .ok []

/-- Stores one operation document as JSON reads it back; an empty entry is an empty
document. -/
def putDatum (d : Datum) (c : Catalog) : Except Fault (String × Catalog) :=
  let d := match d with
    | .null => Datum.strMap []
    | d => d
  match d.toJson with
  | .error e => .error (.validation "metadata" ("metadata is not JSON-compatible: " ++ e))
  | .ok v => c.put (Metadata.ofValue v)

/-- Stores documents in turn, the `i`-th first; the first that cannot be stored stops the
rest. Returns the hashes stored, or the error, and the catalog with what was stored. -/
def putAll (i : Nat) (c : Catalog) : List Datum → Except Fault (List String) × Catalog
  | [] => (.ok [], c)
  | doc :: rest =>
    match putDatum doc c with
    | .error f => (.error (.wrap ("catalog operation " ++ toString i) f), c)
    | .ok (h, c') =>
      match putAll (i + 1) c' rest with
      | (.ok hs, c'') => (.ok (h :: hs), c'')
      | (.error f, c'') => (.error f, c'')

/-- Loads a catalog text: the hashes of its documents in file order, or the error that
stopped it, and the catalog with the documents stored before it. -/
def loadYaml (text : String) (c : Catalog) : Except Fault (List String) × Catalog :=
  match readOperations text with
  | .error f => (.error f, c)
  | .ok docs => putAll 0 c docs

end Catalog

end JobEngine
