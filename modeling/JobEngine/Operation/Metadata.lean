import JobEngine.Value

/-!
# Operation metadata and references

An operation is named either literally, as `adapter:operation`, or by the hash of stored
metadata. Metadata is a free-form map; the engine reads only its `name` and its
`operation` section, whose `adapter` entry names the adapter operation to run.

## Main Definitions

* `Metadata` — the map describing an operation.
* `Metadata.name`, `Metadata.operation`, `Metadata.adapterOp` — the parts the engine reads.
* `Metadata.literal` — the metadata a literal reference stands for.
* `cut` — a text cut at the first occurrence of a character.
* `isLiteralRef`, `splitRef` — reading references.
-/

namespace JobEngine

/-- The description of an operation: a map from names to values. -/
structure Metadata where
  entries : List (String × Value)
  deriving Inhabited

namespace Metadata

/-- Metadata read from a value; anything but a map describes nothing. -/
def ofValue (v : Value) : Metadata := ⟨(v.asObject?).getD []⟩

/-- Metadata as a map value. -/
def toValue (m : Metadata) : Value := .obj m.entries

/-- The entry of a name. -/
def get? (m : Metadata) (k : String) : Option Value := m.entries.lookup k

/-- The human label, empty unless `name` is a string. -/
def name (m : Metadata) : String :=
  match m.get? "name" with
  | some (.str s) => s
  | _ => ""

/-- The `operation` section, when it is a map. -/
def operation (m : Metadata) : Option (List (String × Value)) :=
  match m.get? "operation" with
  | some (.obj kvs) => some kvs
  | _ => none

/-- The adapter-qualified operation `operation.adapter`, empty unless it is a string. -/
def adapterOp (m : Metadata) : String :=
  match (m.operation.getD []).lookup "adapter" with
  | some (.str s) => s
  | _ => ""

/-- The metadata of a literal reference: an `operation` section naming it as adapter. -/
def literal (ref : String) : Metadata := ⟨[("operation", .obj [("adapter", .str ref)])]⟩

end Metadata

/-- Cuts a text at the first occurrence of `sep`: the text before it, the text after it, and
whether it occurs; without one, the whole text and nothing after it. -/
def cut (s : String) (sep : Char) : String × String × Bool :=
  match s.toList.span (· != sep) with
  | (before, _ :: after) => (String.ofList before, String.ofList after, true)
  | (_, []) => (s, "", false)

/-- Whether a reference names an operation directly: it holds a colon. -/
def isLiteralRef (ref : String) : Bool := ref.contains ':'

/-- Splits a reference at its first colon into adapter and operation; without a colon the
whole reference is the adapter. -/
def splitRef (ref : String) : String × String :=
  let (adapter, operation, _) := cut ref ':'
  (adapter, operation)

end JobEngine
