import JobEngine.Yaml.Node
import JobEngine.Yaml.Datum
import JobEngine.Text.Utf8

/-!
# Binding YAML nodes to typed targets

A document is bound to a **target**: any value, a string, a map with string keys, a map
with keys of any kind, a list of maps with string keys, or a record with named fields.
Binding follows the node tree:

* a null scalar leaves a string or a record unset and empties anything else;
* a scalar binds to any value as what it means and to a string as its text; a scalar bound
  to a collection is a **type error**;
* a mapping binds to a map or a record. Its keys must differ (by kind and text). A merge
  key `<<` adds the entries of another mapping, or of a sequence of mappings, whose keys the
  mapping does not have already. Bound to any value, a mapping whose keys are all strings is
  a map with string keys, and otherwise a map with keys of any kind;
* a sequence binds to a list, leaving out the entries that do not bind;
* an alias binds as the node it refers to; an alias met again while it is being bound is
  an error, and so is a document whose binding is almost all alias expansion.

Type errors do not stop binding: they are collected, each with its line, and reported
together. Other errors stop at once.

A map keeps its entries in the order their keys were first bound; a record keeps its
fields in the record's order.

## Main Definitions

* `Yaml.Target` — what a node is bound to, with its type name.
* `Yaml.Binding.bind` — binds a node to a target.
* `Yaml.Binding.bindDocument` — binds a document's root, with the type errors found.
-/

namespace JobEngine.Yaml

/-- What a node is bound to. -/
inductive Target where
  /-- Any value. -/
  | any
  /-- A string. -/
  | text
  /-- A map with string keys. -/
  | stringMap
  /-- A map with keys of any kind. -/
  | anyMap
  /-- A list of maps with string keys. -/
  | mapList
  /-- A record with the given field names and targets. -/
  | record (typeName : String) (fields : List (String × Target))
  deriving Inhabited

namespace Target

/-- The type name of a target, as type errors name it. -/
def typeName : Target → String
  | .any => "interface \x7b\x7d"
  | .text => "string"
  | .stringMap => "map[string]interface \x7b\x7d"
  | .anyMap => "map[interface \x7b\x7d]interface \x7b\x7d"
  | .mapList => "[]map[string]interface \x7b\x7d"
  | .record name _ => name

/-- Whether a null empties the target (rather than leaving it unset). -/
def nullable : Target → Bool
  | .text | .record .. => false
  | _ => true

/-- The target of the keys of a map or record. -/
def keyTarget : Target → Target
  | .anyMap => .any
  | _ => .text

end Target

/-- The first `n` bytes of a text's UTF-8 encoding, read back with stray bytes replaced. -/
def bytePrefix (n : Nat) (s : String) : String :=
  Text.lossyText (s.toUTF8.toList.take n)

/-- The value of a base-64 digit. -/
def base64Digit (c : Char) : Option Nat :=
  if 'A' ≤ c && c ≤ 'Z' then some (c.toNat - 'A'.toNat)
  else if 'a' ≤ c && c ≤ 'z' then some (c.toNat - 'a'.toNat + 26)
  else if '0' ≤ c && c ≤ '9' then some (c.toNat - '0'.toNat + 52)
  else if c == '+' then some 62
  else if c == '/' then some 63
  else none

/-- The bytes of groups of four base-64 characters; the last group may end in padding. -/
def base64Groups : List Char → Option (List UInt8)
  | [] => some []
  | a :: b :: c :: d :: rest => do
    let va ← base64Digit a
    let vb ← base64Digit b
    let first := ((va * 4 + vb / 16) % 256).toUInt8
    if c == '=' then
      if d == '=' && rest.isEmpty then some [first] else none
    else
      let vc ← base64Digit c
      let second := ((vb * 16 + vc / 4) % 256).toUInt8
      if d == '=' then
        if rest.isEmpty then some [first, second] else none
      else
        let vd ← base64Digit d
        let third := ((vc * 64 + vd) % 256).toUInt8
        ([first, second, third] ++ ·) <$> base64Groups rest
  | _ => none

/-- Decodes standard base 64 with padding; line breaks are ignored. -/
def base64Decode (s : String) : Option (List UInt8) :=
  base64Groups (s.toList.filter fun c => c != '\n' && c != '\r')

/-- Of the steps of a binding, the share that may come from alias expansion: almost all for
a small document, falling to a tenth for a very large one. -/
def allowedAliasShare (steps : Nat) : Float :=
  if steps ≤ 400000 then 0.99
  else if steps ≥ 4000000 then 0.10
  else 0.99 - 0.89 * ((steps - 400000).toFloat / 3600000.0)

/-- The state of binding: the document, the type errors so far, the aliases being bound, the
keys present while a merge is bound, and the count of steps, of alias depth, and of steps
taken inside aliases. -/
structure Binding where
  doc : Document
  errors : List String := []
  visiting : List Nat := []
  merged : Option (List Datum) := none
  steps : Nat := 0
  aliasDepth : Nat := 0
  aliasSteps : Nat := 0

/-- Binding, which may stop with a message. -/
abbrev BindM := StateT Binding (Except String)

namespace Binding

/-- Counts a binding step; a document bound almost entirely through aliases stops. -/
def tick : BindM Unit := do
  modify fun b => { b with steps := b.steps + 1,
                           aliasSteps := if b.aliasDepth > 0 then b.aliasSteps + 1 else b.aliasSteps }
  let b ← get
  if b.aliasSteps > 100 && b.steps > 1000 &&
      b.aliasSteps.toFloat / b.steps.toFloat > allowedAliasShare b.steps then
    throw "document contains excessive aliasing"

/-- The node an alias refers to. -/
def targetOf (number : Nat) : BindM Node := do
  match (← get).doc.nodes.lookup number with
  | some n => return n
  | none => return .scalar "" "!!null" 0

/-- Enters an alias: an alias already being bound is an error. -/
def enterAlias (name : String) (self : Nat) : BindM Unit := do
  if (← get).visiting.contains self then
    throw ("anchor '" ++ name ++ "' value contains itself")
  modify fun b => { b with visiting := self :: b.visiting, aliasDepth := b.aliasDepth + 1 }

/-- Leaves an alias. -/
def leaveAlias (self : Nat) : BindM Unit :=
  modify fun b => { b with visiting := b.visiting.erase self, aliasDepth := b.aliasDepth - 1 }

/-- The tag a node stands for: an alias that of its node. -/
def shortTagOf (n : Node) : BindM String := do
  match n with
  | .alias _ t _ _ => return (← targetOf t).tag
  | _ => return n.tag

/-- Whether a node is a mapping, an alias being taken as the node it refers to. -/
def isMapping (n : Node) : BindM Bool := do
  match n with
  | .mapping .. => return true
  | .alias _ t _ _ =>
    match ← targetOf t with
    | .mapping .. => return true
    | _ => return false
  | _ => return false

/-- Records an error. -/
def report (msg : String) : BindM Unit :=
  modify fun b => { b with errors := b.errors ++ [msg] }

/-- Records a type error: the node, tagged `tag` unless it has a tag, cannot bind to the
target. Scalars show their text, cut to seven bytes when longer than ten. -/
def typeError (n : Node) (tag : String) (target : Target) : BindM Unit := do
  let tag := if n.tag.isEmpty then tag else n.tag
  let text := match n with
    | .scalar t _ _ => t
    | _ => ""
  let shown :=
    if tag == "!!seq" || tag == "!!map" then ""
    else if text.utf8ByteSize > 10 then " `" ++ bytePrefix 7 text ++ "...`"
    else " `" ++ text ++ "`"
  report ("line " ++ toString n.line ++ ": cannot unmarshal " ++ tag ++ shown ++ " into " ++
    target.typeName)

/-- The kind and text by which mapping keys are compared: a collection has no text, an
alias its name. -/
def keyIdentity : Node → Nat × String
  | .scalar t _ _ => (0, t)
  | .sequence .. => (1, "")
  | .mapping .. => (2, "")
  | .alias name .. => (3, name)

/-- Records an error for each pair of keys of a mapping that are the same; true when
there is none. -/
def uniqueKeys (entries : List (Node × Node)) : BindM Bool := do
  let keys := entries.map (·.1)
  let mut found := false
  for (ki, i) in keys.zipIdx do
    for (kj, j) in keys.zipIdx do
      if i < j && keyIdentity ki == keyIdentity kj then
        found := true
        report ("line " ++ toString kj.line ++ ": mapping key " ++ Text.quote (keyIdentity kj).2 ++
          " already defined at line " ++ toString ki.line)
  return !found

/-- Whether every key of a mapping is a string or the merge key. -/
def allStringKeys (entries : List (Node × Node)) : BindM Bool :=
  entries.allM fun (k, _) => do
    let t ← shortTagOf k
    return t == "!!str" || t == "!!merge"

/-- Sets a key in a list of map entries, replacing the same key. -/
def setEntry (key v : Datum) (entries : List (Datum × Datum)) : List (Datum × Datum) :=
  if entries.any (fun (k, _) => k.sameKey key) then
    entries.map fun (k, x) => if k.sameKey key then (k, v) else (k, x)
  else entries ++ [(key, v)]

/-- The map of target `into` that a list of entries makes: with keys of any kind, or with
the keys' text. -/
def mapValue (into : Target) (entries : List (Datum × Datum)) : Datum :=
  match into with
  | .anyMap => .anyMap entries
  | _ => .strMap (entries.map fun (k, v) => (k.plain, v))

/-- The record a list of entries makes: its fields that are set, in the record's order. -/
def recordValue (fields : List (String × Target)) (entries : List (Datum × Datum)) : Datum :=
  .strMap (fields.filterMap fun (f, _) =>
    (entries.find? (fun (k, _) => k.sameKey (.str f))).map fun (_, v) => (f, v))

mutual

/-- Binds a node to a target: the value bound, or none when it does not bind. -/
def bind (target : Target) (n : Node) : Nat → BindM (Option Datum)
  | 0 => pure none
  | fuel + 1 => do
    tick
    match n with
    | .alias name t self _ =>
      enterAlias name self
      let r ← bind target (← targetOf t) fuel
      leaveAlias self
      return r
    | .scalar text tag _ => bindScalar target n text tag
    | .sequence items _ _ =>
      match target with
      | .any => return some (.seq (← bindItems .any items fuel))
      | .mapList => return some (.seq (← bindItems .stringMap items fuel))
      | _ =>
        typeError n "!!seq" target
        return none
    | .mapping entries _ _ =>
      if !(← uniqueKeys entries) then return none
      match target with
      | .any =>
        let into := if ← allStringKeys entries then Target.stringMap else .anyMap
        return some (mapValue into (← bindEntries into n entries [] false fuel))
      | .stringMap | .anyMap =>
        return some (mapValue target (← bindEntries target n entries [] true fuel))
      | .record _ fields =>
        return some (recordValue fields (← bindEntries target n entries [] true fuel))
      | _ =>
        typeError n "!!map" target
        return none

/-- Binds a scalar: a `!!str` as its text, anything else as its text resolves under its
tag; `!!binary` text is decoded. -/
def bindScalar (target : Target) (n : Node) (text tag : String) : BindM (Option Datum) := do
  let (rtag, meaning) ← if tag == "!!str" then pure ("!!str", Scalar.str text)
    else match resolve tag text with
      | .ok r => pure r
      | .error e => throw e
  let meaning ← if rtag == "!!binary" then
      match base64Decode text with
      | some bytes => pure (Scalar.str (Text.lossyText bytes))
      | none => throw "!!binary value contains invalid base64 data"
    else pure meaning
  if let .null := meaning then
    return if target.nullable then some .null else none
  match target with
  | .any =>
    return some (match meaning with
      | .bool b => .bool b
      | .int i => .int i
      | .uint u => .uint u
      | .float x => .float x
      | .str s => .str s
      | .timestamp t => .time t
      | .null => .null)
  | .text =>
    return some (match meaning with
      | .str s => if rtag == "!!binary" then .str s else .str text
      | _ => .str text)
  | _ =>
    typeError n rtag target
    return none

/-- Binds the entries of a sequence, leaving out those that do not bind. -/
def bindItems (target : Target) (items : List Node) : Nat → BindM (List Datum)
  | 0 => pure []
  | fuel + 1 => do
    match items with
    | [] => return []
    | item :: rest =>
      let v ← bind target item fuel
      let vs ← bindItems target rest fuel
      return v.toList ++ vs

/-- Binds the entries of mapping `n` into the entries `acc` of a map or record `into`; the
entries of a merge key's value follow. While a merge is bound, a key already present is
skipped and a new one becomes present. `fresh` says whether `acc` is a new, empty map. -/
def bindEntries (into : Target) (n : Node) (entries : List (Node × Node))
    (acc : List (Datum × Datum)) (fresh : Bool) : Nat → BindM (List (Datum × Datum))
  | 0 => pure acc
  | fuel + 1 => do
    let mut present := (← get).merged
    modify fun b => { b with merged := none }
    let mut acc := acc
    let mut mergeNode : Option Node := none
    let mut done : List String := []
    for (k, v) in entries do
      if k.isMerge then
        mergeNode := some v
        continue
      let some key ← bind into.keyTarget k fuel | continue
      if let some ks := present then
        if ks.any key.sameKey then continue
        present := some (ks ++ [key])
      match into with
      | .record typeName fields =>
        let name := key.plain
        if let some ft := fields.lookup name then
          if done.contains name then
            report ("line " ++ toString k.line ++ ": field " ++ name ++ " already set in type " ++
              typeName)
          else
            done := done ++ [name]
            if let some x ← bind ft v fuel then acc := setEntry key x acc
      | _ =>
        match key with
        | .seq _ | .strMap _ | .anyMap _ => throw ("invalid map key: " ++ key.literal)
        | _ => pure ()
        let had := acc.any fun (x, _) => x.sameKey key
        match ← bind .any v fuel with
        | some x => acc := setEntry key x acc
        | none =>
          if (← shortTagOf v) == "!!null" && (fresh || !had) then acc := setEntry key .null acc
    modify fun b => { b with merged := present }
    match mergeNode with
    | some m => mergeInto into n m acc fuel
    | none => return acc

/-- Adds the entries of a merge key's value to the entries `acc` of `into`, the map or record
that mapping `parent` is bound to: a mapping, an alias of one, or a sequence of those. The
keys of `parent` are present from the start. -/
def mergeInto (into : Target) (parent : Node) (m : Node) (acc : List (Datum × Datum)) :
    Nat → BindM (List (Datum × Datum))
  | 0 => pure acc
  | fuel + 1 => do
    let outer := (← get).merged
    if outer.isNone then
      let entries := match parent with
        | .mapping es _ _ => es
        | _ => []
      let mut keys : List Datum := []
      for (k, _) in entries do
        if let some key ← bind .any k fuel then keys := keys ++ [key]
      modify fun b => { b with merged := some keys }
    let wrong : BindM (List (Datum × Datum)) :=
      throw "map merge requires map or sequence of maps as the value"
    let mut acc := acc
    match m with
    | .mapping .. | .alias .. =>
      if !(← isMapping m) then return ← wrong
      acc ← mergePart into m acc fuel
    | .sequence items _ _ =>
      for item in items do
        if !(← isMapping item) then return ← wrong
        acc ← mergePart into item acc fuel
    | _ => return ← wrong
    if outer.isNone then modify fun b => { b with merged := none }
    return acc

/-- Binds one mapping of a merge, or an alias of one, into the entries so far. -/
def mergePart (into : Target) (part : Node) (acc : List (Datum × Datum)) :
    Nat → BindM (List (Datum × Datum))
  | 0 => pure acc
  | fuel + 1 => do
    tick
    match part with
    | .alias name t self _ =>
      enterAlias name self
      let r ← mergePart into (← targetOf t) acc fuel
      leaveAlias self
      return r
    | .mapping entries _ _ =>
      if !(← uniqueKeys entries) then return acc
      bindEntries into part entries acc false fuel
    | _ => return acc

end

/-- Binds a document's root to a target: the value bound, if any, and the type errors; or
the error that stopped binding. -/
def bindDocument (doc : Document) (target : Target) (fuel : Nat) :
    Except String (Option Datum × List String) :=
  let run : BindM (Option Datum) := do
    tick
    bind target doc.root fuel
  match run.run { doc } with
  | .ok (v, b) => .ok (v, b.errors)
  | .error e => .error e

end Binding

end JobEngine.Yaml
