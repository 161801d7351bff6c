import JobEngine.Value.Read
import JobEngine.Text.Numbers
import JobEngine.Fault

/-!
# Binding documents to fixed shapes

Requests and replies exchanged over HTTP are JSON objects with fixed members. A **shape**
says what a reader expects: text, a 64-bit whole number, any value, a list of texts, or a
record of named members, which may be allowed to be absent as a whole.

Binding a document to a shape follows these rules:

* members are matched to fields by name, exactly or else ignoring case (where the long s
  `ſ` counts as `s` and the Kelvin sign as `k`); unknown members are skipped, and a member
  given twice is bound twice, the later one on top of the earlier;
* `null` leaves a text, a number or a record as it was, and clears any value, a list or a
  record that may be absent;
* a member of the wrong kind is skipped (a record that may be absent is then present and
  empty), and the first such mismatch is reported, naming the innermost record, the path
  of fields to the member and the expected type:
  `json: cannot unmarshal number into Go struct field Record.created of type int64`;
* a number that is no 64-bit whole number, or too large for binary64 where any value is
  expected, is reported with its literal.

Reading a stream takes its first document only; what follows is not read. A stream of
blanks is an end of file, and one that ends inside a document an unexpected one.

## Main Definitions

* `Shape` — what a reader expects.
* `Shape.bind` — the value a document gives a shape, with the first mismatch.
* `Shape.readStream` — the value of the first document of a text.
-/

namespace JobEngine

/-- What a reader expects of a document. -/
inductive Shape where
  /-- Text; messages call its type `type`. -/
  | text (type : String)
  /-- A signed 64-bit whole number. -/
  | whole
  /-- Any value. -/
  | any
  /-- A list of texts. -/
  | texts
  /-- Named members. Messages call the record's type `type` and, when it holds the
  mismatched member, `short`. A `nullable` record may be absent as a whole. -/
  | record (type short : String) (members : List (String × Shape)) (nullable : Bool)

namespace Shape

/-- The name a member is matched by when case is ignored. -/
def foldChar (c : Char) : Char :=
  if 'a' ≤ c && c ≤ 'z' then c.toUpper
  else if c.toNat == 0x17F then 'S'
  else if c.toNat == 0x212A then 'K'
  else c

/-- Whether a member name matches a field name, exactly or ignoring case. -/
def nameMatches (key field : String) : Bool :=
  key == field || key.toList.map foldChar == field.toList.map foldChar

/-- The kind of a document, as mismatch messages name it. -/
def kindOf : Doc → String
  | .null => "null"
  | .bool _ => "bool"
  | .num _ => "number"
  | .str _ => "string"
  | .arr _ => "array"
  | .obj _ => "object"

/-- Where a mismatch lies: the innermost record holding the member and the path of fields. -/
structure Place where
  record : String
  path : List String

/-- The message of a mismatch. -/
def mismatch (place : Option Place) (what type : String) : String :=
  match place with
  | some p =>
    "json: cannot unmarshal " ++ what ++ " into Go struct field " ++ p.record ++ "." ++
      ".".intercalate p.path ++ " of type " ++ type
  | none => "json: cannot unmarshal " ++ what ++ " into Go value of type " ++ type

/-- The first of two mismatches. -/
def firstOf (a b : Option String) : Option String := a.or b

/-- The value of a document where any value is expected, and the first number too large. -/
def anyValue (place : Option Place) (d : Doc) : Value × Option String :=
  match d.toValue with
  | .ok v => (v, none)
  | .error r => (.null, some (mismatch place ("number " ++ r.literal) "float64"))

/-- The field a member name binds to. -/
def fieldFor : List (String × Shape) → String → Option (String × Shape)
  | [], _ => none
  | (n, s) :: rest, k => if nameMatches k n then some (n, s) else fieldFor rest k

mutual
/-- The value a document gives a shape whose value so far is `current`, and the first
mismatch. `place` is where the document stands; `path` the fields leading to it. -/
def bind (place : Option Place) (path : List String) (current : Option Value) :
    Shape → Doc → Option Value × Option String
  | .text type, d =>
    match d with
    | .str s => (some (.str s), none)
    | .null => (current, none)
    | d => (current, some (mismatch place (kindOf d) type))
  | .whole, d =>
    match d with
    | .num lit =>
      match Text.parseInt64? lit with
      | some n => (some (.int n), none)
      | none => (current, some (mismatch place ("number " ++ lit) "int64"))
    | .null => (current, none)
    | d => (current, some (mismatch place (kindOf d) "int64"))
  | .any, d =>
    let (v, e) := anyValue place d
    (some v, e)
  | .texts, d =>
    match d with
    | .arr items =>
      let (xs, e) := bindItems place items
      (some (.arr xs), e)
    | .null => (some .null, none)
    | d => (current, some (mismatch place (kindOf d) "[]string"))
  | .record type short members nullable, d =>
    match d with
    | .obj ms =>
      let start := match current with
        | some (.obj fs) => fs
        | _ => []
      let (fs, e) := bindMembers short path members start ms
      (some (.obj fs), e)
    | .null => if nullable then (some .null, none) else (current, none)
    | d =>
      let current := if nullable then
          (match current with
           | some (.obj fs) => some (Value.obj fs)
           | _ => some (Value.obj []))
        else current
      (current, some (mismatch place (kindOf d) type))

/-- The texts of list items, each bound on its own. -/
def bindItems (place : Option Place) : List Doc → List Value × Option String
  | [] => ([], none)
  | d :: rest =>
    let (v, e) := bind place [] (some (.str "")) (.text "string") d
    let (vs, e') := bindItems place rest
    ((v.getD (.str "")) :: vs, firstOf e e')

/-- Binds the members of an object, in order, to the fields of a record named `short`
standing at `path`. -/
def bindMembers (short : String) (path : List String) (fields : List (String × Shape))
    (acc : List (String × Value)) : List (String × Doc) → List (String × Value) × Option String
  | [] => (acc, none)
  | (k, d) :: rest =>
    match fieldFor fields k with
    | none => bindMembers short path fields acc rest
    | some (name, shape) =>
      let here := path ++ [name]
      let (v, e) := bind (some ⟨short, here⟩) here (acc.lookup name) shape d
      let acc := match v with
        | some v => (acc.filter (·.1 != name)) ++ [(name, v)]
        | none => acc
      let (acc, e') := bindMembers short path fields acc rest
      (acc, firstOf e e')
end

/-- The value of a whole document bound to a shape, and the first mismatch. -/
def bindDoc (s : Shape) (d : Doc) : Value × Option Fault :=
  let (v, e) := bind none [] none s d
  (v.getD .null, e.map .plain)

/-- The first document of a text bound to a shape. A text of blanks is an end of file;
other syntax errors and the first mismatch are faults. -/
def readStream (s : Shape) (text : String) : Except Fault Value :=
  match Doc.parseFirst text with
  | .error .empty => .error .eof
  | .error .unexpectedEnd => .error .unexpectedEof
  | .error f => .error (.plain f.message)
  | .ok d =>
    match s.bindDoc d with
    | (v, none) => .ok v
    | (_, some f) => .error f

/-- The value of the first document of a text bound to a shape, whatever mismatches it has;
none when the text holds no document. -/
def readLenient (s : Shape) (text : String) : Option Value :=
  match Doc.parseFirst text with
  | .ok d => some (s.bindDoc d).1
  | .error _ => none

end Shape

end JobEngine
