import JobEngine.Proofs.Catalog.Ascending
import JobEngine.Proofs.Codec.HexCase

/-!
# Content addressing in the catalog

The catalog stores a document as JSON reads it back, its normal form, under the hexadecimal
SHA-256 of the normal form's JSON text. This module proves what that buys: the normal form of
an accepted document is its own normal form, so storing what was fetched again gives the same
hash; the hash is that of the JSON text alone; lookups ignore the case of the hash; and the
listing holds one entry per hash, in ascending order, each under its own document's hash.

## Main Definitions

* `Catalog.Sound` — the invariant of every catalog the program builds.
* `Catalog.Grows` — a catalog after some successful puts.
* `Catalog.Reachable` — a catalog reached from the empty one by answering requests.
* `Catalog.Addressing` — what content addressing guarantees of a catalog.

## Main Statements

* `Metadata.normalize_self` — the normal form of a document that has JSON text is fixed.
* `Catalog.put_eq_ok_iff` — exactly when and what a put stores.
* `Catalog.grows_answer` — every request at most adds documents by puts.
* `catalog_content_addressing` — every reachable catalog is content addressed.

## Design Notes

Normalizing turns exact integers into binary64 numbers and leaves everything else as it is,
so normalizing twice changes nothing; whether a number is finite is never computed here, it is
only carried from the check a stored document has passed.
-/

namespace JobEngine

/-! ## Normal forms -/

namespace Value

@[simp] theorem normalize_int (n : Int) : (Value.int n).normalize = .num (Float.ofInt n) := by
  rw [normalize]

@[simp] theorem normalize_arr (xs : List Value) :
    (Value.arr xs).normalize = .arr (xs.map normalize) := by
  rw [normalize]
  simp only [List.map_attach_eq_pmap, List.pmap_eq_map]

@[simp] theorem normalize_obj (kvs : List (String × Value)) :
    (Value.obj kvs).normalize = .obj (kvs.map fun kv => (kv.1, kv.2.normalize)) := by
  rw [normalize]
  simp only [List.map_attach_eq_pmap, List.pmap_eq_map]

/-- **Normalizing twice changes nothing**: the normal form holds no exact integer. -/
theorem normalize_normalize (v : Value) : v.normalize.normalize = v.normalize := by
  induction v using normalize.induct with
  | case1 n => simp [normalize]
  | case2 xs ih =>
    rw [normalize_arr, normalize_arr, List.map_map]
    exact congrArg arr (List.map_congr_left ih)
  | case3 kvs ih =>
    rw [normalize_obj, normalize_obj, List.map_map]
    refine congrArg obj (List.map_congr_left fun kv mem => ?_)
    simp [ih kv.1 kv.2 mem]
  | case4 v notInt notArr notObj =>
    -- the other values are their own normal form
    have fixed : v.normalize = v := by
      cases v with
      | int n => exact (notInt n rfl).elim
      | arr xs => exact (notArr xs rfl).elim
      | obj kvs => exact (notObj kvs rfl).elim
      | _ => rw [normalize] <;> assumption
    rw [fixed, fixed]

end Value

namespace Metadata

theorem normalize_eq_ok_iff {m n : Metadata} :
    m.normalize = .ok n ↔ m.toValue.nonFinite? = none ∧ n = ofValue m.toValue.normalize := by
  unfold normalize
  cases m.toValue.nonFinite? <;> simp [eq_comm]

theorem canonical_eq_ok_iff {m : Metadata} {text : String} :
    m.canonical = .ok text ↔ m.toValue.nonFinite? = none ∧ text = m.toValue.render true := by
  unfold canonical
  cases m.toValue.nonFinite? <;> simp [eq_comm]

theorem hash_eq_ok_iff {m : Metadata} {h : String} :
    m.hash = .ok h ↔
      ∃ text, m.canonical = .ok text ∧ h = Hex.encode (Crypto.sha256 text.toUTF8.toList) := by
  unfold hash
  cases m.canonical <;> simp [eq_comm]

theorem nonFinite?_of_hash {m : Metadata} {h : String} (hashed : m.hash = .ok h) :
    m.toValue.nonFinite? = none := by
  obtain ⟨text, written, -⟩ := hash_eq_ok_iff.mp hashed
  exact (canonical_eq_ok_iff.mp written).1

/-- A hash is written in lowercase. -/
theorem toLower_of_hash {m : Metadata} {h : String} (hashed : m.hash = .ok h) : h.toLower = h := by
  obtain ⟨text, -, rfl⟩ := hash_eq_ok_iff.mp hashed
  exact Hex.toLower_encode _

theorem toValue_ofValue_normalize (m : Metadata) :
    (ofValue m.toValue.normalize).toValue = m.toValue.normalize := by
  simp [toValue, ofValue, Value.asObject?]

/-- **A normal form with JSON text is its own normal form.** -/
theorem normalize_self {m n : Metadata} (normal : m.normalize = .ok n)
    (finite : n.toValue.nonFinite? = none) : n.normalize = .ok n := by
  obtain ⟨-, rfl⟩ := normalize_eq_ok_iff.mp normal
  refine normalize_eq_ok_iff.mpr ⟨finite, ?_⟩
  rw [toValue_ofValue_normalize, Value.normalize_normalize]

end Metadata

namespace Catalog

/-! ## Storing and finding -/

/-- **What a put stores**: the normal form, when it names an adapter operation and has a hash,
under that hash. -/
theorem put_eq_ok_iff {c c' : Catalog} {m : Metadata} {h : String} :
    c.put m = .ok (h, c') ↔ ∃ n, m.normalize = .ok n ∧ n.adapterOp ≠ "" ∧ n.hash = .ok h ∧
      c' = ⟨insertEntry h n c.entries⟩ := by
  unfold put
  cases normal : m.normalize with
  | error e => simp [bind, Except.bind]
  | ok n =>
    simp only [bind, Except.bind, pure, Except.pure, String.isEmpty_iff, Except.ok.injEq,
      exists_eq_left']
    split_ifs with empty
    · simp [empty]
    · cases n.hash with
      | error e => simp
      | ok h' =>
        simp only [Except.ok.injEq, Prod.mk.injEq]
        constructor
        · rintro ⟨rfl, rfl⟩
          exact ⟨empty, rfl, rfl⟩
        · rintro ⟨-, rfl, rfl⟩
          exact ⟨rfl, rfl⟩

theorem get?_eq (c : Catalog) (s : String) : c.get? s = c.entries.lookup s.toLower := rfl

/-- A stored document is found under its hash. -/
theorem get?_put {c c' : Catalog} {n : Metadata} {h : String} (hashed : n.hash = .ok h)
    (stored : c' = ⟨insertEntry h n c.entries⟩) : c'.get? h = some n := by
  rw [stored, get?_eq, Metadata.toLower_of_hash hashed, insertEntry_eq, lookup_bindAscending]

/-- **A put stores the normal form under its hash**: the normal form is its own normal form,
Get finds it under the hash, it is listed, and putting it again, into any catalog, gives the
same hash. -/
theorem put_stores {c c' : Catalog} {m : Metadata} {h : String} (stored : c.put m = .ok (h, c')) :
    ∃ n, m.normalize = .ok n ∧ n.hash = .ok h ∧ n.normalize = .ok n ∧ c'.get? h = some n ∧
      (h, n) ∈ c'.entries ∧ ∀ d : Catalog, ∃ d', d.put n = .ok (h, d') := by
  obtain ⟨n, normal, named, hashed, rfl⟩ := put_eq_ok_iff.mp stored
  have fixed := Metadata.normalize_self normal (Metadata.nonFinite?_of_hash hashed)
  refine ⟨n, normal, hashed, fixed, get?_put hashed rfl, ?_,
    fun d => ⟨⟨insertEntry h n d.entries⟩, ?_⟩⟩
  · rw [insertEntry_eq]
    exact self_mem_bindAscending _
  · exact put_eq_ok_iff.mpr ⟨n, fixed, named, hashed, rfl⟩

/-- The hash a put returns is the hexadecimal SHA-256 of the normal form's JSON text. -/
theorem hash_of_put {c c' : Catalog} {m : Metadata} {h : String} (stored : c.put m = .ok (h, c')) :
    ∃ n text, m.normalize = .ok n ∧ n.canonical = .ok text ∧
      h = Hex.encode (Crypto.sha256 text.toUTF8.toList) := by
  obtain ⟨n, normal, -, hashed, -⟩ := put_eq_ok_iff.mp stored
  obtain ⟨text, written, rfl⟩ := Metadata.hash_eq_ok_iff.mp hashed
  exact ⟨n, text, normal, written, rfl⟩

/-- **Two stored documents share a hash exactly when their JSON texts share a SHA-256**, and so,
for texts that do not collide, exactly when the texts are equal. -/
theorem put_hash_eq_iff {c₁ c₂ c₁' c₂' : Catalog} {m₁ m₂ : Metadata} {h₁ h₂ : String}
    (stored₁ : c₁.put m₁ = .ok (h₁, c₁')) (stored₂ : c₂.put m₂ = .ok (h₂, c₂')) :
    ∃ t₁ t₂, (∃ n₁, m₁.normalize = .ok n₁ ∧ n₁.canonical = .ok t₁) ∧
      (∃ n₂, m₂.normalize = .ok n₂ ∧ n₂.canonical = .ok t₂) ∧
      (h₁ = h₂ ↔ Crypto.sha256 t₁.toUTF8.toList = Crypto.sha256 t₂.toUTF8.toList) ∧
      ((Crypto.sha256 t₁.toUTF8.toList = Crypto.sha256 t₂.toUTF8.toList → t₁ = t₂) →
        (h₁ = h₂ ↔ t₁ = t₂)) := by
  obtain ⟨n₁, t₁, normal₁, written₁, rfl⟩ := hash_of_put stored₁
  obtain ⟨n₂, t₂, normal₂, written₂, rfl⟩ := hash_of_put stored₂
  refine ⟨t₁, t₂, ⟨n₁, normal₁, written₁⟩, ⟨n₂, normal₂, written₂⟩, Hex.encode_injective.eq_iff,
    fun noCollision => ?_⟩
  rw [Hex.encode_injective.eq_iff]
  exact ⟨noCollision, fun same => same ▸ rfl⟩

/-! ## The invariant -/

/-- What every catalog the program builds satisfies: hashes ascend, each entry is stored under
its own document's hash, and each document is in normal form. -/
structure Sound (c : Catalog) : Prop where
  ascending : Ascending c.entries
  addressed : ∀ p ∈ c.entries, p.2.hash = .ok p.1
  normal : ∀ p ∈ c.entries, p.2.normalize = .ok p.2

theorem sound_empty : Sound {} := ⟨List.Pairwise.nil, by simp, by simp⟩

/-- **A put keeps a catalog sound.** -/
theorem Sound.put {c c' : Catalog} {m : Metadata} {h : String} (sound : c.Sound)
    (stored : c.put m = .ok (h, c')) : c'.Sound := by
  obtain ⟨n, normal, -, hashed, rfl⟩ := put_eq_ok_iff.mp stored
  have fixed := Metadata.normalize_self normal (Metadata.nonFinite?_of_hash hashed)
  refine ⟨?_, fun p mem => ?_, fun p mem => ?_⟩
  · rw [insertEntry_eq]
    exact pairwise_bindAscending sound.ascending
  all_goals
    rw [insertEntry_eq] at mem
    rcases mem_bindAscending mem with rfl | old
  · exact hashed
  · exact sound.addressed p old
  · exact fixed
  · exact sound.normal p old

/-- In a sound catalog Get finds an entry under its hash written in any case. -/
theorem Sound.get?_of_mem {c : Catalog} (sound : c.Sound) {p : String × Metadata}
    (mem : p ∈ c.entries) {s : String} (same : s.toLower = p.1.toLower) :
    c.get? s = some p.2 := by
  rw [get?_eq, same, Metadata.toLower_of_hash (sound.addressed p mem)]
  exact lookup_of_mem sound.ascending mem

/-- A sound catalog holds no document twice: two entries with one document share its hash. -/
theorem Sound.nodup_documents {c : Catalog} (sound : c.Sound) : (c.entries.map (·.2)).Nodup := by
  rw [List.Nodup, List.pairwise_map]
  refine sound.ascending.imp_of_mem fun {a b} memA memB before same => ?_
  have hashes : Except.ok a.1 = (Except.ok b.1 : Except Fault String) := by
    rw [← sound.addressed a memA, ← sound.addressed b memB, same]
  rw [Except.ok.inj hashes] at before
  exact lt_irrefl _ before

/-- One step of growth: a successful put. -/
def PutStep (c c' : Catalog) : Prop := ∃ m h, c.put m = .ok (h, c')

/-- A catalog after some successful puts. -/
def Grows (c c' : Catalog) : Prop := Relation.ReflTransGen PutStep c c'

theorem Sound.grows {c c' : Catalog} (sound : c.Sound) (grows : Grows c c') : c'.Sound := by
  induction grows with
  | refl => exact sound
  | tail _ step ih =>
    obtain ⟨m, h, stored⟩ := step
    exact ih.put stored

/-- Growing keeps every hash. -/
theorem key_mem_of_grows {c c' : Catalog} (grows : Grows c c') {k : String}
    (mem : k ∈ c.entries.map (·.1)) : k ∈ c'.entries.map (·.1) := by
  induction grows with
  | refl => exact mem
  | tail _ step ih =>
    obtain ⟨m, h, stored⟩ := step
    obtain ⟨n, -, -, -, rfl⟩ := put_eq_ok_iff.mp stored
    rw [insertEntry_eq]
    exact key_mem_bindAscending ih

theorem putDatum_grows {c c' : Catalog} {d : Yaml.Datum} {h : String}
    (stored : putDatum d c = .ok (h, c')) : PutStep c c' := by
  unfold putDatum at stored
  -- an empty entry is read as an empty document first
  split at stored <;> dsimp only at stored <;> split at stored
  · cases stored
  · exact ⟨_, h, stored⟩
  · cases stored
  · exact ⟨_, h, stored⟩

/-- Loading documents one by one stores each with a put. -/
theorem putAll_grows (i : Nat) (c : Catalog) (docs : List Yaml.Datum) :
    Grows c (putAll i c docs).2 := by
  induction docs generalizing i c with
  | nil => exact .refl
  | cons doc rest ih =>
    unfold putAll
    split
    · exact .refl
    · next h c' stored =>
      -- what is loaded after the first document grows from the catalog that stored it
      have first : Grows c c' := .single (putDatum_grows stored)
      have later := ih (i + 1) c'
      split
      · next loaded => rw [loaded] at later; exact first.trans later
      · next loaded => rw [loaded] at later; exact first.trans later

theorem loadYaml_grows (text : String) (c : Catalog) : Grows c (loadYaml text c).2 := by
  unfold loadYaml
  split
  · exact .refl
  · exact putAll_grows _ _ _

/-- **Every request at most adds documents, each with a put.** -/
theorem grows_answer (c : Catalog) (r : CatalogRequest) : Grows c (c.answer r).2.1 := by
  cases r with
  | put doc =>
    simp only [answer]
    split
    · next h c' stored => exact .single ⟨_, h, stored⟩
    · exact .refl
  | hash doc =>
    simp only [answer]
    split <;> exact .refl
  | load text =>
    have grown := loadYaml_grows text c
    simp only [answer]
    split
    · next loaded => rw [loaded] at grown; exact grown
    · next loaded => rw [loaded] at grown; exact grown
  | get | list | loadFile | unknown => exact .refl

/-- A catalog reached from the empty one by answering requests. -/
inductive Reachable : Catalog → Prop
  | empty : Reachable {}
  | answer {c : Catalog} (r : CatalogRequest) : Reachable c → Reachable (c.answer r).2.1

theorem Reachable.sound {c : Catalog} (reach : c.Reachable) : c.Sound := by
  induction reach with
  | empty => exact sound_empty
  | answer r _ ih => exact ih.grows (grows_answer _ r)

/-! ## Content addressing -/

/-- What content addressing guarantees of a catalog `c`. -/
structure Addressing (c : Catalog) : Prop where
  /-- A put stores the document's normal form under the hash of that form. The normal form is
  its own normal form; Get finds it under the hash and the listing holds it; and putting it
  again, into any catalog, gives the same hash. -/
  stores : ∀ m h c', c.put m = .ok (h, c') → ∃ n, m.normalize = .ok n ∧ n.hash = .ok h ∧
    n.normalize = .ok n ∧ c'.get? h = some n ∧ (h, n) ∈ c'.entries ∧
    ∀ d : Catalog, ∃ d', d.put n = .ok (h, d')
  /-- Two stored documents get the same hash exactly when the JSON texts of their normal forms
  have the same SHA-256, and so, for texts that do not collide, exactly when the texts are
  equal. -/
  sameHash : ∀ m₁ m₂ h₁ h₂ c₁ c₂, c.put m₁ = .ok (h₁, c₁) → c.put m₂ = .ok (h₂, c₂) →
    ∃ t₁ t₂, (∃ n₁, m₁.normalize = .ok n₁ ∧ n₁.canonical = .ok t₁) ∧
      (∃ n₂, m₂.normalize = .ok n₂ ∧ n₂.canonical = .ok t₂) ∧
      (h₁ = h₂ ↔ Crypto.sha256 t₁.toUTF8.toList = Crypto.sha256 t₂.toUTF8.toList) ∧
      ((Crypto.sha256 t₁.toUTF8.toList = Crypto.sha256 t₂.toUTF8.toList → t₁ = t₂) →
        (h₁ = h₂ ↔ t₁ = t₂))
  /-- A document given as a map is stored alike whatever order its members come in. -/
  reorders : ∀ kvs kvs' : List (String × Value), kvs.Perm kvs' → (kvs.map (·.1)).Nodup →
    c.answer (.put (Value.map kvs)) = c.answer (.put (Value.map kvs'))
  /-- So is a document loaded as a YAML map with string keys. -/
  reordersYaml : ∀ e e' : List (String × Yaml.Datum), e.Perm e' → (e.map (·.1)).Nodup →
    putDatum (.strMap e) c = putDatum (.strMap e') c
  /-- And one loaded as a YAML map with keys of any kind, whose keys read as distinct texts. -/
  reordersYamlKeys : ∀ e e' : List (Yaml.Datum × Yaml.Datum), e.Perm e' →
    (e.map (·.1.plain)).Nodup → putDatum (.anyMap e) c = putDatum (.anyMap e') c
  /-- Get finds every stored document under its hash written in any case. -/
  finds : ∀ p ∈ c.entries, ∀ s, s.toLower = p.1.toLower → c.get? s = some p.2
  /-- The listing has ascending hashes, each entry under its own document's hash and in normal
  form, and no document twice. -/
  lists : ∃ es, (c.answer .list).1 = .listed es ∧ Ascending es ∧
    (∀ p ∈ es, p.2.hash = .ok p.1 ∧ p.2.normalize = .ok p.2) ∧ (es.map (·.2)).Nodup
  /-- No request drops a hash. -/
  keeps : ∀ r, ∀ k ∈ c.entries.map (·.1), k ∈ (c.answer r).2.1.entries.map (·.1)

end Catalog

/-- **The catalog is content addressed.** In every catalog reached from the empty one, a put
stores the normal form of a document under the hash of its JSON text, which is its own normal
form; equal hashes are equal texts up to SHA-256 collisions; member order does not matter, in
JSON or in YAML; Get ignores case; and the listing holds one entry per document, by ascending
hash. -/
theorem catalog_content_addressing {c : Catalog} (reach : c.Reachable) : c.Addressing := by
  have sound := reach.sound
  refine ⟨fun _ _ _ => Catalog.put_stores, fun _ _ _ _ _ _ => Catalog.put_hash_eq_iff,
    fun _ _ reordered distinct => ?_, fun _ _ reordered distinct => ?_,
    fun _ _ reordered distinct => ?_, fun _ mem _ => sound.get?_of_mem mem,
    ⟨c.entries, rfl, sound.ascending, fun p mem => ⟨sound.addressed p mem, sound.normal p mem⟩,
      sound.nodup_documents⟩,
    fun r _ => Catalog.key_mem_of_grows (Catalog.grows_answer c r)⟩
  · rw [Value.map_perm reordered distinct]
  · simp only [Catalog.putDatum, Yaml.Datum.toJson_strMap_perm reordered distinct]
  · simp only [Catalog.putDatum, Yaml.Datum.toJson_anyMap_perm reordered distinct]

/-- The catalog after storing a document and loading a catalog text. -/
theorem catalog_content_addressing_after_load :
    let echo := Value.map
      [("name", .str "Echo"), ("operation", .obj [("adapter", .str "test:echo")])]
    let c := ((({} : Catalog).answer (.put echo)).2.1.answer
      (.load "operations:\n  - operation:\n      adapter: test:other\n")).2.1
    c.Reachable ∧ c.Addressing := by
  intro echo c
  have reach : c.Reachable := .answer _ (.answer _ .empty)
  exact ⟨reach, catalog_content_addressing reach⟩

end JobEngine
