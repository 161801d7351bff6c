import Mathlib.Data.String.Basic
import Mathlib.Data.List.Sort
import JobEngine.Catalog.Script

/-!
# Key-sorted association lists

Two structures of the library keep their members sorted by key, one member per key: a JSON
object built as a map (`Value.bindSorted`, `Value.map`) and the catalog (`Catalog.insertEntry`).
Both bind a key by walking to its place and replacing a binding already there. This module
states that walk once, as `bindAscending`, shows both are it, and proves what it keeps:
ascending keys, the binding itself, every other key, and that on fresh keys it only adds a
member.

From these, a map built from members with distinct keys does not depend on the order the
members come in (`Value.map_perm`): the result is the one ascending arrangement of them. The
same holds of a YAML map read as JSON, which sorts its members (`Yaml.Datum.toJson_strMap_perm`,
`Yaml.Datum.toJson_anyMap_perm`).

## Main Statements

* `bindSorted_eq`, `insertEntry_eq` — both sorted bindings are `bindAscending`.
* `pairwise_bindAscending`, `lookup_bindAscending`, `perm_bindAscending` — what a binding keeps.
* `lookup_of_mem` — in an ascending list a key finds its own member.
* `Value.map_perm` — a map does not depend on the order of members with distinct keys.
* `Yaml.Datum.toJson_strMap_perm`, `Yaml.Datum.toJson_anyMap_perm` — nor does a YAML map.
-/

namespace JobEngine

/-- Keys strictly ascend along the list. -/
def Ascending {α : Type} (l : List (String × α)) : Prop := l.Pairwise (·.1 < ·.1)

/-- Binds `k` to `v` in a key-sorted association list, replacing an earlier binding of `k`. -/
def bindAscending {α : Type} (k : String) (v : α) : List (String × α) → List (String × α)
  | [] => [(k, v)]
  | (k', v') :: rest =>
    if k < k' then (k, v) :: (k', v') :: rest
    else if k = k' then (k, v) :: rest
    else (k', v') :: bindAscending k v rest

theorem Value.bindSorted_eq (k : String) (v : Value) (l : List (String × Value)) :
    Value.bindSorted k v l = bindAscending k v l := by
  induction l with
  | nil => rfl
  | cons kv rest ih =>
    obtain ⟨k', v'⟩ := kv
    simp only [Value.bindSorted, bindAscending, ih]

theorem Catalog.insertEntry_eq (h : String) (m : Metadata) (l : List (String × Metadata)) :
    Catalog.insertEntry h m l = bindAscending h m l := by
  induction l with
  | nil => rfl
  | cons kv rest ih =>
    obtain ⟨k, v⟩ := kv
    simp only [Catalog.insertEntry, bindAscending, beq_iff_eq, ih]

section Binding

variable {α : Type} {k : String} {v : α}

/-- Every member after a binding is the new one or an old one. -/
theorem mem_bindAscending {l : List (String × α)} {p : String × α}
    (mem : p ∈ bindAscending k v l) : p = (k, v) ∨ p ∈ l := by
  induction l with
  | nil => simpa [bindAscending] using mem
  | cons kv rest ih =>
    obtain ⟨k', v'⟩ := kv
    simp only [bindAscending] at mem
    split_ifs at mem
    · simpa using mem
    · simp only [List.mem_cons] at mem ⊢
      tauto
    · simp only [List.mem_cons] at mem ⊢
      rcases mem with here | later
      · exact .inr (.inl here)
      · rcases ih later with new | old
        · exact .inl new
        · exact .inr (.inr old)

/-- The binding is a member. -/
theorem self_mem_bindAscending (l : List (String × α)) : (k, v) ∈ bindAscending k v l := by
  induction l with
  | nil => simp [bindAscending]
  | cons kv rest ih =>
    simp only [bindAscending]
    split_ifs <;> simp [ih]

/-- A binding keeps every key. -/
theorem key_mem_bindAscending {l : List (String × α)} {k' : String} (mem : k' ∈ l.map (·.1)) :
    k' ∈ (bindAscending k v l).map (·.1) := by
  induction l with
  | nil => cases mem
  | cons kv rest ih =>
    obtain ⟨k'', v''⟩ := kv
    simp only [List.map_cons, List.mem_cons] at mem
    simp only [bindAscending]
    split_ifs with before same
    · simp only [List.map_cons, List.mem_cons]
      tauto
    · subst same
      simp only [List.map_cons, List.mem_cons]
      tauto
    · simp only [List.map_cons, List.mem_cons]
      tauto

/-- The binding is found under its key. -/
@[simp] theorem lookup_bindAscending (l : List (String × α)) :
    (bindAscending k v l).lookup k = some v := by
  induction l with
  | nil => simp [bindAscending]
  | cons kv rest ih =>
    obtain ⟨k', v'⟩ := kv
    simp only [bindAscending]
    split_ifs with before same
    · simp
    · simp
    · have apart : (k == k') = false := by simpa using same
      simp [List.lookup_cons, apart, ih]

/-- **A binding keeps the keys ascending.** -/
theorem pairwise_bindAscending {l : List (String × α)} (sorted : Ascending l) :
    Ascending (bindAscending k v l) := by
  induction l with
  | nil => simp [Ascending, bindAscending]
  | cons kv rest ih =>
    obtain ⟨k', v'⟩ := kv
    obtain ⟨above, sortedRest⟩ := List.pairwise_cons.mp sorted
    simp only [bindAscending]
    split_ifs with before same
    · -- the new key goes first: it is below `k'`, and `k'` below the rest
      refine List.pairwise_cons.mpr ⟨?_, sorted⟩
      intro p mem
      rcases List.mem_cons.mp mem with rfl | later
      · exact before
      · exact lt_trans before (above p later)
    · subst same
      exact List.pairwise_cons.mpr ⟨above, sortedRest⟩
    · -- the new key goes further in: `k'` stays below it and below the rest
      have after : k' < k := lt_of_le_of_ne (not_lt.mp before) (Ne.symm same)
      refine List.pairwise_cons.mpr ⟨fun p mem => ?_, ih sortedRest⟩
      rcases mem_bindAscending mem with rfl | old
      · exact after
      · exact above p old

/-- On a fresh key a binding only adds its member. -/
theorem perm_bindAscending {l : List (String × α)} (fresh : k ∉ l.map (·.1)) :
    (bindAscending k v l).Perm ((k, v) :: l) := by
  induction l with
  | nil => simp [bindAscending]
  | cons kv rest ih =>
    obtain ⟨k', v'⟩ := kv
    simp only [List.map_cons, List.mem_cons, not_or] at fresh
    simp only [bindAscending, if_neg fresh.1]
    split_ifs
    · exact List.Perm.refl _
    · exact ((ih fresh.2).cons _).trans (List.Perm.swap _ _ _)

/-- **In an ascending list a key finds its own member.** -/
theorem lookup_of_mem {l : List (String × α)} (sorted : Ascending l) {p : String × α}
    (mem : p ∈ l) : l.lookup p.1 = some p.2 := by
  induction l with
  | nil => cases mem
  | cons kv rest ih =>
    obtain ⟨k, v⟩ := kv
    obtain ⟨above, sortedRest⟩ := List.pairwise_cons.mp sorted
    rcases List.mem_cons.mp mem with rfl | later
    · simp
    · have apart : (p.1 == k) = false := by
        simpa using ne_of_gt (above p later)
      simp [List.lookup_cons, apart, ih sortedRest later]

end Binding

/-! ## Maps built in any order -/

namespace Value

/-- The members of a map, in the order `map` leaves them. -/
theorem map_eq (kvs : List (String × Value)) :
    Value.map kvs = .obj (kvs.foldl (fun acc kv => bindAscending kv.1 kv.2 acc) []) := by
  simp only [Value.map, bindSorted_eq]

/-- Binding members with fresh, distinct keys one by one into an ascending list keeps it
ascending and adds exactly those members. -/
theorem foldl_bindAscending {acc kvs : List (String × Value)} (sorted : Ascending acc)
    (distinct : (kvs.map (·.1)).Nodup)
    (fresh : ∀ k ∈ kvs.map (·.1), k ∉ acc.map (·.1)) :
    let built := kvs.foldl (fun acc kv => bindAscending kv.1 kv.2 acc) acc
    Ascending built ∧ built.Perm (acc ++ kvs) := by
  induction kvs generalizing acc with
  | nil => simpa using sorted
  | cons kv rest ih =>
    simp only [List.map_cons, List.nodup_cons, List.mem_cons] at distinct fresh
    have bound := perm_bindAscending (v := kv.2) (fresh kv.1 (.inl rfl))
    -- the rest is fresh for the list with `kv` bound: its keys differ from `kv`'s and from `acc`'s
    have freshRest : ∀ k ∈ rest.map (·.1), k ∉ (bindAscending kv.1 kv.2 acc).map (·.1) := by
      intro k mem inBound
      rw [(bound.map _).mem_iff] at inBound
      rcases List.mem_cons.mp inBound with same | old
      · simp only at same
        subst same
        exact distinct.1 mem
      · exact fresh k (.inr mem) old
    obtain ⟨builtSorted, builtPerm⟩ := ih (pairwise_bindAscending sorted) distinct.2 freshRest
    refine ⟨builtSorted, builtPerm.trans ?_⟩
    calc List.Perm (bindAscending kv.1 kv.2 acc ++ rest) ((kv :: acc) ++ rest) :=
          bound.append_right rest
      List.Perm _ (acc ++ kv :: rest) := List.perm_middle.symm

/-- **A map does not depend on the order its members come in**, when their keys are distinct. -/
theorem map_perm {kvs kvs' : List (String × Value)} (reordered : kvs.Perm kvs')
    (distinct : (kvs.map (·.1)).Nodup) : Value.map kvs = Value.map kvs' := by
  have distinct' : (kvs'.map (·.1)).Nodup := (reordered.map _).nodup_iff.mp distinct
  have start : Ascending ([] : List (String × Value)) := List.Pairwise.nil
  obtain ⟨sorted, perm⟩ := foldl_bindAscending start distinct (by simp)
  obtain ⟨sorted', perm'⟩ := foldl_bindAscending start distinct' (by simp)
  rw [map_eq, map_eq]
  congr 1
  -- both are ascending arrangements of the same members, and there is only one
  refine List.Perm.eq_of_pairwise ?_ sorted sorted' ?_
  · intro a b _ _ ab ba
    exact absurd (lt_trans ab ba) (lt_irrefl _)
  · simpa using perm.trans (reordered.trans perm'.symm)

end Value

namespace Yaml.Datum

/-- With distinct keys no member is dropped. -/
theorem keyed_of_nodup {α : Type} {ms : List (String × α)} (distinct : (ms.map (·.1)).Nodup) :
    keyed ms = ms := by
  induction ms with
  | nil => rfl
  | cons kv rest ih =>
    simp only [List.map_cons, List.nodup_cons] at distinct
    simp only [keyed, ih distinct.2, List.cons.injEq, true_and]
    refine List.filter_eq_self.mpr fun p mem => ?_
    have apart : p.1 ≠ kv.1 := fun same => distinct.1 (same ▸ List.mem_map_of_mem mem)
    simpa using apart

/-- Members written as a JSON object do not depend on their order, when their keys are
distinct. -/
theorem writeMembers_perm {ms ms' : List (String × Except String Value)} (reordered : ms.Perm ms')
    (distinct : (ms.map (·.1)).Nodup) : writeMembers ms = writeMembers ms' := by
  have distinct' := (reordered.map (·.1)).nodup_iff.mp distinct
  unfold writeMembers
  rw [keyed_of_nodup distinct, keyed_of_nodup distinct']
  have trans : ∀ a b c : String × Except String Value,
      decide (a.1 ≤ b.1) = true → decide (b.1 ≤ c.1) = true → decide (a.1 ≤ c.1) = true := by
    simp only [decide_eq_true_eq]
    exact fun _ _ _ => le_trans
  have total : ∀ a b : String × Except String Value,
      (decide (a.1 ≤ b.1) || decide (b.1 ≤ a.1)) = true := by
    simp only [Bool.or_eq_true, decide_eq_true_eq]
    exact fun a b => le_total _ _
  congr 2
  -- both are sorted arrangements of the same members, and with distinct keys there is one
  refine List.Perm.eq_of_pairwise ?_ (List.pairwise_mergeSort trans total ms)
    (List.pairwise_mergeSort trans total ms')
    ((List.mergeSort_perm ms _).trans (reordered.trans (List.mergeSort_perm ms' _).symm))
  intro a b memA memB ab ba
  simp only [decide_eq_true_eq] at ab ba
  have memA' := (List.mergeSort_perm ms _).subset memA
  have memB' := reordered.symm.subset ((List.mergeSort_perm ms' _).subset memB)
  exact List.inj_on_of_nodup_map distinct memA' memB' (le_antisymm ab ba)

theorem membersToJson_eq (e : List (String × Datum)) :
    membersToJson e = e.map fun kv => (kv.1, kv.2.toJson) := by
  induction e with
  | nil => rfl
  | cons kv rest ih => simp [membersToJson, ih]

theorem anyMembersToJson_eq (e : List (Datum × Datum)) :
    anyMembersToJson e = e.map fun kv => (kv.1.plain, kv.2.toJson) := by
  induction e with
  | nil => rfl
  | cons kv rest ih => simp [anyMembersToJson, ih]

/-- **A YAML map with string keys is read alike in any order.** -/
theorem toJson_strMap_perm {e e' : List (String × Datum)} (reordered : e.Perm e')
    (distinct : (e.map (·.1)).Nodup) : toJson (.strMap e) = toJson (.strMap e') := by
  rw [toJson, toJson, membersToJson_eq, membersToJson_eq]
  exact writeMembers_perm (reordered.map _) (by rw [List.map_map]; exact distinct)

/-- **A YAML map with keys of any kind is read alike in any order**, when the plain forms of
its keys are distinct. -/
theorem toJson_anyMap_perm {e e' : List (Datum × Datum)} (reordered : e.Perm e')
    (distinct : (e.map (·.1.plain)).Nodup) : toJson (.anyMap e) = toJson (.anyMap e') := by
  rw [toJson, toJson, anyMembersToJson_eq, anyMembersToJson_eq]
  exact writeMembers_perm (reordered.map _) (by rw [List.map_map]; exact distinct)

end Yaml.Datum

end JobEngine
