import Mathlib.Tactic.Ring
import JobEngine.World.Engine

/-!
# Job identifiers are minted in increasing order

An identifier generator remembers the timestamp and counter of the last identifier it minted.
Each call reads the clock and keeps the low 48 bits of the reading. When that is ahead of the
timestamp, the generator moves to it with the counter at zero. Otherwise it counts up, also when
the clock went backwards; when the counter is exhausted it borrows the next millisecond instead,
again with the counter at zero. It moves on whether or not the entropy read that follows
succeeds.

This module proves that every call moves the pair (timestamp, counter) strictly forward in
lexicographic order, as long as no call has to borrow a millisecond past the last 48-bit one,
and carries that order to the sixteen bytes of the identifiers, to their hexadecimal text, and
to the listing of a job table, which sorts the records by that text.

## Main Definitions

* `IdGenerator.WellFormed` — a timestamp of 48 bits and a counter of 16.
* `IdGenerator.Exhausted` — the one position whose next call wraps the timestamp to zero.
* `IdGenerator.Advances` — what one call does to the generator's position.
* `JobId.Minted` — the layout of a minted identifier.
* `IdGenerator.mintAll` — the identifiers that successive calls mint.
* `IdGenerator.MintsInOrder` — what a run of calls guarantees.

## Main Statements

* `IdGenerator.next_advances` — one call moves the position forward.
* `IdGenerator.minted_of_next` — an identifier carries the position of the call that minted it.
* `JobId.bytes_lt_of_position_lt`, `Hex.encode_lt_encode` — the order carries to the bytes and
  to their text.
* `IdGenerator.mints_in_order` — every run of calls mints increasing identifiers, and a table
  sorted by id lists them in minting order.

## Design Notes

The order is stated on `Nat × Nat` as `Prod.Lex (· < ·) (· < ·)`: the product carries the
componentwise order in Mathlib, which is not the one meant. A run is a list of clock readings;
the generator after the first `k` calls is `(g.mintAll (clock.take k)).2`, so statements about
the `k`-th call need no second trace of the run.
-/

namespace JobEngine

/-! ## Big-endian bytes -/

namespace JobId

@[simp] theorem length_toBigEndian (n v : Nat) : (toBigEndian n v).length = n := by
  simp [toBigEndian]

/-- The most significant byte comes first. -/
theorem toBigEndian_succ (n v : Nat) :
    toBigEndian (n + 1) v = (v / 256 ^ n % 256).toUInt8 :: toBigEndian n v := by
  simp [toBigEndian, List.range_succ]

/-- Reading with a running value: each byte shifts what was read by one byte. -/
theorem foldl_bigEndian (acc : Nat) (bs : List UInt8) :
    bs.foldl (fun acc b => acc * 256 + b.toNat) acc = acc * 256 ^ bs.length + bigEndian bs := by
  induction bs generalizing acc with
  | nil => simp [bigEndian]
  | cons b bs ih =>
    have first := ih (acc * 256 + b.toNat)
    have alone := ih (0 * 256 + b.toNat)
    simp only [bigEndian, List.foldl_cons, List.length_cons] at first alone ⊢
    rw [first, alone, pow_succ]
    ring

theorem bigEndian_cons (b : UInt8) (bs : List UInt8) :
    bigEndian (b :: bs) = b.toNat * 256 ^ bs.length + bigEndian bs := by
  have := foldl_bigEndian (0 * 256 + b.toNat) bs
  simpa [bigEndian] using this

/-- Reading back the `n` bytes of `v` gives `v` modulo `256 ^ n`. -/
theorem bigEndian_toBigEndian (n v : Nat) : bigEndian (toBigEndian n v) = v % 256 ^ n := by
  induction n with
  | zero => simp [toBigEndian, bigEndian, Nat.mod_one]
  | succ n ih =>
    have byte : (v / 256 ^ n % 256).toUInt8.toNat = v / 256 ^ n % 256 :=
      UInt8.toNat_ofNat_of_lt' (Nat.mod_lt _ (by decide))
    rw [toBigEndian_succ, bigEndian_cons, byte, length_toBigEndian, ih, Nat.mod_pow_succ]
    ring

/-- A lexicographic order between lists of one length survives appending anything. -/
theorem lex_append_of_length_eq {α : Type} {r : α → α → Prop} {xs ys : List α}
    (lt : List.Lex r xs ys) (same : xs.length = ys.length) (us vs : List α) :
    List.Lex r (xs ++ us) (ys ++ vs) := by
  induction lt with
  | nil => simp at same
  | rel head => exact .rel head
  | cons _ ih => exact .cons (ih (by simpa using same))

/-- Numbers below `256 ^ n` are ordered as their `n` big-endian bytes. -/
theorem toBigEndian_lt {n a b : Nat} (lt : a % 256 ^ n < b % 256 ^ n) :
    toBigEndian n a < toBigEndian n b := by
  induction n generalizing a b with
  | zero => simp [Nat.mod_one] at lt
  | succ n ih =>
    rw [toBigEndian_succ, toBigEndian_succ]
    rw [Nat.mod_pow_succ, Nat.mod_pow_succ] at lt
    have lowA : a % 256 ^ n < 256 ^ n := Nat.mod_lt _ (Nat.pow_pos (by decide))
    have lowB : b % 256 ^ n < 256 ^ n := Nat.mod_lt _ (Nat.pow_pos (by decide))
    have highA : a / 256 ^ n % 256 < 256 := Nat.mod_lt _ (by decide)
    have highB : b / 256 ^ n % 256 < 256 := Nat.mod_lt _ (by decide)
    -- the high bytes decide, unless they are equal
    rcases Nat.lt_trichotomy (a / 256 ^ n % 256) (b / 256 ^ n % 256) with high | high | high
    · apply List.Lex.rel
      rw [UInt8.lt_iff_toNat_lt, UInt8.toNat_ofNat_of_lt' highA, UInt8.toNat_ofNat_of_lt' highB]
      exact high
    · rw [high]
      exact List.Lex.cons (ih (by rw [high] at lt; omega))
    · have above := Nat.mul_le_mul_left (256 ^ n) (Nat.succ_le_of_lt high)
      rw [Nat.mul_succ] at above
      omega

/-- An identifier's position: its timestamp, then its counter. -/
def position (id : JobId) : Nat × Nat := (id.millis, id.counter)

/-- **The layout of a minted identifier**: six bytes of timestamp, two of counter and eight of
entropy, with the timestamp below `2 ^ 48` and the counter below `2 ^ 16`. -/
structure Minted (id : JobId) : Prop where
  millis_lt : id.millis < 2 ^ 48
  counter_lt : id.counter < 2 ^ 16
  layout : ∃ tail : List UInt8, tail.length = 8 ∧
    id.bytes = toBigEndian 6 id.millis ++ toBigEndian 2 id.counter ++ tail

theorem Minted.length_bytes {id : JobId} (minted : id.Minted) : id.bytes.length = 16 := by
  obtain ⟨tail, eight, layout⟩ := minted.layout
  simp [layout, eight]

/-- **Minted identifiers are ordered as their positions**: the timestamp bytes decide, and
between equal timestamps the counter bytes. -/
theorem bytes_lt_of_position_lt {a b : JobId} (ma : a.Minted) (mb : b.Minted)
    (lt : Prod.Lex (· < ·) (· < ·) a.position b.position) : a.bytes < b.bytes := by
  obtain ⟨ta, -, la⟩ := ma.layout
  obtain ⟨tb, -, lb⟩ := mb.layout
  have six : (256 : Nat) ^ 6 = 2 ^ 48 := by norm_num
  have two : (256 : Nat) ^ 2 = 2 ^ 16 := by norm_num
  rw [la, lb, List.append_assoc, List.append_assoc]
  rcases Prod.lex_def.mp lt with millis | ⟨same, counter⟩
  · refine lex_append_of_length_eq (toBigEndian_lt ?_) (by simp) _ _
    rw [six, Nat.mod_eq_of_lt ma.millis_lt, Nat.mod_eq_of_lt mb.millis_lt]
    exact millis
  · rw [show a.millis = b.millis from same]
    refine List.append_left_lt (lex_append_of_length_eq (toBigEndian_lt ?_) (by simp) _ _)
    rw [two, Nat.mod_eq_of_lt ma.counter_lt, Nat.mod_eq_of_lt mb.counter_lt]
    exact counter

end JobId

/-! ## Hexadecimal text keeps the order -/

namespace Hex

theorem hexDigit_lt : ∀ n < 16, ∀ m < 16, n < m → Text.hexDigit n < Text.hexDigit m := by
  decide

/-- The two digits of a byte. -/
theorem toList_hexDigits (n : Nat) :
    (Text.hexDigits 2 n).toList = [Text.hexDigit (n / 16 % 16), Text.hexDigit (n % 16)] := by
  simp [Text.hexDigits, List.range_succ]

/-- The digits of a smaller byte come first. -/
theorem hexDigits_lt {a b : UInt8} (lt : a < b) :
    (Text.hexDigits 2 a.toNat).toList < (Text.hexDigits 2 b.toNat).toList := by
  rw [toList_hexDigits, toList_hexDigits]
  rw [UInt8.lt_iff_toNat_lt] at lt
  have boundA := a.toNat_lt
  have boundB := b.toNat_lt
  -- the high digits decide, unless they are equal
  by_cases high : a.toNat / 16 % 16 = b.toNat / 16 % 16
  · rw [high]
    exact .cons (.rel (hexDigit_lt _ (Nat.mod_lt _ (by decide)) _ (Nat.mod_lt _ (by decide))
      (by omega)))
  · exact .rel (hexDigit_lt _ (Nat.mod_lt _ (by decide)) _ (Nat.mod_lt _ (by decide)) (by omega))

/-- **The text of smaller bytes is smaller**: each byte is written as two digits, in the
order of the bytes. -/
theorem encode_lt_encode {as bs : List UInt8} (lt : as < bs) : encode as < encode bs := by
  rw [String.lt_iff]
  simp only [encode, String.toList_join, List.flatMap_map]
  induction lt with
  | nil => simp [toList_hexDigits]
  | rel head =>
    simp only [List.flatMap_cons]
    exact JobId.lex_append_of_length_eq (hexDigits_lt head) (by simp [toList_hexDigits]) _ _
  | cons _ ih =>
    simp only [List.flatMap_cons]
    exact List.append_left_lt ih

end Hex

/-! ## One call -/

namespace IdGenerator

/-- The generator's position: the timestamp and counter of its last identifier. -/
def position (g : IdGenerator) : Nat × Nat := (g.last, g.counter)

/-- A generator whose timestamp fits in 48 bits and whose counter fits in 16, as every
generator's does from its creation on. -/
structure WellFormed (g : IdGenerator) : Prop where
  last_lt : g.last < 2 ^ 48
  counter_lt : g.counter < 2 ^ 16

/-- The one position from which the next call borrows a millisecond past the last 48-bit
timestamp, and so wraps to zero. -/
def Exhausted (g : IdGenerator) : Prop := g.last = timestampMask ∧ g.counter = 2 ^ 16 - 1

instance : DecidablePred Exhausted := fun _ => inferInstanceAs (Decidable (_ ∧ _))

/-- **What one call at clock reading `ms` does to the generator**: it stays well formed, its
position moves strictly forward, its timestamp is at least the masked reading, and its counter
is zero exactly when its timestamp moved. -/
structure Advances (ms : Int) (g g' : IdGenerator) : Prop where
  wellFormed : g'.WellFormed
  increases : Prod.Lex (· < ·) (· < ·) g.position g'.position
  reachesClock : (ms % 2 ^ 48).toNat ≤ g'.last
  restarts : g'.counter = 0 ↔ g.last < g'.last

/-- The position after a call, by the three cases of the generator. -/
theorem next_position (g : IdGenerator) (ms : Int) :
    (g.next ms).2.position =
      if g.last < (ms % 2 ^ 48).toNat then ((ms % 2 ^ 48).toNat, 0)
      else if g.counter = 2 ^ 16 - 1 then ((g.last + 1) % 2 ^ 48, 0)
      else (g.last, g.counter + 1) := by
  have pow48 : Int.pow 2 48 = 2 ^ 48 := rfl
  have pow16 : Nat.pow 2 16 = 2 ^ 16 := rfl
  have wrap48 : Nat.pow 2 48 = 2 ^ 48 := rfl
  simp only [next, pow48, pow16, wrap48, gt_iff_lt]
  split <;> split_ifs <;> rfl

/-- **One call moves a well-formed generator forward**, unless it is exhausted. -/
theorem next_advances {g : IdGenerator} (wf : g.WellFormed) (room : ¬ g.Exhausted) (ms : Int) :
    Advances ms g (g.next ms).2 := by
  have masked : (ms % 2 ^ 48).toNat < 2 ^ 48 := by omega
  have moved := next_position g ms
  have notBoth : ¬ (g.last = 2 ^ 48 - 1 ∧ g.counter = 2 ^ 16 - 1) := room
  obtain ⟨lastLt, counterLt⟩ := wf
  generalize (g.next ms).2 = g' at moved ⊢
  -- the clock is ahead; the counter is exhausted and a millisecond is borrowed; or it counts up.
  -- Each case names the new position, and the four facts are arithmetic on it.
  split_ifs at moved <;>
  · obtain ⟨last, counter⟩ := Prod.mk.inj moved
    exact ⟨⟨by omega, by omega⟩, Prod.lex_def.mpr (by simp only [position]; omega), by omega,
      by omega⟩

/-- The eight bytes of a successful entropy read. -/
theorem take8_length {e : Entropy} {tail : List UInt8} (drawn : e.take8.1 = .ok tail) :
    tail.length = 8 := by
  unfold Entropy.take8 at drawn
  split at drawn
  · cases drawn
    simp
  · split_ifs at drawn
    · cases drawn
      simp [*]

/-- **An identifier carries the position of the call that minted it**, in its layout. -/
theorem minted_of_next {g : IdGenerator} {ms : Int} {id : JobId}
    (wf : (g.next ms).2.WellFormed) (ok : (g.next ms).1 = .ok id) :
    id.Minted ∧ id.position = (g.next ms).2.position := by
  obtain ⟨tail, eight, bytes⟩ : ∃ tail : List UInt8, tail.length = 8 ∧
      id.bytes = JobId.toBigEndian 6 (g.next ms).2.last ++
        JobId.toBigEndian 2 (g.next ms).2.counter ++ tail := by
    simp only [next] at ok ⊢
    split at ok
    · next tail drawn =>
      cases ok
      exact ⟨tail, take8_length drawn, rfl⟩
    · cases ok
  have millis : id.millis = (g.next ms).2.last := by
    simp only [JobId.millis, bytes, List.append_assoc,
      List.take_left' (JobId.length_toBigEndian _ _), JobId.bigEndian_toBigEndian]
    exact Nat.mod_eq_of_lt wf.last_lt
  have counter : id.counter = (g.next ms).2.counter := by
    simp only [JobId.counter, bytes, List.append_assoc,
      List.drop_left' (JobId.length_toBigEndian _ _),
      List.take_left' (JobId.length_toBigEndian _ _), JobId.bigEndian_toBigEndian]
    exact Nat.mod_eq_of_lt wf.counter_lt
  refine ⟨⟨?_, ?_, tail, eight, ?_⟩, ?_⟩
  · exact millis ▸ wf.last_lt
  · exact counter ▸ wf.counter_lt
  · rw [millis, counter, bytes]
  · simp [JobId.position, position, millis, counter]

/-! ## A run of calls -/

/-- The identifiers that successive calls at the clock readings `clock` mint, in order, the
calls whose entropy read failed left out, and the generator after the last call. -/
def mintAll (g : IdGenerator) : List Int → List JobId × IdGenerator
  | [] => ([], g)
  | ms :: clock =>
    let (minted, g') := g.next ms
    let (ids, g'') := g'.mintAll clock
    (match minted with
      | .ok id => id :: ids
      | .error _ => ids, g'')

@[simp] theorem mintAll_nil (g : IdGenerator) : g.mintAll [] = ([], g) := rfl

theorem mintAll_cons (g : IdGenerator) (ms : Int) (clock : List Int) :
    g.mintAll (ms :: clock) =
      ((match (g.next ms).1 with
        | .ok id => [id]
        | .error _ => []) ++ ((g.next ms).2.mintAll clock).1,
       ((g.next ms).2.mintAll clock).2) := by
  simp only [mintAll]
  split <;> rfl

/-- The generator after the calls of `clock` and then one more call. -/
theorem mintAll_take_succ (g : IdGenerator) {clock : List Int} {k : Nat} (h : k < clock.length) :
    (g.mintAll (clock.take (k + 1))).2 = ((g.mintAll (clock.take k)).2.next clock[k]).2 := by
  induction clock generalizing g k with
  | nil => simp at h
  | cons ms clock ih =>
    cases k with
    | zero => simp [mintAll_cons]
    | succ k =>
      simp only [List.take_succ_cons, mintAll_cons, List.getElem_cons_succ]
      exact ih _ (by simpa using h)

/-- No call of the run starts from the exhausted position. -/
def NeverExhausted (g : IdGenerator) (clock : List Int) : Prop :=
  ∀ k < clock.length, ¬ (g.mintAll (clock.take k)).2.Exhausted

instance (g : IdGenerator) (clock : List Int) : Decidable (g.NeverExhausted clock) :=
  inferInstanceAs (Decidable (∀ k < clock.length, _))

theorem NeverExhausted.head {g : IdGenerator} {ms : Int} {clock : List Int}
    (room : g.NeverExhausted (ms :: clock)) : ¬ g.Exhausted :=
  room 0 (by simp)

theorem NeverExhausted.tail {g : IdGenerator} {ms : Int} {clock : List Int}
    (room : g.NeverExhausted (ms :: clock)) : (g.next ms).2.NeverExhausted clock := by
  intro k h
  have := room (k + 1) (by simpa using h)
  simpa [mintAll_cons] using this

/-- Every generator of a run is well formed. -/
theorem wellFormed_mintAll {g : IdGenerator} (wf : g.WellFormed) {clock : List Int}
    (room : g.NeverExhausted clock) (k : Nat) : (g.mintAll (clock.take k)).2.WellFormed := by
  induction clock generalizing g k with
  | nil => simpa using wf
  | cons ms clock ih =>
    cases k with
    | zero => simpa using wf
    | succ k =>
      simp only [List.take_succ_cons, mintAll_cons]
      exact ih (next_advances wf room.head ms).wellFormed room.tail k

theorem lex_trans {a b c : Nat × Nat} (ab : Prod.Lex (· < ·) (· < ·) a b)
    (bc : Prod.Lex (· < ·) (· < ·) b c) : Prod.Lex (· < ·) (· < ·) a c := by
  rw [Prod.lex_def] at ab bc ⊢
  omega

/-- **The run lemma**: every identifier a run mints is laid out as minted and lies beyond the
starting position, and the identifiers come in strictly increasing positions. -/
theorem mintAll_increasing {g : IdGenerator} (wf : g.WellFormed) {clock : List Int}
    (room : g.NeverExhausted clock) :
    (∀ id ∈ (g.mintAll clock).1,
        id.Minted ∧ Prod.Lex (· < ·) (· < ·) g.position id.position) ∧
      (g.mintAll clock).1.Pairwise
        fun a b => Prod.Lex (· < ·) (· < ·) a.position b.position := by
  induction clock generalizing g with
  | nil => simp
  | cons ms clock ih =>
    have step := next_advances wf room.head ms
    obtain ⟨later, ordered⟩ := ih step.wellFormed room.tail
    -- the identifiers minted after the first call lie beyond the first call's position
    have beyond : ∀ id ∈ ((g.next ms).2.mintAll clock).1,
        id.Minted ∧ Prod.Lex (· < ·) (· < ·) g.position id.position := fun id member =>
      ⟨(later id member).1, lex_trans step.increases (later id member).2⟩
    rw [mintAll_cons]
    split
    · next first ok =>
      have carried := minted_of_next step.wellFormed ok
      refine ⟨?_, List.pairwise_cons.mpr ⟨?_, ordered⟩⟩
      · intro id member
        rcases List.mem_cons.mp member with rfl | member
        · exact ⟨carried.1, carried.2 ▸ step.increases⟩
        · exact beyond id member
      · intro id member
        exact carried.2 ▸ (later id member).2
    · exact ⟨beyond, ordered⟩

/-! ## What a run guarantees -/

/-- **What a run of calls guarantees**, for the calls at the clock readings `clock` from `g`. -/
structure MintsInOrder (g : IdGenerator) (clock : List Int) : Prop where
  /-- Every call moves the generator forward, to at least the masked clock reading, with the
  counter at zero exactly when the timestamp moved, whether or not its entropy read fails. -/
  calls : ∀ k (h : k < clock.length),
    Advances clock[k] (g.mintAll (clock.take k)).2 (g.mintAll (clock.take (k + 1))).2
  /-- The identifier of a call whose entropy read succeeds is laid out as minted, sixteen
  bytes long, and carries the generator's position after the call. -/
  carries : ∀ k (h : k < clock.length) (id : JobId),
    ((g.mintAll (clock.take k)).2.next clock[k]).1 = .ok id →
      id.Minted ∧ id.bytes.length = 16 ∧
        id.position = (g.mintAll (clock.take (k + 1))).2.position
  /-- The identifiers minted have strictly increasing positions, ... -/
  positions : (g.mintAll clock).1.Pairwise
    fun a b => Prod.Lex (· < ·) (· < ·) a.position b.position
  /-- ... strictly increasing bytes ... -/
  bytes : (g.mintAll clock).1.Pairwise fun a b => a.bytes < b.bytes
  /-- ... and strictly increasing texts, so they are distinct. -/
  texts : (g.mintAll clock).1.Pairwise fun a b => a.text < b.text
  distinct : ((g.mintAll clock).1.map JobId.text).Nodup
  /-- A venue whose table holds records of some of these identifiers, in any order, lists them
  in the order they were minted. -/
  listed : ∀ (x : Venue) (ids : List String), ids.Sublist ((g.mintAll clock).1.map JobId.text) →
    (x.table.map (·.record.id)).Perm ids → x.records.map (·.id) = ids

/-- Sorting records by id puts records whose ids are strictly increasing in that order. -/
theorem records_sorted {x : Venue} {ids : List String} (increasing : ids.Pairwise (· < ·))
    (held : (x.table.map (·.record.id)).Perm ids) : x.records.map (·.id) = ids := by
  have sorted : (x.records.map (·.id)).Pairwise (· ≤ ·) := by
    have := @List.pairwise_mergeSort _ (fun a b : Record => decide (a.id ≤ b.id))
      (fun _ _ _ ab bc => by simpa using String.le_trans (by simpa using ab) (by simpa using bc))
      (fun a b => by simpa using String.le_total a.id b.id) (x.table.map (·.record))
    simpa [Venue.records, List.pairwise_map] using this
  have perm : (x.records.map (·.id)).Perm ids := by
    have sortedPerm := (List.mergeSort_perm (x.table.map (·.record))
      fun a b : Record => decide (a.id ≤ b.id)).map (·.id)
    rw [List.map_map] at sortedPerm
    exact sortedPerm.trans held
  exact perm.eq_of_pairwise (fun a b _ _ ab ba => String.le_antisymm ab ba) sorted
    (increasing.imp fun lt => Std.le_of_lt lt)

/-- **Job identifiers are minted in increasing order.** For every well-formed generator (a new
one among them) and every sequence of clock readings — decreasing, repeated, anything — in which
no call has to borrow a millisecond past the last 48-bit timestamp, every call moves the
generator strictly forward, and the identifiers minted have strictly increasing positions,
bytes and texts; a job table sorted by id lists them in minting order. -/
theorem mints_in_order {g : IdGenerator} (wf : g.WellFormed) {clock : List Int}
    (room : g.NeverExhausted clock) : g.MintsInOrder clock := by
  obtain ⟨layout, positions⟩ := mintAll_increasing wf room
  have bytes : (g.mintAll clock).1.Pairwise fun a b => a.bytes < b.bytes :=
    positions.imp_of_mem fun ma mb lt => JobId.bytes_lt_of_position_lt (layout _ ma).1
      (layout _ mb).1 lt
  have texts : (g.mintAll clock).1.Pairwise fun a b => a.text < b.text :=
    bytes.imp Hex.encode_lt_encode
  have textsSorted : ((g.mintAll clock).1.map JobId.text).Pairwise (· < ·) :=
    List.pairwise_map.mpr texts
  refine ⟨?_, ?_, positions, bytes, texts, ?_, ?_⟩
  · intro k h
    rw [mintAll_take_succ g h]
    exact next_advances (wellFormed_mintAll wf room k) (room k h) clock[k]
  · intro k h id ok
    rw [mintAll_take_succ g h]
    have carried := minted_of_next
      (next_advances (wellFormed_mintAll wf room k) (room k h) clock[k]).wellFormed ok
    exact ⟨carried.1, carried.1.length_bytes, carried.2⟩
  · exact textsSorted.imp String.ne_of_lt
  · intro x ids sub held
    exact records_sorted (textsSorted.sublist sub) held

/-- A fresh generator whose clock repeats a reading, then goes back, then jumps ahead. -/
theorem mints_in_order_fresh :
    ({ entropy := .counting 7 } : IdGenerator).WellFormed ∧
      ({ entropy := .counting 7 } : IdGenerator).NeverExhausted [5, 5, 3, 9] ∧
      ({ entropy := .counting 7 } : IdGenerator).MintsInOrder [5, 5, 3, 9] :=
  have wf : ({ entropy := .counting 7 } : IdGenerator).WellFormed := ⟨by decide, by decide⟩
  have room : ({ entropy := .counting 7 } : IdGenerator).NeverExhausted [5, 5, 3, 9] := by
    decide
  ⟨wf, room, mints_in_order wf room⟩

end IdGenerator

end JobEngine
