import JobEngine.Proofs.Job.IdOrder

/-!
# Job identifiers as text

A job identifier is written as the 32 lowercase hexadecimal digits of its sixteen bytes, and
read back from any text of 32 bytes that are all hexadecimal digits, in either case. Reading
goes through the text's UTF-8 bytes two at a time.

This module proves that writing and reading are inverse on sixteen-byte identifiers, that
reading accepts exactly the texts of 32 hexadecimal digits and that such a text is written back
in lowercase, and that a minted identifier carries the timestamp and counter of the call that
minted it.

## Main Statements

* `Utf8.toList_toUTF8` — the bytes of a text are its characters' encodings in turn.
* `Hex.decodeBytes_digitBytes`, `Hex.decodeBytes_ok_iff`, `Hex.toList_encode_of_decodeBytes` —
  reading the digits of bytes, when reading succeeds, and what is written back.
* `JobId.parse_text`, `JobId.parse_ok_iff`, `JobId.text_of_parse` — the same for identifiers.
* `IdGenerator.reads_position` — a minted identifier reads back its generator's position.
* `JobId.encoding_round_trip` — the four together.

## Design Notes

The facts about single bytes and digits are checked over all 256 byte values by `decide`, as
bounded quantifiers over `Nat`; everything else is induction over the byte list, two bytes at a
time as the reader takes them.
-/

namespace JobEngine

namespace Utf8

theorem toList_loop (bs : ByteArray) (i : Nat) (r : List UInt8) :
    ByteArray.toList.loop bs i r = r.reverse ++ bs.data.toList.drop i := by
  fun_induction ByteArray.toList.loop bs i r with
  | case1 i r inside ih =>
    have listed : i < bs.data.toList.length := by simpa using inside
    have byte : bs.get! i = bs.data.toList[i] := by
      simp [ByteArray.get!, inside]
    have cons : bs.data.toList.drop i = bs.data.toList[i] :: bs.data.toList.drop (i + 1) :=
      List.drop_eq_getElem_cons listed
    rw [ih, cons, byte]
    simp
  | case2 i r outside =>
    have : bs.data.toList.length ≤ i := by simpa using outside
    simp [List.drop_eq_nil_of_le this]

theorem toList_eq (bs : ByteArray) : bs.toList = bs.data.toList := by
  simp [ByteArray.toList, toList_loop]

/-- The bytes of a text are its characters' encodings in turn. -/
theorem toList_toUTF8 (s : String) : s.toUTF8.toList = s.toList.flatMap String.utf8EncodeChar := by
  rw [String.toUTF8, ← String.utf8Encode_toList, toList_eq, List.utf8Encode,
    List.toList_data_toByteArray]

theorem utf8ByteSize_eq (s : String) : s.utf8ByteSize = s.toUTF8.toList.length := by
  rw [toList_eq, Array.length_toList]
  rfl

/-- A character below 128 is one byte, its code. -/
theorem utf8EncodeChar_of_lt {c : Char} (ascii : c.toNat < 128) :
    String.utf8EncodeChar c = [c.toNat.toUInt8] := by
  have small : c.val.toNat ≤ 127 := by
    have : c.toNat = c.val.toNat := rfl
    omega
  simp only [String.utf8EncodeChar, if_pos small]
  rfl

/-- Every byte of a character from 128 up is at least 128. -/
theorem le_of_mem_utf8EncodeChar {c : Char} (wide : 128 ≤ c.toNat) {b : UInt8}
    (mem : b ∈ String.utf8EncodeChar c) : 128 ≤ b.toNat := by
  have large : ¬ c.val.toNat ≤ 127 := by
    have : c.toNat = c.val.toNat := rfl
    omega
  simp only [String.utf8EncodeChar, if_neg large] at mem
  split_ifs at mem <;> simp only [List.mem_cons, List.not_mem_nil, or_false] at mem <;>
    rcases mem with rfl | rfl | rfl | rfl <;> simp [UInt8.toNat_ofNat] <;> omega

end Utf8

/-- Lowering a text lowers each of its characters. -/
theorem toList_toLower (s : String) : s.toLower.toList = s.toList.map Char.toLower :=
  String.toList_map

namespace Hex

/-! ## Digits -/

/-- The byte of a digit character. -/
theorem digit_of_byte : ∀ n < 16, digitValue? (Text.hexDigit n).toNat.toUInt8 = some n := by
  decide +kernel

theorem hexDigit_ascii : ∀ n < 16, (Text.hexDigit n).toNat < 128 := by
  decide +kernel

/-- A byte is a digit exactly when, read as a character, it is a hexadecimal digit. -/
theorem digitValue?_isSome : ∀ n < 256,
    (digitValue? n.toUInt8).isSome = (Char.ofNat n).isHexDigit := by
  decide +kernel

/-- A digit byte is written back as its lowercase character. -/
theorem hexDigit_of_digitValue? : ∀ n < 256, ∀ a < 16,
    digitValue? n.toUInt8 = some a → Text.hexDigit a = (Char.ofNat n).toLower := by
  decide +kernel

theorem digitValue?_lt {b : UInt8} {a : Nat} (digit : digitValue? b = some a) : a < 16 := by
  dsimp only [digitValue?] at digit
  split_ifs at digit <;> cases digit <;> simp_all only [Bool.and_eq_true, decide_eq_true_eq] <;>
    omega

theorem digitValue?_of_le {b : UInt8} (wide : 128 ≤ b.toNat) : digitValue? b = none := by
  dsimp only [digitValue?]
  split_ifs <;> simp_all only [Bool.and_eq_true, decide_eq_true_eq] <;> omega

/-! ## Writing -/

/-- The two digit bytes of a byte, high digit first. -/
def digitBytes (b : UInt8) : List UInt8 :=
  [(Text.hexDigit (b.toNat / 16 % 16)).toNat.toUInt8, (Text.hexDigit (b.toNat % 16)).toNat.toUInt8]

theorem toList_encode (bs : List UInt8) :
    (encode bs).toList = bs.flatMap fun b => [Text.hexDigit (b.toNat / 16 % 16), Text.hexDigit (b.toNat % 16)] := by
  simp [encode, String.toList_join, List.flatMap_map, toList_hexDigits]

theorem toUTF8_encode (bs : List UInt8) : (encode bs).toUTF8.toList = bs.flatMap digitBytes := by
  rw [Utf8.toList_toUTF8, toList_encode, List.flatMap_assoc]
  congr 1
  funext b
  have high := hexDigit_ascii (b.toNat / 16 % 16) (Nat.mod_lt _ (by decide))
  have low := hexDigit_ascii (b.toNat % 16) (Nat.mod_lt _ (by decide))
  simp [digitBytes, Utf8.utf8EncodeChar_of_lt high, Utf8.utf8EncodeChar_of_lt low]

theorem utf8ByteSize_encode (bs : List UInt8) : (encode bs).utf8ByteSize = 2 * bs.length := by
  rw [Utf8.utf8ByteSize_eq, toUTF8_encode]
  induction bs with
  | nil => rfl
  | cons b bs ih => simp [digitBytes, ih]; omega

/-- **Reading what was written gives the bytes back.** -/
theorem decodeBytes_digitBytes (bs : List UInt8) : decodeBytes (bs.flatMap digitBytes) = .ok bs := by
  induction bs with
  | nil => rfl
  | cons b bs ih =>
    have high := digit_of_byte (b.toNat / 16 % 16) (Nat.mod_lt _ (by decide))
    have low := digit_of_byte (b.toNat % 16) (Nat.mod_lt _ (by decide))
    have whole : (b.toNat / 16 % 16 * 16 + b.toNat % 16).toUInt8 = b := by
      have := b.toNat_lt
      rw [show b.toNat / 16 % 16 * 16 + b.toNat % 16 = b.toNat by omega]
      exact UInt8.ofNat_toNat
    simp only [List.flatMap_cons, digitBytes, List.cons_append, List.nil_append, decodeBytes,
      high, low, ih, whole]
    rfl

/-! ## Reading -/

/-- **Reading succeeds exactly on an even number of digit bytes.** -/
theorem decodeBytes_ok_iff (bs : List UInt8) :
    (∃ out, decodeBytes bs = .ok out) ↔ 2 ∣ bs.length ∧ ∀ b ∈ bs, (digitValue? b).isSome := by
  fun_induction decodeBytes bs with
  | case1 => simp
  | case2 p none => simp [none]
  | case3 p a _ => simp
  | case4 p q rest none => simp [none]
  | case5 p q rest none _ => simp [none]
  | case6 p q rest a b low high ih =>
    have rest_iff : (∃ out, (do let tail ← decodeBytes rest; pure ((a * 16 + b).toUInt8 :: tail) :
        Except HexFault (List UInt8)) = .ok out) ↔ ∃ tail, decodeBytes rest = .ok tail := by
      cases decodeBytes rest <;> simp [bind, Except.bind, pure, Except.pure]
    rw [rest_iff, ih]
    simp [high, low, Nat.dvd_add_self_right]

/-- **Reading then writing lowers the case**: each digit is written back in lowercase. -/
theorem toList_encode_of_decodeBytes {bs out : List UInt8} (read : decodeBytes bs = .ok out) :
    (encode out).toList = bs.map fun b => (Char.ofNat b.toNat).toLower := by
  rw [toList_encode]
  fun_induction decodeBytes bs generalizing out with
  | case1 => cases read; rfl
  | case2 | case3 | case4 | case5 => cases read
  | case6 p q rest a b low high ih =>
    obtain ⟨tail, readRest, rfl⟩ : ∃ tail, decodeBytes rest = .ok tail ∧
        out = (a * 16 + b).toUInt8 :: tail := by
      revert read
      cases decodeBytes rest <;> simp [bind, Except.bind, pure, Except.pure, eq_comm]
    have smallA := digitValue?_lt high
    have smallB := digitValue?_lt low
    have byte : (a * 16 + b).toUInt8.toNat = a * 16 + b :=
      UInt8.toNat_ofNat_of_lt' (show a * 16 + b < 256 by omega)
    have upper : (a * 16 + b) / 16 % 16 = a := by omega
    have lower : (a * 16 + b) % 16 = b := by omega
    have ofP := hexDigit_of_digitValue? p.toNat p.toNat_lt a smallA (by simpa using high)
    have ofQ := hexDigit_of_digitValue? q.toNat q.toNat_lt b smallB (by simpa using low)
    simp only [List.flatMap_cons, byte, upper, lower, ofP, ofQ, ih readRest, List.map_cons,
      List.cons_append, List.nil_append]

/-! ## Texts of digits -/

/-- A hexadecimal digit is a character below 128. -/
theorem toNat_lt_of_isHexDigit {c : Char} (digit : c.isHexDigit = true) : c.toNat < 128 := by
  have code : c.toNat = c.val.toNat := rfl
  simp only [Char.isHexDigit, Char.isDigit, Bool.or_eq_true, Bool.and_eq_true,
    decide_eq_true_eq, UInt32.le_iff_toNat_le] at digit
  rw [code]
  rcases digit with (⟨_, high⟩ | ⟨_, high⟩) | ⟨_, high⟩ <;> simp at high <;> omega

/-- A character is written as digit bytes exactly when it is a hexadecimal digit. -/
theorem digits_utf8EncodeChar (c : Char) :
    (∀ b ∈ String.utf8EncodeChar c, (digitValue? b).isSome) ↔ c.isHexDigit = true := by
  by_cases ascii : c.toNat < 128
  · have same := digitValue?_isSome c.toNat (by omega)
    rw [Char.ofNat_toNat] at same
    simp [Utf8.utf8EncodeChar_of_lt ascii, same]
  · constructor
    · intro digits
      obtain ⟨b, first⟩ : ∃ b, b ∈ String.utf8EncodeChar c := by
        simp only [String.utf8EncodeChar]
        split_ifs <;> exact ⟨_, List.mem_cons_self⟩
      have none := digitValue?_of_le (Utf8.le_of_mem_utf8EncodeChar (by omega) first)
      simpa [none] using digits b first
    · intro digit
      exact absurd (toNat_lt_of_isHexDigit digit) ascii

/-- **A text's bytes are all digits exactly when its characters are.** -/
theorem digits_toUTF8 (s : String) :
    (∀ b ∈ s.toUTF8.toList, (digitValue? b).isSome) ↔ ∀ c ∈ s.toList, c.isHexDigit = true := by
  rw [Utf8.toList_toUTF8]
  simp only [List.mem_flatMap, forall_exists_index, and_imp]
  exact ⟨fun all c mem => (digits_utf8EncodeChar c).mp fun b => all b c mem,
    fun all b c mem => (digits_utf8EncodeChar c).mpr (all c mem) b⟩

/-- Lowering the bytes of hexadecimal digits lowers the digits. -/
theorem lower_utf8Encode {cs : List Char} (digits : ∀ c ∈ cs, c.isHexDigit = true) :
    (cs.flatMap String.utf8EncodeChar).map (fun b => (Char.ofNat b.toNat).toLower) =
      cs.map Char.toLower := by
  induction cs with
  | nil => rfl
  | cons c cs ih =>
    have ascii := toNat_lt_of_isHexDigit (digits c List.mem_cons_self)
    have byte : c.toNat.toUInt8.toNat = c.toNat :=
      UInt8.toNat_ofNat_of_lt' (show c.toNat < 256 by omega)
    simp [Utf8.utf8EncodeChar_of_lt ascii, byte, ih fun c mem => digits c (List.mem_cons_of_mem _ mem)]

end Hex

namespace JobId

/-- **The text of a sixteen-byte identifier reads back as the identifier.** -/
theorem parse_text (id : JobId) (sixteen : id.bytes.length = 16) : parse id.text = .ok id := by
  have size : (Hex.encode id.bytes).utf8ByteSize = 32 := by
    rw [Hex.utf8ByteSize_encode, sixteen]
  simp only [parse, text, size, ne_eq, not_true_eq_false, if_false, Hex.decode,
    Hex.toUTF8_encode, Hex.decodeBytes_digitBytes]

theorem parse_eq_ok {s : String} {id : JobId} (read : parse s = .ok id) :
    s.utf8ByteSize = 32 ∧ Hex.decodeBytes s.toUTF8.toList = .ok id.bytes := by
  by_cases size : s.utf8ByteSize = 32
  · simp only [parse, size, ne_eq, not_true_eq_false, if_false, Hex.decode] at read
    split at read
    · next bytes decoded =>
      cases read
      exact ⟨size, decoded⟩
    · cases read
  · simp [parse, size] at read

/-- **A text is an identifier exactly when it is 32 bytes of hexadecimal digits.** -/
theorem parse_ok_iff (s : String) :
    (∃ id, parse s = .ok id) ↔ s.utf8ByteSize = 32 ∧ ∀ c ∈ s.toList, c.isHexDigit = true := by
  rw [← Hex.digits_toUTF8]
  constructor
  · rintro ⟨id, read⟩
    obtain ⟨size, decoded⟩ := parse_eq_ok read
    exact ⟨size, ((Hex.decodeBytes_ok_iff _).mp ⟨_, decoded⟩).2⟩
  · rintro ⟨size, digits⟩
    have even : 2 ∣ s.toUTF8.toList.length := by
      rw [← Utf8.utf8ByteSize_eq, size]
      decide
    obtain ⟨bytes, decoded⟩ := (Hex.decodeBytes_ok_iff _).mpr ⟨even, digits⟩
    refine ⟨⟨bytes⟩, ?_⟩
    simp only [parse, size, ne_eq, not_true_eq_false, if_false, Hex.decode, decoded]

/-- **An identifier read from a text is written as that text in lowercase.** -/
theorem text_of_parse {s : String} {id : JobId} (read : parse s = .ok id) :
    id.text = s.toLower := by
  obtain ⟨-, digits⟩ := (parse_ok_iff s).mp ⟨id, read⟩
  obtain ⟨-, decoded⟩ := parse_eq_ok read
  apply String.ext
  rw [text, Hex.toList_encode_of_decodeBytes decoded, Utf8.toList_toUTF8,
    Hex.lower_utf8Encode digits, toList_toLower]

end JobId

namespace IdGenerator

/-- Every call keeps a generator well formed, also the one that wraps the timestamp. -/
theorem next_wellFormed {g : IdGenerator} (wf : g.WellFormed) (ms : Int) :
    (g.next ms).2.WellFormed := by
  have moved := next_position g ms
  obtain ⟨lastLt, counterLt⟩ := wf
  generalize (g.next ms).2 = g' at moved ⊢
  split_ifs at moved <;>
  · obtain ⟨last, counter⟩ := Prod.mk.inj moved
    exact ⟨by omega, by omega⟩

/-- **A minted identifier reads back the generator's timestamp and counter.** -/
theorem reads_position {g : IdGenerator} (wf : g.WellFormed) {ms : Int} {id : JobId}
    (minted : (g.next ms).1 = .ok id) :
    id.millis = (g.next ms).2.last ∧ id.counter = (g.next ms).2.counter ∧
      id.time = Clock.rfc3339OfMillis (g.next ms).2.last := by
  have carried := (minted_of_next (next_wellFormed wf ms) minted).2
  simp only [JobId.position, position, Prod.mk.injEq] at carried
  exact ⟨carried.1, carried.2, by rw [JobId.time, carried.1]⟩

end IdGenerator

namespace JobId

/-- **What the text form of identifiers guarantees**: for an identifier `id`, a text `s`, and
the call of generator `g` at clock reading `ms`. -/
structure RoundTrip (id : JobId) (s : String) (g : IdGenerator) (ms : Int) : Prop where
  /-- The identifier's text reads back as the identifier. -/
  readsBack : parse id.text = .ok id
  /-- A text is read exactly when it is 32 bytes, each a hexadecimal digit of either case. -/
  accepts : (∃ read, parse s = .ok read) ↔
    s.utf8ByteSize = 32 ∧ ∀ c ∈ s.toList, c.isHexDigit = true
  /-- What is read from a text is written as the text in lowercase. -/
  lowers : ∀ read, parse s = .ok read → read.text = s.toLower
  /-- An identifier the call mints carries the generator's timestamp and counter after the
  call, and the time of that timestamp. -/
  carries : ∀ minted, (g.next ms).1 = .ok minted →
    minted.millis = (g.next ms).2.last ∧ minted.counter = (g.next ms).2.counter ∧
      minted.time = Clock.rfc3339OfMillis (g.next ms).2.last

/-- **Job identifiers round-trip through their text.** For every sixteen-byte identifier, every
text, and every call of a well-formed generator (a new one among them). -/
theorem encoding_round_trip (id : JobId) (sixteen : id.bytes.length = 16) (s : String)
    {g : IdGenerator} (wf : g.WellFormed) (ms : Int) : id.RoundTrip s g ms :=
  ⟨parse_text id sixteen, parse_ok_iff s, fun _ read => text_of_parse read,
    fun _ minted => IdGenerator.reads_position wf minted⟩

/-- The first job of a venue: its identifier, its text in uppercase, and the call that
minted it. -/
theorem encoding_round_trip_first_job :
    let id : JobId := ⟨[0x00, 0xdc, 0x6a, 0xcf, 0xac, 0x00, 0x00, 0x00,
      0x00, 0x01, 0x02, 0x03, 0x04, 0x05, 0x06, 0x07]⟩
    let g : IdGenerator := { entropy := .counting 0 }
    id.bytes.length = 16 ∧ g.WellFormed ∧
      id.RoundTrip "00DC6ACFAC0000000001020304050607" g 946684800000 := by
  intro id g
  have sixteen : id.bytes.length = 16 := rfl
  have wf : g.WellFormed := ⟨by decide, by decide⟩
  exact ⟨sixteen, wf, encoding_round_trip id sixteen _ wf _⟩

end JobId

end JobEngine
