import JobEngine.Proofs.Job.IdText

/-!
# Hexadecimal text up to case

Bytes are written in lowercase digits and read in either case. This module proves that the
written text is already lowercase, that writing is injective, and that reading is blind to
case: a text reads as some bytes exactly when, lowered, it is the text those bytes are written
as.

## Main Statements

* `Hex.toLower_encode` — written text is lowercase.
* `Hex.decode_encode`, `Hex.encode_injective` — reading inverts writing.
* `Hex.decode_eq_ok_iff` — a text reads as `bs` exactly when it lowers to `encode bs`.
-/

namespace JobEngine

namespace Utf8

/-- A text of characters below 128 has one byte per character. -/
theorem length_toUTF8_of_ascii {s : String} (ascii : ∀ c ∈ s.toList, c.toNat < 128) :
    s.toUTF8.toList.length = s.toList.length := by
  rw [toList_toUTF8]
  generalize s.toList = cs at ascii ⊢
  induction cs with
  | nil => rfl
  | cons c cs ih =>
    have one := utf8EncodeChar_of_lt (ascii c List.mem_cons_self)
    simp [one, ih fun c mem => ascii c (List.mem_cons_of_mem _ mem)]

end Utf8

namespace Hex

/-! ## Single digits -/

theorem hexDigit_isHexDigit : ∀ n < 16, (Text.hexDigit n).isHexDigit = true := by
  decide +kernel

theorem hexDigit_toLower : ∀ n < 16, (Text.hexDigit n).toLower = Text.hexDigit n := by
  decide +kernel

/-- The ASCII case of `isHexDigit_of_toLower`, checked for every code below 128. -/
theorem isHexDigit_of_toLower_ascii : ∀ n < 128,
    (Char.ofNat n).toLower.isHexDigit = true → (Char.ofNat n).isHexDigit = true := by
  decide +kernel

/-- A character that lowers to a hexadecimal digit is one: lowering touches only `A`–`Z`. -/
theorem isHexDigit_of_toLower {c : Char} (digit : c.toLower.isHexDigit = true) :
    c.isHexDigit = true := by
  by_cases ascii : c.toNat < 128
  · have := isHexDigit_of_toLower_ascii c.toNat ascii
    rw [Char.ofNat_toNat] at this
    exact this digit
  · -- above ASCII lowering changes nothing, and no digit lies there
    have code : c.toNat = c.val.toNat := rfl
    have same : c.toLower = c := by
      delta Char.toLower
      split
      · next upper =>
        simp only [ge_iff_le, UInt32.le_iff_toNat_le] at upper
        have : c.val.toNat ≤ 90 := upper.2
        omega
      · rfl
    rw [same] at digit
    exact absurd (toNat_lt_of_isHexDigit digit) ascii

/-- The digits of a written text, each for a number below 16. -/
theorem mem_encode {bs : List UInt8} {c : Char} (mem : c ∈ (encode bs).toList) :
    ∃ n < 16, c = Text.hexDigit n := by
  simp only [toList_encode, List.mem_flatMap, List.mem_cons, List.not_mem_nil, or_false] at mem
  obtain ⟨b, -, rfl | rfl⟩ := mem
  · exact ⟨_, Nat.mod_lt _ (by decide), rfl⟩
  · exact ⟨_, Nat.mod_lt _ (by decide), rfl⟩

/-! ## Writing -/

/-- **Written text is lowercase.** -/
@[simp] theorem toLower_encode (bs : List UInt8) : (encode bs).toLower = encode bs := by
  apply String.ext
  have lower : ∀ c ∈ (encode bs).toList, c.toLower = c := by
    intro c mem
    obtain ⟨n, small, rfl⟩ := mem_encode mem
    exact hexDigit_toLower n small
  rw [toList_toLower, List.map_congr_left lower, List.map_id']

theorem isHexDigit_of_mem_encode {bs : List UInt8} {c : Char} (mem : c ∈ (encode bs).toList) :
    c.isHexDigit = true := by
  obtain ⟨n, small, rfl⟩ := mem_encode mem
  exact hexDigit_isHexDigit n small

theorem length_toList_encode (bs : List UInt8) : (encode bs).toList.length = 2 * bs.length := by
  rw [toList_encode]
  induction bs with
  | nil => rfl
  | cons b bs ih => simp [ih]; omega

@[simp] theorem decode_encode (bs : List UInt8) : decode (encode bs) = .ok bs := by
  rw [decode, toUTF8_encode, decodeBytes_digitBytes]

theorem encode_injective : Function.Injective encode := by
  intro a b same
  have read := decode_encode a
  rw [same, decode_encode] at read
  cases read
  rfl

/-! ## Reading -/

/-- What is read from a text is written as the text lowered. -/
theorem toLower_of_decode {t : String} {bs : List UInt8} (read : decode t = .ok bs) :
    t.toLower = encode bs := by
  have digits := ((decodeBytes_ok_iff _).mp ⟨bs, read⟩).2
  apply String.ext
  rw [toList_encode_of_decodeBytes read, Utf8.toList_toUTF8,
    lower_utf8Encode ((digits_toUTF8 t).mp digits), toList_toLower]

/-- **Reading is blind to case**: a text reads as `bs` exactly when it lowers to the text of
`bs`. -/
theorem decode_eq_ok_iff {t : String} {bs : List UInt8} :
    decode t = .ok bs ↔ t.toLower = encode bs := by
  refine ⟨toLower_of_decode, fun lowered => ?_⟩
  have lowers : t.toList.map Char.toLower = (encode bs).toList := by
    rw [← lowered, toList_toLower]
  -- every character of `t` is a digit, so `t` has one byte per character and reads as bytes
  have digits : ∀ c ∈ t.toList, c.isHexDigit = true := fun c mem =>
    isHexDigit_of_toLower (isHexDigit_of_mem_encode (lowers ▸ List.mem_map_of_mem mem))
  have even : 2 ∣ t.toUTF8.toList.length := by
    rw [Utf8.length_toUTF8_of_ascii fun c mem => toNat_lt_of_isHexDigit (digits c mem),
      ← List.length_map Char.toLower, lowers, length_toList_encode]
    exact Nat.dvd_mul_right 2 _
  obtain ⟨out, read⟩ := (decodeBytes_ok_iff _).mpr ⟨even, (digits_toUTF8 t).mpr digits⟩
  have same : encode out = encode bs := by
    rw [← lowered, toLower_of_decode read]
  rw [decode, read, encode_injective same]

end Hex

end JobEngine
