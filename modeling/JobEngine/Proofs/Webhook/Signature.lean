import JobEngine.Proofs.Codec.HexCase
import JobEngine.Webhook.CloudEvent

/-!
# Webhook signatures

A delivery is signed with `sha256=` and the lowercase hexadecimal HMAC-SHA256 of its body
under the key. The check accepts more than signing writes: the digits may be in either case.
This module characterises the accepted signatures exactly.

## Main Statements

* `verify_iff_decode` — a signature is accepted exactly when it is the mark and a hexadecimal
  text that reads as the MAC.
* `verify_iff_lower` — equivalently, when it is what signing writes, up to the case of its
  digits.
* `signature_round_trip` — the contract of signing and checking, assembled from both.
-/

namespace JobEngine

/-- A text that starts with the mark is the mark and the rest. -/
theorem eq_mark_append {s : String} (marked : s.startsWith "sha256=" = true) :
    s = "sha256=" ++ (s.drop 7).toString := by
  obtain ⟨rest, whole⟩ := String.startsWith_string_iff.mp marked
  apply String.ext
  show s.toList = ("sha256=" ++ (s.drop 7).copy).toList
  rw [String.toList_append, String.toList_copy_drop, ← whole]
  simp

/-- What follows the mark is the rest of the text. -/
@[simp] theorem drop_mark (t : String) : (("sha256=" ++ t).drop 7).toString = t := by
  apply String.ext
  show (("sha256=" ++ t).drop 7).copy.toList = t.toList
  simp [String.toList_copy_drop, String.toList_append]

/-- **What the check accepts**: the mark, then digits of either case that read as the MAC. -/
theorem verify_iff_decode (body : List UInt8) (s key : String) :
    verify body s key = true ↔
      ∃ t, s = "sha256=" ++ t ∧
        Hex.decode t = .ok (Crypto.hmacSha256 key.toUTF8.toList body) := by
  by_cases marked : s.startsWith "sha256=" = true
  · have split := eq_mark_append marked
    generalize (s.drop 7).toString = t at split
    subst split
    simp only [verify, marked, Bool.not_true, Bool.false_eq_true, if_false, drop_mark]
    constructor
    · intro matched
      split at matched
      · next want read =>
        exact ⟨t, rfl, by rw [read, eq_of_beq matched]⟩
      · cases matched
    · rintro ⟨t', same, read⟩
      rw [String.append_right_inj] at same
      subst same
      simp only [read, beq_self_eq_true]
  · simp only [verify, marked, Bool.not_false, if_true, Bool.false_eq_true, false_iff]
    rintro ⟨t, rfl, -⟩
    simp at marked

/-- **What the check accepts, through signing**: the text signing writes, with any of its
digits in either case. -/
theorem verify_iff_lower (body : List UInt8) (s key : String) :
    verify body s key = true ↔
      ∃ t, s = "sha256=" ++ t ∧ "sha256=" ++ t.toLower = sign body key := by
  rw [verify_iff_decode]
  simp only [Hex.decode_eq_ok_iff, sign, String.append_right_inj]

/-- What signing and checking guarantee for a body and a key. -/
structure SignatureContract (body : List UInt8) (key : String) : Prop where
  /-- A signature that signing writes is accepted. -/
  signed : verify body (sign body key) key = true
  /-- Accepted are exactly the mark followed by hexadecimal digits, of either case, that read
  as the HMAC-SHA256 of the body under the key. -/
  accepts : ∀ s, verify body s key = true ↔ ∃ t, s = "sha256=" ++ t ∧
    (∀ c ∈ t.toList, c.isHexDigit = true) ∧
    Hex.decode t = .ok (Crypto.hmacSha256 key.toUTF8.toList body)
  /-- Accepted are exactly what signing writes, up to the case of the digits. -/
  caseBlind : ∀ s, verify body s key = true ↔ ∃ t, s = "sha256=" ++ t ∧
    "sha256=" ++ t.toLower = sign body key

/-- **Webhook signatures round-trip**, and the check accepts nothing else than the signature
in either case. -/
theorem signature_round_trip (body : List UInt8) (key : String) : SignatureContract body key where
  signed := (verify_iff_lower body _ key).mpr ⟨_, rfl, by simp [sign]⟩
  accepts s := by
    rw [verify_iff_decode]
    -- reading succeeds only on digits, so the digit condition adds nothing to the reading
    refine exists_congr fun t =>
      and_congr_right fun _ => ⟨fun read => ⟨?_, read⟩, And.right⟩
    have digits := ((Hex.decodeBytes_ok_iff _).mp ⟨_, read⟩).2
    exact (Hex.digits_toUTF8 t).mp digits
  caseBlind s := verify_iff_lower body s key

end JobEngine
