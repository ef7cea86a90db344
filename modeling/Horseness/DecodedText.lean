import Horseness.WellFormedText

/-!
Whatever bytes are decoded, the text has no lone surrogate, so encoding it and decoding the bytes
gives the same text again.
-/

namespace Horseness.DecodedText

open ScriptText Utf8Text WellFormedText

def Scalar (point : Nat) : Prop := point < 0xD800 ∨ 0xE000 ≤ point ∧ point < 0x110000

theorem point_valid {point : Nat} (scalar : Scalar point) : validUnicode (pointUnits point) = true := by
  unfold Scalar at scalar
  unfold pointUnits
  split_ifs with small
  · have exactly : point.toUInt16.toNat = point := UInt16.toNat_ofNat_of_lt' small
    have high : highSurrogate point.toUInt16 = false := by
      simp only [highSurrogate, UInt16.le_iff_toNat_le, exactly, UInt16.reduceToNat,
        Bool.and_eq_false_iff, decide_eq_false_iff_not]
      omega
    have low : lowSurrogate point.toUInt16 = false := by
      simp only [lowSurrogate, UInt16.le_iff_toNat_le, exactly, UInt16.reduceToNat,
        Bool.and_eq_false_iff, decide_eq_false_iff_not]
      omega
    simp [validUnicode, high, low]
  · have lead : 0xD800 + (point - 0x10000) / 0x400 < UInt16.size := by
      rw [UInt16.size]
      omega
    have trail : 0xDC00 + (point - 0x10000) % 0x400 < UInt16.size := by
      rw [UInt16.size]
      omega
    have first : highSurrogate (0xD800 + (point - 0x10000) / 0x400).toUInt16 = true := by
      simp only [highSurrogate, UInt16.le_iff_toNat_le, UInt16.toNat_ofNat_of_lt' lead,
        UInt16.reduceToNat, Bool.and_eq_true, decide_eq_true_eq, Nat.toUInt16]
      omega
    have second : lowSurrogate (0xDC00 + (point - 0x10000) % 0x400).toUInt16 = true := by
      simp only [lowSurrogate, UInt16.le_iff_toNat_le, UInt16.toNat_ofNat_of_lt' trail,
        UInt16.reduceToNat, Bool.and_eq_true, decide_eq_true_eq, Nat.toUInt16]
      omega
    rw [validUnicode, if_pos first, second]
    rfl

def Completes : Nat → Nat → Prop
  | 0, point => Scalar point
  | needed + 1, point =>
      ∀ byte, 0x80 ≤ byte → byte ≤ 0xBF → Completes needed (point * 64 + (byte - 0x80))

def Sound : DecoderState → Prop
  | .start => True
  | .within needed point lower upper => 1 ≤ needed ∧
      ∀ byte, lower ≤ byte → byte ≤ upper → Completes (needed - 1) (point * 64 + (byte - 0x80))

/-- What a byte adds is well formed, and what remains of it is sound. -/
structure Decoded (part : JsString × DecoderState) : Prop where
  text : validUnicode part.1 = true
  state : Sound part.2

theorem decoded_start {text : JsString} (valid : validUnicode text = true) :
    Decoded (text, .start) := ⟨valid, trivial⟩

theorem lead_decoded (byte : Nat) : Decoded (leadByte byte) := by
  unfold leadByte
  by_cases one : byte < 0x80
  · rw [if_pos one]
    have single : pointUnits byte = [byte.toUInt16] := if_pos (by omega)
    exact ⟨single ▸ point_valid (.inl (by omega)), trivial⟩
  rw [if_neg one]
  by_cases two : 0xC2 ≤ byte ∧ byte ≤ 0xDF
  · rw [if_pos two]
    exact ⟨rfl, Nat.le_refl 1, fun next low high => .inl (by omega)⟩
  rw [if_neg two]
  by_cases three : 0xE0 ≤ byte ∧ byte ≤ 0xEF
  · rw [if_pos three]
    refine ⟨rfl, by decide, fun next low high last above below => ?_⟩
    unfold Completes Scalar
    split_ifs at low high <;> omega
  rw [if_neg three]
  by_cases four : 0xF0 ≤ byte ∧ byte ≤ 0xF4
  · rw [if_pos four]
    refine ⟨rfl, by decide, fun next low high third above below last upon under => ?_⟩
    unfold Completes Scalar
    split_ifs at low high <;> omega
  rw [if_neg four]
  exact ⟨by decide, trivial⟩

theorem byte_decoded {state : DecoderState} (sound : Sound state) (byte : Nat) :
    Decoded (decodeByte state byte) := by
  cases state with
  | start => exact lead_decoded byte
  | within needed point lower upper =>
      rcases sound with ⟨filled, complete⟩
      simp only [decodeByte]
      by_cases bounded : lower ≤ byte ∧ byte ≤ upper
      · rw [if_pos bounded]
        have next := complete byte bounded.1 bounded.2
        by_cases last : needed = 1
        · subst last
          rw [Nat.sub_self, Completes] at next
          rw [if_pos rfl]
          exact decoded_start (point_valid next)
        · rw [if_neg last]
          refine ⟨rfl, by omega, fun later low high => ?_⟩
          rw [show needed - 1 = needed - 1 - 1 + 1 by omega] at next
          exact next later low high
      · rw [if_neg bounded]
        have lead := lead_decoded byte
        exact ⟨valid_append (by decide : validUnicode [0xFFFD] = true) lead.text, lead.state⟩

theorem decode_valid (bytes : List Nat) : ∀ {state}, Sound state →
    validUnicode (decodeFrom state bytes) = true := by
  induction bytes with
  | nil =>
      intro state _
      cases state with
      | start => rfl
      | within => exact show validUnicode [0xFFFD] = true by decide
  | cons byte rest ih =>
      intro state sound
      have decoded := byte_decoded sound byte
      rw [decode_cons]
      exact valid_append decoded.text (ih decoded.state)

theorem decoded_valid (bytes : List Nat) : validUnicode (decodeUtf8 bytes) = true :=
  decode_valid bytes trivial

end Horseness.DecodedText
