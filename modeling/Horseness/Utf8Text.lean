import Horseness.ScriptEngine

/-!
Reading UTF-8 bytes back as a string: one byte at a time, with U+FFFD for every longest part of a
sequence that is not well formed. Well-formed strings come back as they were written, wherever
their bytes stand.
-/

namespace Horseness.Utf8Text

open ScriptText ScriptEngine

section Decoding

/-- Between two characters, or within one: the bytes that it still needs, its bits so far, and
the bounds of the next byte. -/
inductive DecoderState where
  | start
  | within (needed point lower upper : Nat)
  deriving DecidableEq

def pointUnits (point : Nat) : JsString :=
  if point < 0x10000 then [point.toUInt16]
  else [(0xD800 + (point - 0x10000) / 0x400).toUInt16, (0xDC00 + (point - 0x10000) % 0x400).toUInt16]

def leadByte (byte : Nat) : JsString × DecoderState :=
  if byte < 0x80 then ([byte.toUInt16], .start)
  else if 0xC2 ≤ byte ∧ byte ≤ 0xDF then ([], .within 1 (byte - 0xC0) 0x80 0xBF)
  else if 0xE0 ≤ byte ∧ byte ≤ 0xEF then
    ([], .within 2 (byte - 0xE0) (if byte = 0xE0 then 0xA0 else 0x80)
      (if byte = 0xED then 0x9F else 0xBF))
  else if 0xF0 ≤ byte ∧ byte ≤ 0xF4 then
    ([], .within 3 (byte - 0xF0) (if byte = 0xF0 then 0x90 else 0x80)
      (if byte = 0xF4 then 0x8F else 0xBF))
  else ([0xFFFD], .start)

def decodeByte : DecoderState → Nat → JsString × DecoderState
  | .start, byte => leadByte byte
  | .within needed point lower upper, byte =>
      if lower ≤ byte ∧ byte ≤ upper then
        let longer := point * 64 + (byte - 0x80)
        if needed = 1 then (pointUnits longer, .start)
        else ([], .within (needed - 1) longer 0x80 0xBF)
      else
        -- the byte that ends an ill-formed sequence starts the next one
        let next := leadByte byte
        (0xFFFD :: next.1, next.2)

def decodeFrom : DecoderState → List Nat → JsString
  | .start, [] => []
  | .within _ _ _ _, [] => [0xFFFD]
  | state, byte :: rest =>
      let next := decodeByte state byte
      next.1 ++ decodeFrom next.2 rest

def decodeUtf8 (bytes : List Nat) : JsString := decodeFrom .start bytes

end Decoding

section RoundTrip

theorem decode_cons (state : DecoderState) (byte : Nat) (rest : List Nat) :
    decodeFrom state (byte :: rest) =
      (decodeByte state byte).1 ++ decodeFrom (decodeByte state byte).2 rest := by
  cases state <;> rfl

theorem decode_one {point : Nat} (small : point < 0x80) (rest : List Nat) :
    decodeFrom .start (point :: rest) = pointUnits point ++ decodeFrom .start rest := by
  have wide : point < 0x10000 := by omega
  simp [decode_cons, decodeByte, leadByte, pointUnits, small, wide]

theorem decode_within {needed point lower upper byte : Nat} (low : lower ≤ byte) (high : byte ≤ upper)
    (more : needed ≠ 1) (rest : List Nat) :
    decodeFrom (.within needed point lower upper) (byte :: rest) =
      decodeFrom (.within (needed - 1) (point * 64 + (byte - 0x80)) 0x80 0xBF) rest := by
  simp [decode_cons, decodeByte, low, high, more]

theorem decode_last {point lower upper byte : Nat} (low : lower ≤ byte) (high : byte ≤ upper)
    (rest : List Nat) :
    decodeFrom (.within 1 point lower upper) (byte :: rest) =
      pointUnits (point * 64 + (byte - 0x80)) ++ decodeFrom .start rest := by
  simp [decode_cons, decodeByte, low, high]

theorem decode_two {point : Nat} (low : 0x80 ≤ point) (high : point < 0x800) (rest : List Nat) :
    decodeFrom .start ((0xC0 + point / 64) :: (0x80 + point % 64) :: rest) =
      pointUnits point ++ decodeFrom .start rest := by
  have lead : leadByte (0xC0 + point / 64) = ([], .within 1 (point / 64) 0x80 0xBF) := by
    rw [leadByte, if_neg (by omega), if_pos (by omega),
      show 0xC0 + point / 64 - 0xC0 = point / 64 by omega]
  have whole : point / 64 * 64 + (0x80 + point % 64 - 0x80) = point := by omega
  rw [decode_cons, decodeByte, lead, List.nil_append, decode_last (by omega) (by omega), whole]

theorem decode_three {point : Nat} (low : 0x800 ≤ point) (high : point < 0x10000)
    (plain : point < 0xD800 ∨ 0xE000 ≤ point) (rest : List Nat) :
    decodeFrom .start ((0xE0 + point / 4096) :: (0x80 + point / 64 % 64) :: (0x80 + point % 64) ::
        rest) = pointUnits point ++ decodeFrom .start rest := by
  have lead : leadByte (0xE0 + point / 4096) = ([], .within 2 (point / 4096)
      (if 0xE0 + point / 4096 = 0xE0 then 0xA0 else 0x80)
      (if 0xE0 + point / 4096 = 0xED then 0x9F else 0xBF)) := by
    rw [leadByte, if_neg (by omega), if_neg (by omega), if_pos (by omega),
      show 0xE0 + point / 4096 - 0xE0 = point / 4096 by omega]
  have whole : (point / 4096 * 64 + (0x80 + point / 64 % 64 - 0x80)) * 64 +
      (0x80 + point % 64 - 0x80) = point := by omega
  rw [decode_cons, decodeByte, lead, List.nil_append,
    decode_within (by split <;> omega) (by split <;> omega) (by omega),
    decode_last (by omega) (by omega), whole]

theorem decode_four {point : Nat} (low : 0x10000 ≤ point) (high : point < 0x110000)
    (rest : List Nat) :
    decodeFrom .start ((0xF0 + point / 262144) :: (0x80 + point / 4096 % 64) ::
        (0x80 + point / 64 % 64) :: (0x80 + point % 64) :: rest) =
      pointUnits point ++ decodeFrom .start rest := by
  have lead : leadByte (0xF0 + point / 262144) = ([], .within 3 (point / 262144)
      (if 0xF0 + point / 262144 = 0xF0 then 0x90 else 0x80)
      (if 0xF0 + point / 262144 = 0xF4 then 0x8F else 0xBF)) := by
    rw [leadByte, if_neg (by omega), if_neg (by omega), if_neg (by omega), if_pos (by omega),
      show 0xF0 + point / 262144 - 0xF0 = point / 262144 by omega]
  have whole : ((point / 262144 * 64 + (0x80 + point / 4096 % 64 - 0x80)) * 64 +
      (0x80 + point / 64 % 64 - 0x80)) * 64 + (0x80 + point % 64 - 0x80) = point := by omega
  rw [decode_cons, decodeByte, lead, List.nil_append,
    decode_within (by split <;> omega) (by split <;> omega) (by omega),
    decode_within (by omega) (by omega) (by omega), decode_last (by omega) (by omega), whole]

theorem unit_of_nat (unit : UInt16) : unit.toNat.toUInt16 = unit := UInt16.ofNat_toNat

theorem units_one (unit : UInt16) : pointUnits unit.toNat = [unit] := by
  have small : unit.toNat < 0x10000 := unit.toNat_lt
  rw [pointUnits, if_pos small, unit_of_nat]

theorem high_bounds {unit : UInt16} (high : highSurrogate unit = true) :
    0xD800 ≤ unit.toNat ∧ unit.toNat ≤ 0xDBFF := by
  simpa [highSurrogate, UInt16.le_iff_toNat_le] using high

theorem low_bounds {unit : UInt16} (low : lowSurrogate unit = true) :
    0xDC00 ≤ unit.toNat ∧ unit.toNat ≤ 0xDFFF := by
  simpa [lowSurrogate, UInt16.le_iff_toNat_le] using low

theorem units_pair {high low : UInt16} (first : highSurrogate high = true)
    (second : lowSurrogate low = true) :
    pointUnits (0x10000 + (high.toNat - 0xD800) * 0x400 + (low.toNat - 0xDC00)) = [high, low] := by
  obtain ⟨above, below⟩ := high_bounds first
  obtain ⟨from', upto⟩ := low_bounds second
  rw [pointUnits, if_neg (by omega)]
  have leading : 0xD800 + (0x10000 + (high.toNat - 0xD800) * 0x400 + (low.toNat - 0xDC00) -
      0x10000) / 0x400 = high.toNat := by omega
  have trailing : 0xDC00 + (0x10000 + (high.toNat - 0xD800) * 0x400 + (low.toNat - 0xDC00) -
      0x10000) % 0x400 = low.toNat := by omega
  rw [leading, trailing, unit_of_nat, unit_of_nat]

theorem utf8_pair {high low : UInt16} (first : highSurrogate high = true)
    (second : lowSurrogate low = true) (rest : JsString) :
    utf8 (high :: low :: rest) =
      let point := 0x10000 + (high.toNat - 0xD800) * 0x400 + (low.toNat - 0xDC00)
      (0xF0 + point / 262144) :: (0x80 + point / 4096 % 64) :: (0x80 + point / 64 % 64) ::
        (0x80 + point % 64) :: utf8 rest := by
  obtain ⟨above, -⟩ := high_bounds first
  have wide : ¬ high < 0x80 := by
    rw [UInt16.lt_iff_toNat_lt, show (0x80 : UInt16).toNat = 0x80 from rfl]
    omega
  have wider : ¬ high < 0x800 := by
    rw [UInt16.lt_iff_toNat_lt, show (0x800 : UInt16).toNat = 0x800 from rfl]
    omega
  rw [utf8]
  simp only [wide, wider, first, second, if_false, if_true]

def unitBytes (unit : UInt16) : List Nat :=
  if unit < 0x80 then [unit.toNat]
  else if unit < 0x800 then [0xC0 + unit.toNat / 64, 0x80 + unit.toNat % 64]
  else if highSurrogate unit || lowSurrogate unit then [0xEF, 0xBF, 0xBD]
  else [0xE0 + unit.toNat / 4096, 0x80 + unit.toNat / 64 % 64, 0x80 + unit.toNat % 64]

theorem utf8_alone {unit : UInt16} {rest : JsString}
    (alone : highSurrogate unit = true → ∀ next ∈ rest.head?, lowSurrogate next = false) :
    utf8 (unit :: rest) = unitBytes unit ++ utf8 rest := by
  rw [utf8.eq_def, unitBytes]
  dsimp only
  split
  · rfl
  · split
    · rfl
    · cases high : highSurrogate unit with
      | false => cases lowSurrogate unit <;> rfl
      | true =>
          cases rest with
          | nil => rfl
          | cons next tail =>
              have single := alone high next rfl
              simp [single]

theorem decode_unit {unit : UInt16} (plain : highSurrogate unit = false)
    (other : lowSurrogate unit = false) (bytes : List Nat) :
    decodeFrom .start (unitBytes unit ++ bytes) = unit :: decodeFrom .start bytes := by
  have bound : unit.toNat < 0x10000 := unit.toNat_lt
  have outside : unit.toNat < 0xD800 ∨ 0xE000 ≤ unit.toNat := by
    simp only [highSurrogate, lowSurrogate, UInt16.le_iff_toNat_le, Bool.and_eq_false_iff,
      decide_eq_false_iff_not, UInt16.reduceToNat] at plain other
    omega
  rw [unitBytes]
  split
  · rename_i small
    rw [List.singleton_append, decode_one (by simpa [UInt16.lt_iff_toNat_lt] using small), units_one]
    rfl
  · rename_i wide
    have low : 0x80 ≤ unit.toNat := by simpa [UInt16.lt_iff_toNat_lt] using wide
    split
    · rename_i small
      have high : unit.toNat < 0x800 := by simpa [UInt16.lt_iff_toNat_lt] using small
      rw [List.cons_append, List.singleton_append, decode_two low high, units_one]
      rfl
    · rename_i wider
      have more : 0x800 ≤ unit.toNat := by simpa [UInt16.lt_iff_toNat_lt] using wider
      simp only [plain, other, Bool.or_false, Bool.false_eq_true, if_false]
      rw [List.cons_append, List.cons_append, List.singleton_append,
        decode_three more bound outside, units_one]
      rfl

-- A well-formed string is read back, and what follows it is read from a fresh start.
theorem decode_utf8_append (text : JsString) (valid : validUnicode text = true) (bytes : List Nat) :
    decodeFrom .start (utf8 text ++ bytes) = text ++ decodeFrom .start bytes := by
  fun_induction validUnicode text with
  | case1 => simp [utf8]
  | case2 unit high => simp at valid
  | case3 unit high next tail ih =>
      rw [Bool.and_eq_true] at valid
      obtain ⟨above, below⟩ := high_bounds high
      obtain ⟨over', under⟩ := low_bounds valid.1
      rw [utf8_pair high valid.1]
      simp only [List.cons_append]
      rw [decode_four (by omega) (by omega), units_pair high valid.1, ih valid.2]
      rfl
  | case4 unit rest plain ih =>
      simp only [Bool.not_eq_true] at plain
      rw [Bool.and_eq_true, Bool.not_eq_true'] at valid
      rw [utf8_alone (by simp [plain]), List.append_assoc, decode_unit plain valid.1, ih valid.2]
      rfl

theorem decode_utf8 {text : JsString} (valid : validUnicode text = true) :
    decodeUtf8 (utf8 text) = text := by
  have whole := decode_utf8_append text valid []
  simpa [decodeUtf8, decodeFrom] using whole

-- The bytes of a text that does not end within a pair stand for themselves.
theorem utf8_append (front back : JsString)
    (whole : ∀ unit ∈ front.getLast?, highSurrogate unit = false) :
    utf8 (front ++ back) = utf8 front ++ utf8 back := by
  induction front using List.twoStepInduction with
  | nil => rfl
  | singleton unit =>
      have plain : highSurrogate unit = false := whole unit rfl
      have alone (rest : JsString) : utf8 (unit :: rest) = unitBytes unit ++ utf8 rest :=
        utf8_alone (by simp [plain])
      rw [List.singleton_append, alone, alone]
      simp [utf8]
  | cons_cons unit next tail ih later =>
      have rest : utf8 (next :: tail ++ back) = utf8 (next :: tail) ++ utf8 back := by
        apply later
        simpa using whole
      by_cases paired : highSurrogate unit = true ∧ lowSurrogate next = true
      · have after : utf8 (tail ++ back) = utf8 tail ++ utf8 back := by
          apply ih
          intro last ends
          apply whole last
          cases tail with
          | nil => cases ends
          | cons other more => simpa using ends
        simp only [List.cons_append]
        rw [utf8_pair paired.1 paired.2, utf8_pair paired.1 paired.2, after]
        rfl
      · have alone (more : JsString) : utf8 (unit :: next :: more) =
            unitBytes unit ++ utf8 (next :: more) := by
          apply utf8_alone
          intro high other here
          obtain rfl := Option.some.inj here
          simpa [high] using paired
        rw [List.cons_append, List.cons_append, alone, alone, ← List.cons_append, rest,
          List.append_assoc]

end RoundTrip

end Horseness.Utf8Text
