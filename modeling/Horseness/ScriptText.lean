import Mathlib.Data.List.Sort
import Mathlib.Data.List.DropRight
import Mathlib.Tactic.Common

/-!
Script strings as their UTF-16 code units. Order is code-unit order, as `<` and
a sort without comparator have it; lengths and indices count code units.
-/

namespace Horseness.ScriptText

abbrev JsString := List UInt16

/-- Strings are compared unit by unit, which also decides membership in a list of them. -/
instance lawfulText : LawfulBEq JsString := inferInstance

/-- The code units of a literal. The source's literals are ASCII: one byte is one unit. -/
def js (literal : String) : JsString :=
  literal.toByteArray.data.toList.map (fun byte => UInt16.ofNat byte.toNat)

-- A literal read character by character, as its bytes follow each other.
theorem js_chars (chars : List Char) : js (String.ofList chars) =
    (chars.flatMap String.utf8EncodeChar).map fun byte => UInt16.ofNat byte.toNat := by
  simp [js, List.utf8Encode, List.data_toByteArray]

def highSurrogate (unit : UInt16) : Bool := 0xD800 ≤ unit && unit ≤ 0xDBFF

def lowSurrogate (unit : UInt16) : Bool := 0xDC00 ≤ unit && unit ≤ 0xDFFF

def validUnicode : JsString → Bool
  | [] => true
  | unit :: rest =>
      if highSurrogate unit then
        match rest with
        | [] => false
        | next :: tail => lowSurrogate next && validUnicode tail
      else !lowSurrogate unit && validUnicode rest

def trimmed (unit : UInt16) : Bool :=
  (9 ≤ unit && unit ≤ 13) || unit == 0x20 || unit == 0xA0 || unit == 0x1680 ||
    (0x2000 ≤ unit && unit ≤ 0x200A) || unit == 0x2028 || unit == 0x2029 || unit == 0x202F ||
    unit == 0x205F || unit == 0x3000 || unit == 0xFEFF

def blank (text : JsString) : Bool := text.all trimmed

def join (separator : JsString) : List JsString → JsString
  | [] => []
  | [part] => part
  | part :: rest => part ++ separator ++ join separator rest

theorem join_cons_cons (separator part next : JsString) (rest : List JsString) :
    join separator (part :: next :: rest) = part ++ separator ++ join separator (next :: rest) := rfl

theorem part_length_le (separator part : JsString) (parts : List JsString)
    (member : part ∈ parts) : part.length ≤ (join separator parts).length := by
  induction parts with
  | nil => simp at member
  | cons first rest ih =>
      cases rest with
      | nil => simp [join, List.mem_singleton.mp member]
      | cons next later =>
          rw [join_cons_cons]
          simp only [List.length_append]
          rcases List.mem_cons.mp member with same | inner
          · subst same
            omega
          · have bound := ih inner
            omega

theorem join_length_ge (separator : JsString) (parts : List JsString)
    (filled : separator ≠ []) : parts.length ≤ (join separator parts).length + 1 := by
  have positive := List.length_pos_of_ne_nil filled
  induction parts with
  | nil => simp
  | cons first rest ih =>
      cases rest with
      | nil => simp
      | cons next later =>
          rw [join_cons_cons]
          simp only [List.length_append, List.length_cons] at ih ⊢
          omega

def decimal (value : Nat) : JsString :=
  (Nat.toDigits 10 value).map (fun digit => digit.toNat.toUInt16)

def digitUnit (unit : UInt16) : Bool := 48 ≤ unit && unit ≤ 57

def numeral (text : JsString) : Nat :=
  Nat.ofDigitChars 10 (text.map (fun unit => Char.ofNat unit.toNat)) 0

theorem digit_char_back (digit : Char) (ascii : digit.isDigit) :
    Char.ofNat digit.toNat.toUInt16.toNat = digit := by
  have small : digit.toNat < 65536 := by
    have upper := (Char.isDigit_iff_toNat.mp ascii).2
    have nine : '9'.toNat = 57 := rfl
    omega
  rw [Nat.toUInt16, UInt16.toNat_ofNat_of_lt' small, Char.ofNat_toNat]

theorem numeral_decimal (value : Nat) : numeral (decimal value) = value := by
  have digits : (decimal value).map (fun unit => Char.ofNat unit.toNat) = Nat.toDigits 10 value := by
    rw [decimal, List.map_map]
    exact (List.map_congr_left (fun digit member =>
      digit_char_back digit (Nat.isDigit_of_mem_toDigits (by omega) (by omega) member))).trans
      (List.map_id _)
  rw [numeral, digits, Nat.ofDigitChars_ten_toDigits]

theorem digit_bounds {unit : UInt16} (digit : digitUnit unit = true) :
    48 ≤ unit.toNat ∧ unit.toNat ≤ 57 := by
  simpa [digitUnit, UInt16.le_iff_toNat_le] using digit

theorem decimal_digit {unit : UInt16} (digit : digitUnit unit = true) :
    decimal (unit.toNat - 48) = [unit] := by
  have bounds := digit_bounds digit
  have every : ∀ value < 10, decimal value = [(48 + value).toUInt16] := by decide
  rw [every _ (by omega), show 48 + (unit.toNat - 48) = unit.toNat by omega]
  simp [Nat.toUInt16]

theorem numeral_concat (text : JsString) {unit : UInt16} (digit : digitUnit unit = true) :
    numeral (text ++ [unit]) = 10 * numeral text + (unit.toNat - 48) := by
  have bounds := digit_bounds digit
  have same : (Char.ofNat unit.toNat).toNat = unit.toNat := by
    rw [Char.ofNat, dif_pos (Or.inl (by omega))]
    rfl
  simp [numeral, Nat.ofDigitChars_append, Nat.ofDigitChars_cons, same]

theorem decimal_concat {value : Nat} (positive : 0 < value) {unit : UInt16}
    (digit : digitUnit unit = true) :
    decimal (10 * value + (unit.toNat - 48)) = decimal value ++ [unit] := by
  have bounds := digit_bounds digit
  rw [← decimal_digit digit, decimal, decimal, decimal, ← List.map_append,
    Nat.toDigits_append_toDigits (by omega) positive (by omega)]

-- A digit text that does not begin with zero is the text of its number.
theorem decimal_numeral {first : UInt16} (digit : digitUnit first = true) (filled : first ≠ 48)
    (rest : JsString) (digits : rest.all digitUnit = true) :
    0 < numeral (first :: rest) ∧ decimal (numeral (first :: rest)) = first :: rest := by
  have bounds := digit_bounds digit
  have above : first.toNat ≠ 48 := fun same => filled (UInt16.toNat.inj same)
  induction rest using List.reverseRecOn with
  | nil =>
      have value : numeral [first] = first.toNat - 48 := by
        simpa [numeral] using numeral_concat [] digit
      rw [value]
      exact ⟨by omega, decimal_digit digit⟩
  | append_singleton front last ih =>
      simp only [List.all_append, List.all_cons, List.all_nil, Bool.and_true,
        Bool.and_eq_true] at digits
      obtain ⟨positive, spelled⟩ := ih digits.1
      rw [← List.cons_append, numeral_concat _ digits.2]
      exact ⟨by omega, by rw [decimal_concat positive digits.2, spelled]⟩

/-- The text `0`, or digits of which the first is not zero: `/^(0|[1-9][0-9]*)$/`. -/
def arrayIndex : JsString → Option Nat
  | [] => none
  | first :: rest =>
      if first = 48 then if rest = [] then some 0 else none
      else if digitUnit first && rest.all digitUnit then some (numeral (first :: rest))
      else none

example : arrayIndex (js "10") = some 10 ∧ arrayIndex (js "01") = none := by decide +kernel

theorem index_decimal {token : JsString} {index : Nat} (spelled : arrayIndex token = some index) :
    token = decimal index := by
  cases token with
  | nil => cases spelled
  | cons first rest =>
      simp only [arrayIndex] at spelled
      by_cases zero : first = 48
      · by_cases single : rest = []
        · simp only [zero, single, if_true, Option.some.injEq] at spelled
          rw [zero, single, ← spelled]
          rfl
        · simp [zero, single] at spelled
      · by_cases digits : (digitUnit first && rest.all digitUnit) = true
        · simp only [zero, if_false, digits, if_true, Option.some.injEq] at spelled
          rw [Bool.and_eq_true] at digits
          rw [← spelled, (decimal_numeral digits.1 zero rest digits.2).2]
        · simp [zero, digits] at spelled

end Horseness.ScriptText
