import Horseness.NormalForms
import Horseness.Canonical

/-!
Texts without a lone surrogate: they stay so when they are joined, quoted or escaped, so the text of
an acceptable value is one. Hexadecimal and base-32 spellings are ASCII.
-/

namespace Horseness.WellFormedText

open ScriptText JsonValues JsonText JsonRoundTrip Canonical Utf8Text NormalForms

theorem valid_append {front back : JsString} (first : validUnicode front = true)
    (second : validUnicode back = true) : validUnicode (front ++ back) = true := by
  fun_induction validUnicode front with
  | case1 => exact second
  | case2 unit high => simp at first
  | case3 unit high next tail ih =>
      rw [Bool.and_eq_true] at first
      rw [List.cons_append, List.cons_append, validUnicode]
      simp [high, first.1, ih first.2]
  | case4 unit rest plain ih =>
      simp only [Bool.not_eq_true] at plain
      rw [Bool.and_eq_true, Bool.not_eq_true'] at first
      rw [List.cons_append, validUnicode.eq_def]
      simp [plain, first.1, ih first.2]

theorem ascii_valid {text : JsString} (plain : ∀ unit ∈ text, ascii unit = true) :
    validUnicode text = true := by
  induction text with
  | nil => rfl
  | cons unit rest ih =>
      have small : unit.toNat < 0x80 := by
        simpa [ascii, UInt16.lt_iff_toNat_lt] using plain unit List.mem_cons_self
      have high : highSurrogate unit = false := by
        simp only [highSurrogate, UInt16.le_iff_toNat_le, UInt16.reduceToNat, Bool.and_eq_false_iff,
          decide_eq_false_iff_not]
        omega
      have low : lowSurrogate unit = false := by
        simp only [lowSurrogate, UInt16.le_iff_toNat_le, UInt16.reduceToNat, Bool.and_eq_false_iff,
          decide_eq_false_iff_not]
        omega
      rw [validUnicode.eq_def]
      simp [high, low, ih fun later member => plain later (List.mem_cons_of_mem unit member)]

theorem surrogate_ordinary {unit : UInt16}
    (surrogate : highSurrogate unit = true ∨ lowSurrogate unit = true) : ordinary unit = true := by
  have above : 0xD800 ≤ unit.toNat := by
    rcases surrogate with high | low
    · exact (high_bounds high).1
    · exact le_trans (by decide) (low_bounds low).1
  have apart (code : UInt16) (small : code.toNat < 0xD800) : unit ≠ code := by
    rintro rfl
    omega
  have wide : (0x20 : UInt16) ≤ unit := by
    rw [UInt16.le_iff_toNat_le, show (0x20 : UInt16).toNat = 0x20 from rfl]
    omega
  simp [ordinary, apart quoteMark (by decide), apart backslash (by decide), wide]

theorem escapes_valid {text : JsString} (valid : validUnicode text = true) :
    validUnicode (text.flatMap escapeUnit) = true := by
  fun_induction validUnicode text with
  | case1 => rfl
  | case2 unit high => simp at valid
  | case3 unit high next tail ih =>
      rw [Bool.and_eq_true] at valid
      rw [List.flatMap_cons, List.flatMap_cons, ordinary_escape (surrogate_ordinary (.inl high)),
        ordinary_escape (surrogate_ordinary (.inr valid.1)), List.singleton_append,
        List.singleton_append, validUnicode]
      simp [high, valid.1, ih valid.2]
  | case4 unit rest plain ih =>
      simp only [Bool.not_eq_true] at plain
      rw [Bool.and_eq_true, Bool.not_eq_true'] at valid
      rw [List.flatMap_cons]
      refine valid_append ?_ (ih valid.2)
      cases special : ordinary unit with
      | true =>
          rw [ordinary_escape special, validUnicode]
          simp [plain, valid.1, validUnicode]
      | false => exact ascii_valid (special_ascii special)

theorem join_valid (parts : List JsString) (each : ∀ part ∈ parts, validUnicode part = true) :
    validUnicode (join [comma] parts) = true := by
  induction parts with
  | nil => rfl
  | cons part later ih =>
      have first := each part List.mem_cons_self
      have rest := ih fun other member => each other (List.mem_cons_of_mem part member)
      cases later with
      | nil => exact first
      | cons next remaining =>
          rw [join_cons_cons]
          exact valid_append (valid_append first (by decide)) rest

theorem quote_valid {text : JsString} (valid : validUnicode text = true) :
    validUnicode (quote text) = true := by
  have body := valid_append (escapes_valid valid) (show validUnicode [quoteMark] = true by decide)
  exact valid_append (show validUnicode [quoteMark] = true by decide) body

theorem serialize_valid [NumberFormat] (value : JsValue) :
    assertJson value = .ok () → validUnicode (serialize value) = true := by
  refine value_induction (fun value => assertJson value = .ok () →
    validUnicode (serialize value) = true) ?_ ?_ ?_ ?_ ?_ ?_ value
  · exact fun _ => ascii_valid null_plain
  · exact fun value _ => ascii_valid (word_plain value)
  · exact fun number _ => ascii_valid (number_plain number)
  · exact fun text valid => quote_valid ((assert_str_ok_iff text ()).mp valid)
  · intro items ih valid
    rw [assert_arr_ok_iff] at valid
    rw [serialize_arr, ← List.singleton_append]
    refine valid_append (by decide) (valid_append (join_valid _ ?_) (by decide))
    intro part member
    obtain ⟨item, old, rfl⟩ := List.mem_map.mp member
    exact ih item old (valid item old)
  · intro proto fields ih valid
    rw [assert_obj_ok_iff] at valid
    rw [serialize_obj, ← List.singleton_append]
    refine valid_append (by decide) (valid_append (join_valid _ ?_) (by decide))
    intro part member
    obtain ⟨entry, sorted, rfl⟩ := List.mem_map.mp member
    have old := sort_subset fields sorted
    obtain ⟨name, held⟩ := valid.2 entry old
    rw [memberText, writeMember, ← List.singleton_append]
    exact valid_append (quote_valid name) (valid_append (by decide) (ih entry old held))

theorem valid_last {text : JsString} (valid : validUnicode text = true) :
    ∀ unit ∈ text.getLast?, highSurrogate unit = false := by
  fun_induction validUnicode text with
  | case1 => simp
  | case2 unit high => simp at valid
  | case3 unit high next tail ih =>
      rw [Bool.and_eq_true] at valid
      intro last ends
      cases tail with
      | nil =>
          obtain rfl : next = last := by simpa using ends
          have low := low_bounds valid.1
          simp only [highSurrogate, UInt16.le_iff_toNat_le, Bool.and_eq_false_iff,
            decide_eq_false_iff_not, UInt16.reduceToNat]
          omega
      | cons other more => exact ih valid.2 last (by simpa using ends)
  | case4 unit rest plain ih =>
      rw [Bool.and_eq_true] at valid
      intro last ends
      cases rest with
      | nil =>
          obtain rfl : unit = last := by simpa using ends
          simpa using plain
      | cons other more => exact ih valid.2 last (by simpa using ends)

section Spellings

def hexUnit (unit : UInt16) : Bool := digitUnit unit || 97 ≤ unit && unit ≤ 102

theorem hex_ascii {unit : UInt16} (hex : hexUnit unit = true) : ascii unit = true := by
  simp only [hexUnit, digitUnit, Bool.or_eq_true, Bool.and_eq_true, decide_eq_true_eq,
    UInt16.le_iff_toNat_le, UInt16.reduceToNat] at hex
  simp only [ascii, UInt16.lt_iff_toNat_lt, UInt16.reduceToNat, decide_eq_true_eq]
  omega

theorem hex_untrimmed {unit : UInt16} (hex : hexUnit unit = true) : trimmed unit = false := by
  simp only [hexUnit, digitUnit, Bool.or_eq_true, Bool.and_eq_true, decide_eq_true_eq,
    UInt16.le_iff_toNat_le, UInt16.reduceToNat] at hex
  simp only [trimmed, Bool.or_eq_false_iff, Bool.and_eq_false_iff, decide_eq_false_iff_not,
    beq_eq_false_iff_ne, ne_eq, ← UInt16.toNat_inj, UInt16.le_iff_toNat_le, UInt16.reduceToNat]
  omega

theorem base32_unit_ascii (accumulator : BitVec 32) : ascii (base32Unit accumulator) = true := by
  have listed : ∀ unit ∈ base32Alphabet, ascii unit = true := List.all_eq_true.mp (by decide)
  rw [base32Unit, List.getD_eq_getElem?_getD]
  cases found : base32Alphabet[(accumulator &&& 31#32).toNat]? with
  | none => rfl
  | some unit => exact listed unit (List.mem_of_getElem? found)

theorem drain_ascii (accumulator : BitVec 32) (bits : Nat) :
    ∀ unit ∈ (drainBits accumulator bits).1, ascii unit = true := by
  fun_induction drainBits accumulator bits with
  | case1 bits later ih =>
      rw [List.forall_mem_cons]
      exact ⟨base32_unit_ascii _, ih⟩
  | case2 => simp

theorem base32_loop_ascii (bytes : List Nat) (bits : Nat) (accumulator : BitVec 32) :
    ∀ unit ∈ base32Loop bytes bits accumulator, ascii unit = true := by
  induction bytes generalizing bits accumulator with
  | nil =>
      rw [base32Loop]
      split
      · simp [base32_unit_ascii]
      · simp
  | cons byte rest ih =>
      rw [base32Loop]
      intro unit member
      rcases List.mem_append.mp member with drained | later
      · exact drain_ascii _ _ unit drained
      · exact ih _ _ unit later

theorem digest_id_valid {start : JsString} (valid : validUnicode start = true) (digest : JsString) :
    validUnicode (digestId start digest) = true :=
  valid_append valid (ascii_valid (base32_loop_ascii _ 0 0#32))

def Hexadecimal (hash : JsString → JsString) : Prop :=
  ∀ text, hash text ≠ [] ∧ ∀ unit ∈ hash text, hexUnit unit = true

theorem hexadecimal_sound {hash : JsString → JsString} (law : Hexadecimal hash) (text : JsString) :
    blank (hash text) = false ∧ validUnicode (hash text) = true := by
  obtain ⟨filled, digits⟩ := law text
  obtain ⟨unit, rest, shape⟩ := List.exists_cons_of_ne_nil filled
  have first := hex_untrimmed (digits unit (shape ▸ List.mem_cons_self))
  exact ⟨by simp [blank, shape, first], ascii_valid fun unit member => hex_ascii (digits unit member)⟩

end Spellings

section Values

theorem object_valid {fields : List (String × JsValue)}
    (names : (fields.map Prod.fst).all (fun name => validUnicode (js name)) = true)
    (values : ∀ value ∈ fields.map Prod.snd, assertJson value = .ok ()) :
    assertJson (object fields) = .ok () := by
  rw [object, assert_obj_ok_iff]
  refine ⟨by decide, fun entry member => ?_⟩
  obtain ⟨field, listed, rfl⟩ := List.mem_map.mp member
  exact ⟨List.all_eq_true.mp names _ (List.mem_map_of_mem listed),
    values _ (List.mem_map_of_mem listed)⟩

@[simp] theorem natural_valid (value : Nat) : assertJson (natural value) = .ok () := rfl

@[simp] theorem null_valid : assertJson .null = .ok () := rfl

theorem texts_valid {items : List JsString} (each : ∀ item ∈ items, validUnicode item = true) :
    assertJson (texts items) = .ok () := by
  rw [texts, assert_arr_ok_iff, List.forall_mem_map]
  exact fun item member => (assert_str_ok_iff item ()).mpr (each item member)

end Values

end Horseness.WellFormedText
