import Horseness.JsonWriting
import Mathlib.Algebra.BigOperators.Group.List.Basic
import Mathlib.Algebra.GroupWithZero.Nat

/-!
How many bytes a value takes as a line of JSON. The size of an object is the sizes of its members
and its marks, so what a value grows by is what one of its parts grows by.
-/

namespace Horseness.JsonSizes

open Records ScriptText JsonValues JsonText JsonWriting ScriptEngine Utf8Text NormalForms
  WellFormedText

section Texts

theorem byte_append {front : JsString} (valid : validUnicode front = true) (back : JsString) :
    byteLength (front ++ back) = byteLength front + byteLength back := by
  rw [byteLength, utf8_append front back (valid_last valid), List.length_append]
  rfl

theorem byte_cons {unit : UInt16} (small : unit < 0x80) (rest : JsString) :
    byteLength (unit :: rest) = 1 + byteLength rest := by
  rw [byteLength, utf8.eq_def]
  simp only [small, if_true, List.length_cons]
  exact Nat.add_comm _ _

theorem byte_join {parts : List JsString} (valid : ∀ part ∈ parts, validUnicode part = true) :
    byteLength (join [comma] parts) = (parts.map byteLength).sum + (parts.length - 1) := by
  induction parts with
  | nil => rfl
  | cons part rest ih =>
      rw [List.forall_mem_cons] at valid
      cases rest with
      | nil => simp [join]
      | cons next later =>
          rw [join_cons_cons, List.append_assoc, byte_append valid.1, List.singleton_append,
            byte_cons (by decide), ih valid.2]
          simp only [List.map_cons, List.sum_cons, List.length_cons]
          omega

def textSize (text : JsString) : Nat := byteLength (quoteText text)

def plainUnit (unit : UInt16) : Prop := ordinary unit = true ∧ unit < 0x80

theorem plain_escape {text : JsString} (plain : ∀ unit ∈ text, plainUnit unit) :
    escapeText text = text := by
  induction text with
  | nil => rfl
  | cons unit rest ih =>
      rw [List.forall_mem_cons] at plain
      have small : unit.toNat < 0x80 := UInt16.lt_iff_toNat_lt.mp plain.1.2
      have high : highSurrogate unit = false := by
        by_contra surrogate
        have wide := (high_bounds (by simpa using surrogate)).1
        omega
      have low : lowSurrogate unit = false := by
        by_contra surrogate
        have wide := (low_bounds (by simpa using surrogate)).1
        omega
      rw [escapeText.eq_def]
      simp only [high, low, Bool.false_eq_true, if_false]
      rw [ordinary_escape plain.1.1, ih plain.2]
      rfl

theorem plain_bytes {text : JsString} (plain : ∀ unit ∈ text, plainUnit unit) :
    byteLength text = text.length := by
  induction text with
  | nil => rfl
  | cons unit rest ih =>
      rw [List.forall_mem_cons] at plain
      rw [byte_cons plain.1.2, ih plain.2, List.length_cons, Nat.add_comm]

theorem quote_bytes (text : JsString) : textSize text = byteLength (escapeText text) + 2 := by
  rw [textSize, quoteText, byte_cons (by decide), byte_append (escape_text_line text).1]
  have mark : byteLength [quoteMark] = 1 := rfl
  omega

theorem plain_size {text : JsString} (plain : ∀ unit ∈ text, plainUnit unit) :
    textSize text = text.length + 2 := by
  rw [quote_bytes, plain_escape plain, plain_bytes plain]

end Texts

section Values

variable [NumberFormat]

def size (value : JsValue) : Nat := byteLength (stringify value)

theorem size_text (text : JsString) : size (.str text) = textSize text := rfl

def memberSize (name : JsString) (value : JsValue) : Nat := textSize name + 1 + size value

theorem member_size (entry : JsString × JsValue) :
    byteLength (memberLine entry) = memberSize entry.1 entry.2 := by
  rw [memberLine, byte_append (quote_text_line entry.1).1, byte_cons (by decide), memberSize, textSize,
    size]
  omega

theorem size_array (items : List JsValue) :
    size (.arr items) = 2 + (items.map size).sum + (items.length - 1) := by
  have each : ∀ part ∈ items.map stringify, OneLine part := by
    intro part member
    obtain ⟨item, -, rfl⟩ := List.mem_map.mp member
    exact stringify_line item
  rw [size, stringify_arr, byte_cons (by decide), byte_append (join_line _ each).1,
    byte_join fun part member => (each part member).1, List.map_map, List.length_map]
  have last : byteLength [closeBracket] = 1 := rfl
  have same : (items.map (byteLength ∘ stringify)).sum = (items.map size).sum := rfl
  omega

theorem size_members (proto : JsProto) (fields : List (JsString × JsValue)) :
    size (.obj proto fields) =
      2 + ((distinct fields).map fun entry => memberSize entry.1 entry.2).sum +
        ((distinct fields).length - 1) := by
  have each : ∀ part ∈ (distinct fields).map memberLine, OneLine part := by
    intro part member
    obtain ⟨entry, -, rfl⟩ := List.mem_map.mp member
    have mark : OneLine [colon] := one_line_checked (by decide) (by decide)
    exact one_line_append (quote_text_line entry.1) (one_line_append mark (stringify_line entry.2))
  rw [size, stringify_obj, byte_cons (by decide), byte_append (join_line _ each).1,
    byte_join fun part member => (each part member).1, List.map_map, List.length_map]
  have last : byteLength [closeBrace] = 1 := rfl
  have same : ((distinct fields).map (byteLength ∘ memberLine)).sum =
      ((distinct fields).map fun entry => memberSize entry.1 entry.2).sum :=
    congrArg List.sum (List.map_congr_left fun entry _ => member_size entry)
  omega

omit [NumberFormat] in
theorem distinct_fields {Value : Type} {fields : List (JsString × Value)}
    (unique : (fields.map Prod.fst).Nodup) : distinct fields = fields := by
  induction fields with
  | nil => rfl
  | cons entry rest ih =>
      obtain ⟨fresh, unique⟩ := List.nodup_cons.mp unique
      rw [distinct, ih unique, List.filter_eq_self.mpr]
      intro later member
      have apart : later.1 ≠ entry.1 := fun same => fresh (same ▸ List.mem_map_of_mem member)
      exact decide_eq_true apart

def frameSize (names : List String) : Nat :=
  2 + (names.map fun name => textSize (js name) + 1).sum + (names.length - 1)

omit [NumberFormat] in
theorem sum_add {Item : Type} (items : List Item) (one other : Item → Nat) :
    (items.map fun item => one item + other item).sum = (items.map one).sum + (items.map other).sum := by
  induction items with
  | nil => rfl
  | cons item rest ih =>
      simp only [List.map_cons, List.sum_cons, ih]
      omega

theorem size_object (fields : List (String × JsValue))
    (unique : (fields.map fun field => js field.1).Nodup) :
    size (object fields) =
      frameSize (fields.map Prod.fst) + (fields.map fun field => size field.2).sum := by
  have spelled : ((fields.map fun field => (js field.1, field.2)).map Prod.fst).Nodup := by
    rwa [List.map_map]
  rw [object, size_members, distinct_fields spelled, List.map_map, List.length_map]
  have parts : (fields.map ((fun entry : JsString × JsValue => memberSize entry.1 entry.2) ∘
      fun field => (js field.1, field.2))).sum =
      (fields.map fun field => textSize (js field.1) + 1).sum +
        (fields.map fun field => size field.2).sum := sum_add _ _ _
  have names : ((fields.map Prod.fst).map fun name => textSize (js name) + 1).sum =
      (fields.map fun field => textSize (js field.1) + 1).sum := by
    rw [List.map_map]
    rfl
  rw [parts, frameSize, names, List.length_map]
  omega

theorem size_dictionary {Value : Type} (write : Value → JsValue) (record : Record JsString Value) :
    size (.obj .object (record.entries.map fun entry => (entry.1, write entry.2))) =
      2 + (record.entries.map fun entry => memberSize entry.1 (write entry.2)).sum +
        (record.entries.length - 1) := by
  have spelled : ((record.entries.map fun entry => (entry.1, write entry.2)).map Prod.fst).Nodup := by
    rw [List.map_map]
    exact record.unique
  rw [size_members, distinct_fields spelled, List.map_map, List.length_map]
  rfl

end Values

end Horseness.JsonSizes
