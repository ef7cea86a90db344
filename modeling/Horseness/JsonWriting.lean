import Horseness.WellFormedText

/-!
`JSON.stringify` as it stands: members in the order of the object, and lone surrogates escaped. What
it writes is a well-formed line of text, and `JSON.parse` reads a value of the same meaning from it.
-/

namespace Horseness.JsonWriting

open Records ScriptText JsonValues JsonText JsonRoundTrip Utf8Text NormalForms WellFormedText

section Strings

def unicodeEscape (unit : UInt16) : JsString :=
  [backslash, 117, JsonText.hexUnit (unit.toNat / 4096), JsonText.hexUnit (unit.toNat / 256 % 16),
    JsonText.hexUnit (unit.toNat / 16 % 16), JsonText.hexUnit (unit.toNat % 16)]

/-- The body of a string literal: pairs stand for themselves, halves without the other are escaped. -/
def escapeText : JsString → JsString
  | [] => []
  | unit :: rest =>
      if highSurrogate unit then
        match rest with
        | next :: tail =>
            if lowSurrogate next then unit :: next :: escapeText tail
            else unicodeEscape unit ++ escapeText (next :: tail)
        | [] => unicodeEscape unit
      else if lowSurrogate unit then unicodeEscape unit ++ escapeText rest
      else escapeUnit unit ++ escapeText rest

def quoteText (text : JsString) : JsString := quoteMark :: (escapeText text ++ [quoteMark])

theorem hex_digit_unit : ∀ digit < 16, hexDigit (JsonText.hexUnit digit) = some digit := by decide

theorem read_unicode_escape (unit : UInt16) (tail : JsString) :
    readString (unicodeEscape unit ++ tail) =
      (readString tail).map fun later => (unit :: later.1, later.2) := by
  have bound := unit.toNat_lt
  have code : hexFour (JsonText.hexUnit (unit.toNat / 4096)) (JsonText.hexUnit (unit.toNat / 256 % 16))
      (JsonText.hexUnit (unit.toNat / 16 % 16)) (JsonText.hexUnit (unit.toNat % 16)) = some unit := by
    have whole : ((unit.toNat / 4096 * 16 + unit.toNat / 256 % 16) * 16 + unit.toNat / 16 % 16) * 16 +
        unit.toNat % 16 = unit.toNat := by omega
    simp only [hexFour, hex_digit_unit _ (show unit.toNat / 4096 < 16 by omega),
      hex_digit_unit _ (Nat.mod_lt _ (by decide : 0 < 16)), Option.bind_eq_bind, Option.bind_some, whole]
    simp
  simp [unicodeEscape, readString, quoteMark, backslash, code]

theorem read_surrogate {unit : UInt16} (surrogate : highSurrogate unit = true ∨ lowSurrogate unit = true)
    (tail : JsString) :
    readString (unit :: tail) = (readString tail).map fun later => (unit :: later.1, later.2) := by
  have plain := read_escaped unit tail
  rwa [ordinary_escape (surrogate_ordinary surrogate), List.singleton_append] at plain

theorem read_escaped_text (text rest : JsString) :
    readString (escapeText text ++ quoteMark :: rest) = some (text, rest) := by
  fun_induction escapeText text with
  | case1 => rw [List.nil_append, readString.eq_def]; simp
  | case2 unit high next tail low ih =>
      rw [List.cons_append, List.cons_append, read_surrogate (.inl high), read_surrogate (.inr low), ih]
      rfl
  | case3 unit high next tail alone ih => rw [List.append_assoc, read_unicode_escape, ih]; rfl
  | case4 unit high =>
      rw [read_unicode_escape, readString.eq_def]
      simp
  | case5 unit rest _ low ih => rw [List.append_assoc, read_unicode_escape, ih]; rfl
  | case6 unit rest _ plain ih => rw [List.append_assoc, read_escaped, ih]; rfl

/-- Text that is well formed and has no control characters, so it stays on its line. -/
def OneLine (text : JsString) : Prop :=
  validUnicode text = true ∧ ∀ unit ∈ text, 0x20 ≤ unit.toNat

theorem one_line_checked (valid : validUnicode text = true)
    (printed : (text.all fun unit => decide (0x20 ≤ unit.toNat)) = true) : OneLine text :=
  ⟨valid, fun unit inside => of_decide_eq_true (List.all_eq_true.mp printed unit inside)⟩

theorem one_line_append {front back : JsString} (first : OneLine front) (second : OneLine back) :
    OneLine (front ++ back) :=
  ⟨valid_append first.1 second.1, List.forall_mem_append.mpr ⟨first.2, second.2⟩⟩

theorem ascii_one_line {text : JsString} (plain : ∀ unit ∈ text, ascii unit = true ∧ 0x20 ≤ unit.toNat) :
    OneLine text :=
  ⟨ascii_valid fun unit member => (plain unit member).1, fun unit member => (plain unit member).2⟩

theorem hex_unit_plain : ∀ digit < 16, ascii (JsonText.hexUnit digit) = true ∧
    0x20 ≤ (JsonText.hexUnit digit).toNat := by decide

theorem unicode_escape_line (unit : UInt16) : OneLine (unicodeEscape unit) := by
  have bound := unit.toNat_lt
  apply ascii_one_line
  simp only [unicodeEscape, List.forall_mem_cons, List.not_mem_nil, false_implies, implies_true, and_true]
  refine ⟨by decide, by decide, hex_unit_plain _ (by omega), hex_unit_plain _ ?_,
    hex_unit_plain _ ?_, hex_unit_plain _ ?_⟩ <;>
    exact Nat.mod_lt _ (by decide)

theorem escape_visible (unit : UInt16) : ∀ code ∈ escapeUnit unit, 0x20 ≤ code.toNat := by
  by_cases control : unit < 0x20
  · have small : unit.toNat < 32 := UInt16.lt_iff_toNat_lt.mp control
    have first := (hex_unit_plain (unit.toNat / 16) (by omega)).2
    have second := (hex_unit_plain (unit.toNat % 16) (by omega)).2
    rw [escapeUnit]
    split_ifs <;> simp [backslash, quoteMark, first, second]
  · have wide : 0x20 ≤ unit.toNat := by simpa [UInt16.lt_iff_toNat_lt] using control
    rw [escapeUnit]
    split_ifs <;> simp [backslash, quoteMark, wide]

theorem escape_unit_line {unit : UInt16} (plain : highSurrogate unit = false)
    (other : lowSurrogate unit = false) : OneLine (escapeUnit unit) := by
  cases special : ordinary unit with
  | true =>
      rw [ordinary_escape special]
      simp only [ordinary, Bool.and_eq_true, decide_eq_true_eq, UInt16.le_iff_toNat_le] at special
      exact ⟨by simp [validUnicode, plain, other], by simpa using special.2⟩
  | false => exact ⟨ascii_valid (special_ascii special), escape_visible unit⟩

theorem escape_text_line (text : JsString) : OneLine (escapeText text) := by
  fun_induction escapeText text with
  | case1 => exact ⟨rfl, by simp⟩
  | case2 unit high next tail low ih =>
      refine ⟨by simp [validUnicode, high, low, ih.1], ?_⟩
      rw [List.forall_mem_cons, List.forall_mem_cons]
      have first := (high_bounds high).1
      have second := (low_bounds low).1
      exact ⟨by omega, by omega, ih.2⟩
  | case3 unit high next tail alone ih => exact one_line_append (unicode_escape_line unit) ih
  | case4 unit high => exact unicode_escape_line unit
  | case5 unit rest _ low ih => exact one_line_append (unicode_escape_line unit) ih
  | case6 unit rest plain other ih =>
      exact one_line_append (escape_unit_line (by simpa using plain) (by simpa using other)) ih

theorem quote_text_line (text : JsString) : OneLine (quoteText text) := by
  have mark : OneLine [quoteMark] := one_line_checked (by decide) (by decide)
  exact one_line_append mark (one_line_append (escape_text_line text) mark)

end Strings

section Writing

variable [NumberFormat]

mutual

/-- `JSON.stringify`: each visible member once, in the order of the object. -/
def stringify : JsValue → JsString
  | .null => js "null"
  | .bool value => if value then js "true" else js "false"
  | .num value => JsonText.JsNumber.serialize value
  | .str text => quoteText text
  | .arr items => openBracket :: (join [comma] (stringifyItems items) ++ [closeBracket])
  | .obj _ fields =>
      openBrace :: (join [comma] ((distinct (stringifyFields fields)).map fun member =>
        quoteText member.1 ++ colon :: member.2) ++ [closeBrace])
termination_by structural value => value

def stringifyItems : List JsValue → List JsString
  | [] => []
  | item :: rest => stringify item :: stringifyItems rest
termination_by structural items => items

def stringifyFields : List (JsString × JsValue) → List (JsString × JsString)
  | [] => []
  | (name, value) :: rest => (name, stringify value) :: stringifyFields rest
termination_by structural fields => fields

end

mutual

def reread : JsValue → JsValue
  | .null => .null
  | .bool value => .bool value
  | .num value => value.normalize
  | .str text => .str text
  | .arr items => .arr (rereadItems items)
  | .obj _ fields => .obj .object (distinct (rereadFields fields))
termination_by structural value => value

def rereadItems : List JsValue → List JsValue
  | [] => []
  | item :: rest => reread item :: rereadItems rest
termination_by structural items => items

def rereadFields : List (JsString × JsValue) → List (JsString × JsValue)
  | [] => []
  | (name, value) :: rest => (name, reread value) :: rereadFields rest
termination_by structural fields => fields

end

theorem stringify_items (items : List JsValue) : stringifyItems items = items.map stringify := by
  induction items with
  | nil => rfl
  | cons item rest ih => simp [stringifyItems, ih]

theorem stringify_fields (fields : List (JsString × JsValue)) :
    stringifyFields fields = fields.map (fun entry => (entry.1, stringify entry.2)) := by
  induction fields with
  | nil => rfl
  | cons entry rest ih => simp [stringifyFields, ih]

omit [NumberFormat] in
theorem reread_items (items : List JsValue) : rereadItems items = items.map reread := by
  induction items with
  | nil => rfl
  | cons item rest ih => simp [rereadItems, ih]

omit [NumberFormat] in
theorem reread_fields (fields : List (JsString × JsValue)) :
    rereadFields fields = fields.map (fun entry => (entry.1, reread entry.2)) := by
  induction fields with
  | nil => rfl
  | cons entry rest ih => simp [rereadFields, ih]

def memberLine (entry : JsString × JsValue) : JsString :=
  quoteText entry.1 ++ colon :: stringify entry.2

theorem stringify_arr (items : List JsValue) :
    stringify (.arr items) = openBracket :: (join [comma] (items.map stringify) ++ [closeBracket]) := by
  rw [stringify, stringify_items]

theorem stringify_obj (proto : JsProto) (fields : List (JsString × JsValue)) :
    stringify (.obj proto fields) =
      openBrace :: (join [comma] ((distinct fields).map memberLine) ++ [closeBrace]) := by
  rw [stringify, stringify_fields, distinct_map, List.map_map]
  rfl

omit [NumberFormat] in
theorem meaning_reread (value : JsValue) : meaning (reread value) = meaning value := by
  refine value_induction (fun value => meaning (reread value) = meaning value)
    rfl (fun _ => rfl) ?_ (fun _ => rfl) ?_ ?_ value
  · intro number
    cases number <;> rfl
  · intro items ih
    simp only [reread, meaning, meaning_items, reread_items, List.map_map]
    exact congrArg JsonTree.arr (List.map_congr_left ih)
  · intro proto fields ih
    simp only [reread, meaning, meaning_fields, reread_fields, find_distinct, find_map]
    refine congrArg JsonTree.obj (funext fun name => ?_)
    cases found : findEntry name fields with
    | none => rfl
    | some field => simpa using ih (name, field) (find_member name field fields found)

theorem opens_stringify (value : JsValue) : Opens closeBracket (stringify value) := by
  cases value with
  | null => exact opens_serialize .null
  | bool value => exact opens_serialize (.bool value)
  | num number => exact opens_serialize (.num number)
  | str text => exact ⟨quoteMark, _, rfl, rfl, by decide⟩
  | arr items => exact ⟨openBracket, _, rfl, rfl, by decide⟩
  | obj proto fields => exact ⟨openBrace, _, rfl, rfl, by decide⟩

theorem shorter_member (entry : JsString × JsValue) :
    (stringify entry.2).length < (memberLine entry).length := by
  simp only [memberLine, quoteText, List.length_append, List.length_cons]
  omega

-- The reading law, by induction on the value as for canonical texts.
theorem parse_value_stringify (value : JsValue) : ∀ fuel, (stringify value).length < fuel →
    Reads (parseValue fuel) (stringify value) (reread value) := by
  refine value_induction (fun value => ∀ fuel, (stringify value).length < fuel →
    Reads (parseValue fuel) (stringify value) (reread value)) ?_ ?_ ?_ ?_ ?_ ?_ value
  · exact parse_value_serialize .null
  · exact fun value => parse_value_serialize (.bool value)
  · exact fun number => parse_value_serialize (.num number)
  · rintro text (_ | fuel) enough
    · exact absurd enough (Nat.not_lt_zero _)
    · exact reads_string fuel (read_escaped_text text)
  · rintro items ih (_ | fuel) enough
    · exact absurd enough (Nat.not_lt_zero _)
    · rw [stringify_arr] at enough ⊢
      have each : ∀ pair ∈ items.map (fun item => (stringify item, reread item)),
          Reads (parseValue fuel) pair.1 pair.2 := by
        intro pair member
        obtain ⟨item, old, rfl⟩ := List.mem_map.mp member
        exact ih item old fuel (shorter_item (List.mem_map_of_mem old) enough)
      have opens : ∀ pair ∈ items.map (fun item => (stringify item, reread item)),
          Opens closeBracket pair.1 := by
        intro pair member
        obtain ⟨item, -, rfl⟩ := List.mem_map.mp member
        exact opens_stringify item
      have inner := reads_array fuel _ each opens
      simp only [List.map_map, Function.comp_def] at inner
      rw [reread, reread_items]
      exact inner
  · rintro proto fields ih (_ | fuel) enough
    · exact absurd enough (Nat.not_lt_zero _)
    · rw [stringify_obj] at enough ⊢
      have each : ∀ pair ∈ (distinct fields).map
          (fun entry => (memberLine entry, (entry.1, reread entry.2))),
          Reads (readMember (parseValue fuel)) pair.1 pair.2 := by
        intro pair member
        obtain ⟨entry, old, rfl⟩ := List.mem_map.mp member
        have short := shorter_item (List.mem_map_of_mem old) enough
        exact reads_member (read_escaped_text entry.1) (ih entry (distinct_subset fields old) fuel
          ((shorter_member entry).trans short))
      have opens : ∀ pair ∈ (distinct fields).map
          (fun entry => (memberLine entry, (entry.1, reread entry.2))), Opens closeBrace pair.1 := by
        intro pair member
        obtain ⟨entry, -, rfl⟩ := List.mem_map.mp member
        exact ⟨quoteMark, _, rfl, rfl, by decide⟩
      have inner := reads_object fuel _ each opens (by
        simpa [Function.comp_def] using distinct_unique fields)
      simp only [List.map_map, Function.comp_def] at inner
      rw [reread, reread_fields, distinct_map]
      exact inner

theorem parse_stringify (value : JsValue) : parse (stringify value) = some (reread value) := by
  have read := parse_value_stringify value _ (Nat.lt_succ_self _) [] (by simp [Ended])
  rw [List.append_nil] at read
  rw [parse, read]
  rfl

omit [NumberFormat] in
theorem words_line : OneLine (js "null") ∧ OneLine (js "true") ∧ OneLine (js "false") :=
  ⟨one_line_checked (by decide) (by decide), one_line_checked (by decide) (by decide),
    one_line_checked (by decide) (by decide)⟩

theorem number_line (number : JsNumber) : OneLine (stringify (.num number)) := by
  have visible : ∀ unit, numberUnit unit = true → 0x20 ≤ unit.toNat := by
    intro unit digit
    simp only [numberUnit, digitUnit, Bool.or_eq_true, Bool.and_eq_true, decide_eq_true_eq, beq_iff_eq,
      UInt16.le_iff_toNat_le, ← UInt16.toNat_inj, UInt16.reduceToNat] at digit
    omega
  have written (value : Rat) : OneLine (NumberFormat.write value) := by
    refine ascii_one_line fun unit member => ?_
    have digit := NumberFormat.write_units value unit member
    exact ⟨number_ascii digit, visible unit digit⟩
  cases number with
  | finite value => exact written value
  | negativeZero =>
      rw [stringify, JsonText.JsNumber.serialize, ← NumberFormat.write_zero]
      exact written 0
  | nan => exact words_line.1
  | infinite negative => exact words_line.1

omit [NumberFormat] in
theorem join_line (parts : List JsString) (each : ∀ part ∈ parts, OneLine part) :
    OneLine (join [comma] parts) := by
  refine ⟨join_valid parts fun part member => (each part member).1, ?_⟩
  induction parts with
  | nil => exact List.forall_mem_nil _
  | cons part later ih =>
      have first := (each part List.mem_cons_self).2
      have rest := ih fun other member => each other (List.mem_cons_of_mem part member)
      cases later with
      | nil => exact first
      | cons next remaining =>
          rw [join_cons_cons]
          exact List.forall_mem_append.mpr
            ⟨List.forall_mem_append.mpr ⟨first, List.forall_mem_singleton.mpr (by decide)⟩, rest⟩

omit [NumberFormat] in
theorem bracketed_line {first last : UInt16} {body : JsString} (opens : OneLine [first])
    (closes : OneLine [last]) (inner : OneLine body) : OneLine (first :: (body ++ [last])) :=
  one_line_append opens (one_line_append inner closes)

theorem stringify_line (value : JsValue) : OneLine (stringify value) := by
  refine value_induction (fun value => OneLine (stringify value)) ?_ ?_ ?_ ?_ ?_ ?_ value
  · exact words_line.1
  · rintro (_ | _)
    · exact words_line.2.2
    · exact words_line.2.1
  · exact number_line
  · exact quote_text_line
  · intro items ih
    rw [stringify_arr]
    refine bracketed_line (one_line_checked (by decide) (by decide))
      (one_line_checked (by decide) (by decide)) (join_line _ ?_)
    exact List.forall_mem_map.mpr ih
  · intro proto fields ih
    rw [stringify_obj]
    refine bracketed_line (one_line_checked (by decide) (by decide))
      (one_line_checked (by decide) (by decide)) (join_line _ ?_)
    refine List.forall_mem_map.mpr fun entry member => ?_
    have mark : OneLine [colon] := one_line_checked (by decide) (by decide)
    exact one_line_append (quote_text_line entry.1)
      (one_line_append mark (ih entry (distinct_subset fields member)))

theorem stringify_filled (value : JsValue) : stringify value ≠ [] := by
  obtain ⟨unit, rest, shape, _, _⟩ := opens_stringify value
  rw [shape]
  exact List.cons_ne_nil _ _

end Writing

end Horseness.JsonWriting
