import Horseness.JsonText

/-!
Reading a written text gives back the value's normal form. Two values are
written alike exactly when they denote the same tree.
-/

namespace Horseness.JsonRoundTrip

open Records ScriptText JsonValues JsonText

section Strings

theorem hex_control : ∀ code < 32,
    hexFour 48 48 (hexUnit (code / 16)) (hexUnit (code % 16)) = some code.toUInt16 := by
  decide

theorem read_escaped (unit : UInt16) (tail : JsString) :
    readString (escapeUnit unit ++ tail) =
      (readString tail).map (fun later => (unit :: later.1, later.2)) := by
  by_cases isQuote : unit = quoteMark
  · subst isQuote; rfl
  by_cases isBackslash : unit = backslash
  · subst isBackslash; rfl
  by_cases isBackspace : unit = 8
  · subst isBackspace; rfl
  by_cases isTab : unit = 9
  · subst isTab; rfl
  by_cases isLine : unit = 10
  · subst isLine; rfl
  by_cases isFeed : unit = 12
  · subst isFeed; rfl
  by_cases isReturn : unit = 13
  · subst isReturn; rfl
  by_cases control : unit < 0x20
  · have small : unit.toNat < 32 := UInt16.lt_iff_toNat_lt.mp control
    have back : unit.toNat.toUInt16 = unit := by simp
    have hex := hex_control unit.toNat small
    rw [back] at hex
    simp only [escapeUnit, isQuote, isBackslash, isBackspace, isTab, isLine, isFeed, isReturn,
      control, if_true, if_false, List.cons_append, List.nil_append]
    simp [readString, quoteMark, backslash, hex]
  · have plain : escapeUnit unit = [unit] := by
      simp [escapeUnit, isQuote, isBackslash, isBackspace, isTab, isLine, isFeed, isReturn, control]
    rw [plain, List.singleton_append, readString.eq_def]
    simp [isQuote, isBackslash, control]

theorem read_quoted (text rest : JsString) :
    readString (text.flatMap escapeUnit ++ quoteMark :: rest) = some (text, rest) := by
  induction text with
  | nil => rw [List.flatMap_nil, List.nil_append, readString.eq_def]; simp
  | cons unit later ih => rw [List.flatMap_cons, List.append_assoc, read_escaped, ih]; rfl

end Strings

section Items

variable {Item : Type}

def Ended (rest : JsString) : Prop := ∀ unit ∈ rest.head?, numberUnit unit = false

def Reads (parser : JsString → Option (Item × JsString)) (text : JsString) (value : Item) : Prop :=
  ∀ rest, Ended rest → parser (text ++ rest) = some (value, rest)

def Mark (unit : UInt16) : Prop := numberUnit unit = false ∧ jsonSpace unit = false

theorem ended_mark {unit : UInt16} (mark : Mark unit) (rest : JsString) : Ended (unit :: rest) := by
  intro head member
  obtain rfl : unit = head := by simpa using member
  exact mark.1

theorem skip_mark {unit : UInt16} (mark : Mark unit) (rest : JsString) :
    skipSpace (unit :: rest) = unit :: rest := by
  simp [skipSpace, mark.2]

theorem comma_mark : Mark comma := ⟨rfl, rfl⟩
theorem colon_mark : Mark colon := ⟨rfl, rfl⟩
theorem quote_mark : Mark quoteMark := ⟨rfl, rfl⟩

theorem read_items (item : JsString → Option (Item × JsString)) (close : UInt16)
    (closes : Mark close) (apart : close ≠ comma) (pairs : List (JsString × Item))
    (each : ∀ pair ∈ pairs, Reads item pair.1 pair.2) (filled : pairs ≠ []) (fuel : Nat)
    (enough : pairs.length ≤ fuel) (rest : JsString) :
    readItems item close fuel (join [comma] (pairs.map Prod.fst) ++ close :: rest) =
      some (pairs.map Prod.snd, rest) := by
  induction pairs generalizing fuel with
  | nil => exact absurd rfl filled
  | cons pair later ih =>
      obtain ⟨less, rfl⟩ : ∃ less, fuel = less + 1 := ⟨fuel - 1, by simp at enough; omega⟩
      have first := each pair List.mem_cons_self
      cases later with
      | nil =>
          have ready := first (close :: rest) (ended_mark closes rest)
          simp [readItems, join, ready, skip_mark closes, apart]
      | cons next remaining =>
          have inner := ih (fun other member => each other (List.mem_cons_of_mem pair member))
            (by simp) less (by simp at enough ⊢; omega)
          have ready := first (comma :: (join [comma] ((next :: remaining).map Prod.fst) ++
            close :: rest)) (ended_mark comma_mark _)
          simp only [List.map_cons, join_cons_cons, List.append_assoc, List.cons_append,
            List.nil_append] at inner ready ⊢
          simp [readItems, ready, skip_mark comma_mark, inner]

/-- An item's text starts with a unit that is neither skipped nor the closing mark. -/
def Opens (close : UInt16) (text : JsString) : Prop :=
  ∃ unit rest, text = unit :: rest ∧ jsonSpace unit = false ∧ unit ≠ close

theorem read_sequence (item : JsString → Option (Item × JsString)) (close : UInt16)
    (closes : Mark close) (apart : close ≠ comma) (pairs : List (JsString × Item))
    (each : ∀ pair ∈ pairs, Reads item pair.1 pair.2)
    (opens : ∀ pair ∈ pairs, Opens close pair.1) (rest : JsString) :
    readSequence item close (join [comma] (pairs.map Prod.fst) ++ close :: rest) =
      some (pairs.map Prod.snd, rest) := by
  cases pairs with
  | nil => simp [readSequence, join, skip_mark closes]
  | cons pair later =>
      obtain ⟨unit, tail, shape, seen, other⟩ := opens pair List.mem_cons_self
      obtain ⟨body, starts⟩ : ∃ body, join [comma] ((pair :: later).map Prod.fst) = unit :: body := by
        cases later with
        | nil => exact ⟨tail, by simp [join, shape]⟩
        | cons next remaining => exact ⟨_, by rw [List.map_cons, List.map_cons, join_cons_cons, shape]; rfl⟩
      have counted : (pair :: later).length ≤ (unit :: (body ++ close :: rest)).length := by
        have bound := join_length_ge [comma] ((pair :: later).map Prod.fst) (by simp)
        rw [starts] at bound
        simp only [List.length_map, List.length_cons, List.length_append] at bound ⊢
        omega
      have inner := read_items item close closes apart (pair :: later) each (by simp)
        (unit :: (body ++ close :: rest)).length counted rest
      rw [starts, List.cons_append] at inner ⊢
      have kept : skipSpace (unit :: (body ++ close :: rest)) = unit :: (body ++ close :: rest) := by
        simp [skipSpace, seen]
      simp only [readSequence, kept, other, if_false, inner]

end Items

section Values

variable [NumberFormat]

theorem serialize_items (items : List JsValue) : serializeItems items = items.map serialize := by
  induction items with
  | nil => rfl
  | cons item rest ih => simp [serializeItems, ih]

theorem serialize_fields (fields : List (JsString × JsValue)) :
    serializeFields fields = fields.map (fun entry => (entry.1, serialize entry.2)) := by
  induction fields with
  | nil => rfl
  | cons entry rest ih => simp [serializeFields, ih]

def memberText (entry : JsString × JsValue) : JsString := writeMember (entry.1, serialize entry.2)

theorem serialize_arr (items : List JsValue) :
    serialize (.arr items) =
      openBracket :: (join [comma] (items.map serialize) ++ [closeBracket]) := by
  rw [serialize, serialize_items]

theorem serialize_obj (proto : JsProto) (fields : List (JsString × JsValue)) :
    serialize (.obj proto fields) =
      openBrace :: (join [comma] ((sortFields fields).map memberText) ++ [closeBrace]) := by
  rw [serialize, serialize_fields, sort_map, List.map_map]
  rfl

theorem read_number (value : Rat) : Reads readNumber (NumberFormat.write value)
    (.num (.finite value)) := by
  intro rest ended
  have stops : rest.takeWhile numberUnit = [] ∧ rest.dropWhile numberUnit = rest := by
    cases rest with
    | nil => exact ⟨rfl, rfl⟩
    | cons unit tail => simp [ended unit rfl]
  have taken : (NumberFormat.write value ++ rest).takeWhile numberUnit = NumberFormat.write value := by
    rw [List.takeWhile_append_of_pos (NumberFormat.write_units value), stops.1, List.append_nil]
  have left : (NumberFormat.write value ++ rest).dropWhile numberUnit = rest := by
    rw [List.dropWhile_append_of_pos (NumberFormat.write_units value), stops.2]
  rw [readNumber, taken, left, NumberFormat.read_write]
  rfl

omit [NumberFormat] in
theorem number_unit_plain {unit : UInt16} (number : numberUnit unit = true) :
    jsonSpace unit = false ∧ unit ≠ quoteMark ∧ unit ≠ openBracket ∧ unit ≠ openBrace ∧
      unit ≠ closeBracket ∧ unit ≠ 110 ∧ unit ≠ 116 ∧ unit ≠ 102 := by
  refine ⟨?_, ?_, ?_, ?_, ?_, ?_, ?_, ?_⟩
  · by_contra space
    simp only [jsonSpace, Bool.not_eq_false, Bool.or_eq_true, beq_iff_eq] at space
    rcases space with ((rfl | rfl) | rfl) | rfl <;> exact absurd number (by decide)
  all_goals
    rintro rfl
    exact absurd number (by decide)

theorem write_head (value : Rat) : ∃ unit rest,
    NumberFormat.write value = unit :: rest ∧ numberUnit unit = true := by
  have units := NumberFormat.write_units value
  cases shape : NumberFormat.write value with
  | nil => exact absurd shape (NumberFormat.write_nonempty value)
  | cons unit rest => exact ⟨unit, rest, rfl, units unit (shape ▸ List.mem_cons_self)⟩

-- A value is read through its number text, once that is its whole text.
theorem read_written (value : Rat) (fuel : Nat) : Reads (parseValue (fuel + 1))
    (NumberFormat.write value) (.num (.finite value)) := by
  intro rest ended
  obtain ⟨unit, tail, shape, number⟩ := write_head value
  obtain ⟨seen, notQuote, notBracket, notBrace, -, notNull, notTrue, notFalse⟩ :=
    number_unit_plain number
  have inner := read_number value rest ended
  rw [shape, List.cons_append] at inner ⊢
  have kept : skipSpace (unit :: (tail ++ rest)) = unit :: (tail ++ rest) := by
    simp [skipSpace, seen]
  simp only [parseValue, kept, notQuote, notBracket, notBrace, notNull, notTrue, notFalse, if_false,
    inner]

omit [NumberFormat] in
theorem read_word (word : JsString) (value : JsValue) (rest : JsString) :
    readWord word value (word ++ rest) = some (value, rest) := by
  simp [readWord]

theorem read_null (fuel : Nat) : Reads (parseValue (fuel + 1)) (js "null") .null :=
  fun rest _ => read_word (js "null") .null rest

theorem read_true (fuel : Nat) : Reads (parseValue (fuel + 1)) (js "true") (.bool true) :=
  fun rest _ => read_word (js "true") (.bool true) rest

theorem read_false (fuel : Nat) : Reads (parseValue (fuel + 1)) (js "false") (.bool false) :=
  fun rest _ => read_word (js "false") (.bool false) rest

theorem opens_serialize (value : JsValue) : Opens closeBracket (serialize value) := by
  cases value with
  | null => exact ⟨110, _, rfl, rfl, by decide⟩
  | bool value => cases value <;> exact ⟨_, _, rfl, rfl, by decide⟩
  | num number =>
      cases number with
      | finite value =>
          obtain ⟨unit, rest, shape, number⟩ := write_head value
          have plain := number_unit_plain number
          exact ⟨unit, rest, shape, plain.1, plain.2.2.2.2.1⟩
      | negativeZero => exact ⟨48, _, rfl, rfl, by decide⟩
      | nan => exact ⟨110, _, rfl, rfl, by decide⟩
      | infinite negative => exact ⟨110, _, rfl, rfl, by decide⟩
  | str text => exact ⟨quoteMark, _, rfl, rfl, by decide⟩
  | arr items => exact ⟨openBracket, _, rfl, rfl, by decide⟩
  | obj proto fields => exact ⟨openBrace, _, rfl, rfl, by decide⟩

theorem opens_member (entry : JsString × JsValue) : Opens closeBrace (memberText entry) :=
  ⟨quoteMark, _, rfl, rfl, by decide⟩

omit [NumberFormat] in
theorem reads_member {value : JsString → Option (JsValue × JsString)} {name body text : JsString}
    {result : JsValue} (literal : ∀ rest, readString (body ++ quoteMark :: rest) = some (name, rest))
    (reads : Reads value text result) :
    Reads (readMember value) (quoteMark :: (body ++ [quoteMark]) ++ colon :: text) (name, result) := by
  intro rest ended
  have inner := reads rest ended
  have shape : quoteMark :: (body ++ [quoteMark]) ++ colon :: text ++ rest =
      quoteMark :: (body ++ quoteMark :: (colon :: (text ++ rest))) := by simp
  rw [shape, readMember, skip_mark quote_mark]
  simp [literal, skip_mark colon_mark, inner]

theorem read_member {value : JsString → Option (JsValue × JsString)} (entry : JsString × JsValue)
    (result : JsValue) (reads : Reads value (serialize entry.2) result) :
    Reads (readMember value) (memberText entry) (entry.1, result) :=
  reads_member (read_quoted entry.1) reads

omit [NumberFormat] in
theorem fold_write_fresh (members before : List (JsString × JsValue))
    (unique : ((before ++ members).map Prod.fst).Nodup) :
    members.foldl (fun fields member => writeEntry member.1 member.2 fields) before =
      before ++ members := by
  induction members generalizing before with
  | nil => simp
  | cons member rest ih =>
      have fresh : member.1 ∉ before.map Prod.fst := by
        rw [List.map_append, List.map_cons] at unique
        intro old
        exact (List.disjoint_of_nodup_append unique) old List.mem_cons_self
      rw [List.foldl_cons, write_fresh member.1 member.2 before fresh, ih]
      · simp
      · simpa using unique

omit [NumberFormat] in
theorem shorter_item {separator : JsString} {parts : List JsString} {part : JsString} {fuel : Nat}
    {first last : UInt16} (member : part ∈ parts)
    (enough : (first :: (join separator parts ++ [last])).length < fuel + 1) :
    part.length < fuel := by
  have bound := part_length_le separator part parts member
  simp only [List.length_cons, List.length_append, List.length_nil] at enough
  omega

theorem value_length_lt_member (entry : JsString × JsValue) :
    (serialize entry.2).length < (memberText entry).length := by
  simp only [memberText, writeMember, quote, List.length_append, List.length_cons]
  omega

/-- A string is read through its literal, an array through its items, an object through its
members; a part's text is read with one level of nesting less. -/
theorem reads_string {name body : JsString} (fuel : Nat)
    (literal : ∀ rest, readString (body ++ quoteMark :: rest) = some (name, rest)) :
    Reads (parseValue (fuel + 1)) (quoteMark :: (body ++ [quoteMark])) (.str name) := by
  intro rest ended
  have shape : quoteMark :: (body ++ [quoteMark]) ++ rest = quoteMark :: (body ++ quoteMark :: rest) := by
    simp
  rw [shape, parseValue, skip_mark quote_mark]
  simp [literal]

theorem reads_array (fuel : Nat) (pairs : List (JsString × JsValue))
    (each : ∀ pair ∈ pairs, Reads (parseValue fuel) pair.1 pair.2)
    (opens : ∀ pair ∈ pairs, Opens closeBracket pair.1) :
    Reads (parseValue (fuel + 1))
      (openBracket :: (join [comma] (pairs.map Prod.fst) ++ [closeBracket]))
      (.arr (pairs.map Prod.snd)) := by
  intro rest ended
  have inner := read_sequence (parseValue fuel) closeBracket ⟨rfl, rfl⟩ (by decide) pairs each opens rest
  simp only [List.cons_append, List.append_assoc, List.nil_append, parseValue,
    skip_mark (show Mark openBracket from ⟨rfl, rfl⟩)]
  simp [inner, quoteMark, openBracket]

theorem reads_object (fuel : Nat) (members : List (JsString × (JsString × JsValue)))
    (each : ∀ pair ∈ members, Reads (readMember (parseValue fuel)) pair.1 pair.2)
    (opens : ∀ pair ∈ members, Opens closeBrace pair.1)
    (unique : ((members.map Prod.snd).map Prod.fst).Nodup) :
    Reads (parseValue (fuel + 1))
      (openBrace :: (join [comma] (members.map Prod.fst) ++ [closeBrace]))
      (.obj .object (members.map Prod.snd)) := by
  intro rest ended
  have inner := read_sequence (readMember (parseValue fuel)) closeBrace ⟨rfl, rfl⟩ (by decide) members
    each opens rest
  have built := fold_write_fresh (members.map Prod.snd) [] unique
  simp only [List.cons_append, List.append_assoc, List.nil_append, parseValue,
    skip_mark (show Mark openBrace from ⟨rfl, rfl⟩)]
  rw [List.nil_append] at built
  simp [inner, built, quoteMark, openBracket, openBrace]

/-- The reading law. The induction is on the value; a part's text is shorter than
the whole, so the nesting bound given by the length carries over. -/
theorem parse_value_serialize (value : JsValue) : ∀ fuel, (serialize value).length < fuel →
    Reads (parseValue fuel) (serialize value) (normalize value) := by
  refine value_induction (fun value => ∀ fuel, (serialize value).length < fuel →
    Reads (parseValue fuel) (serialize value) (normalize value)) ?_ ?_ ?_ ?_ ?_ ?_ value
  · rintro (_ | fuel) enough
    · exact absurd enough (Nat.not_lt_zero _)
    · exact read_null fuel
  · rintro (_ | _) (_ | fuel) enough
    · exact absurd enough (Nat.not_lt_zero _)
    · exact read_false fuel
    · exact absurd enough (Nat.not_lt_zero _)
    · exact read_true fuel
  · rintro number (_ | fuel) enough
    · exact absurd enough (Nat.not_lt_zero _)
    · cases number with
      | finite value => exact read_written value fuel
      | negativeZero =>
          have zero : serialize (.num .negativeZero) = NumberFormat.write 0 :=
            NumberFormat.write_zero.symm
          rw [zero]
          exact read_written 0 fuel
      | nan => exact read_null fuel
      | infinite negative => exact read_null fuel
  · rintro text (_ | fuel) enough
    · exact absurd enough (Nat.not_lt_zero _)
    · exact reads_string fuel (read_quoted text)
  · rintro items ih (_ | fuel) enough
    · exact absurd enough (Nat.not_lt_zero _)
    · rw [serialize_arr] at enough ⊢
      have each : ∀ pair ∈ items.map (fun item => (serialize item, normalize item)),
          Reads (parseValue fuel) pair.1 pair.2 := by
        intro pair member
        obtain ⟨item, old, rfl⟩ := List.mem_map.mp member
        exact ih item old fuel (shorter_item (List.mem_map_of_mem old) enough)
      have opens : ∀ pair ∈ items.map (fun item => (serialize item, normalize item)),
          Opens closeBracket pair.1 := by
        intro pair member
        obtain ⟨item, -, rfl⟩ := List.mem_map.mp member
        exact opens_serialize item
      have inner := reads_array fuel _ each opens
      simp only [List.map_map, Function.comp_def] at inner
      rw [JsonValues.normalize, normalize_items]
      exact inner
  · rintro proto fields ih (_ | fuel) enough
    · exact absurd enough (Nat.not_lt_zero _)
    · rw [serialize_obj] at enough ⊢
      have each : ∀ pair ∈ (sortFields fields).map
          (fun entry => (memberText entry, (entry.1, normalize entry.2))),
          Reads (readMember (parseValue fuel)) pair.1 pair.2 := by
        intro pair member
        obtain ⟨entry, old, rfl⟩ := List.mem_map.mp member
        have short := shorter_item (List.mem_map_of_mem old) enough
        exact read_member entry (normalize entry.2) (ih entry (sort_subset fields old) fuel
          ((value_length_lt_member entry).trans short))
      have opens : ∀ pair ∈ (sortFields fields).map
          (fun entry => (memberText entry, (entry.1, normalize entry.2))),
          Opens closeBrace pair.1 := by
        intro pair member
        obtain ⟨entry, -, rfl⟩ := List.mem_map.mp member
        exact opens_member entry
      have inner := reads_object fuel _ each opens (by
        simpa [Function.comp_def] using sort_unique fields)
      simp only [List.map_map, Function.comp_def] at inner
      rw [JsonValues.normalize, normalize_fields, sort_map]
      exact inner

theorem parse_serialize (value : JsValue) : parse (serialize value) = some (normalize value) := by
  have read := parse_value_serialize value ((serialize value).length + 1) (Nat.lt_succ_self _) []
    (by simp [Ended])
  rw [List.append_nil] at read
  rw [parse, read]
  rfl

omit [NumberFormat] in
theorem sort_sorted {Value : Type} (fields : List (JsString × Value)) :
    sortFields (sortFields fields) = sortFields fields :=
  ordered_ext (sort_unique _) (sort_unique _) (sort_ordered _) (sort_ordered _)
    (fun name => by rw [find_sort])

theorem serialize_normalize (value : JsValue) : serialize (normalize value) = serialize value := by
  refine value_induction (fun value => serialize (normalize value) = serialize value)
    rfl (fun _ => rfl) ?_ (fun _ => rfl) ?_ ?_ value
  · intro number
    cases number with
    | negativeZero => exact NumberFormat.write_zero
    | _ => rfl
  · intro items ih
    rw [JsonValues.normalize, serialize_arr, serialize_arr, normalize_items, List.map_map]
    have same : items.map (serialize ∘ JsonValues.normalize) = items.map serialize :=
      List.map_congr_left ih
    rw [same]
  · intro proto fields ih
    rw [JsonValues.normalize, serialize_obj, serialize_obj, sort_sorted, normalize_fields, sort_map,
      List.map_map]
    have same : (sortFields fields).map (memberText ∘ fun entry => (entry.1, normalize entry.2)) =
        (sortFields fields).map memberText := by
      refine List.map_congr_left (fun entry member => ?_)
      simp [memberText, ih entry (sort_subset fields member)]
    rw [same]

theorem serialize_eq_iff (left right : JsValue) :
    serialize left = serialize right ↔ meaning left = meaning right := by
  constructor
  · intro same
    have parsed := (parse_serialize left).symm.trans (same ▸ parse_serialize right)
    exact (normalize_eq_iff left right).mp (Option.some.inj parsed)
  · intro same
    rw [← serialize_normalize left, (normalize_eq_iff left right).mpr same, serialize_normalize]

end Values

end Horseness.JsonRoundTrip
