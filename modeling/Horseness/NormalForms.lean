import Mathlib.Data.Set.List
import Horseness.Utf8Text

/-!
JSON text put in Unicode normal form after it was written. The strings change where they stand,
and with them, at times, the escapes before them: what can still be read is a value whose own text
is the normalised one.
-/

namespace Horseness.NormalForms

open ScriptText JsonValues JsonText JsonRoundTrip

section Laws

def ascii (unit : UInt16) : Bool := unit < 0x80

def ordinary (unit : UInt16) : Bool := unit != quoteMark && unit != backslash && 0x20 ≤ unit

/-- What Unicode promises of normal form C about the characters of ASCII: each starts a new
character, is its own normal form, and stays itself or composes to something outside ASCII. -/
structure NormalForm (normal : JsString → JsString) : Prop where
  plain : ∀ text, (∀ unit ∈ text, ascii unit = true) → normal text = text
  boundary : ∀ front unit back, ascii unit = true →
    normal (front ++ unit :: back) = normal front ++ normal (unit :: back)
  letter : ∀ unit back, ascii unit = true → normal (unit :: back) = unit :: normal back ∨
    ∃ first rest, normal (unit :: back) = first :: rest ∧ ascii first = false
  /-- Neither mark is the start of a composed character. -/
  mark : ∀ unit back, unit = quoteMark ∨ unit = backslash →
    normal (unit :: back) = unit :: normal back
  /-- No character becomes a mark or a control. -/
  clean : ∀ text, (∀ unit ∈ text, ordinary unit = true) → ∀ unit ∈ normal text, ordinary unit = true
  valid : ∀ text, validUnicode text = true → validUnicode (normal text) = true

theorem unchanged_normal : NormalForm id where
  plain _ _ := rfl
  boundary _ _ _ _ := rfl
  letter _ _ _ := Or.inl rfl
  mark _ _ _ := rfl
  clean _ each := each
  valid _ valid := valid

end Laws

section Literals

variable {normal : JsString → JsString}

theorem ordinary_escape {unit : UInt16} (plain : ordinary unit = true) : escapeUnit unit = [unit] := by
  simp only [ordinary, Bool.and_eq_true, bne_iff_ne, decide_eq_true_eq] at plain
  have wide : ¬ unit < 0x20 := UInt16.not_lt.mpr plain.2
  have above (code : UInt16) (small : code < 0x20) : unit ≠ code := by
    rintro rfl
    exact wide small
  rw [escapeUnit, if_neg plain.1.1, if_neg plain.1.2, if_neg (above 8 (by decide)),
    if_neg (above 9 (by decide)), if_neg (above 10 (by decide)), if_neg (above 12 (by decide)),
    if_neg (above 13 (by decide)), if_neg wide]

theorem ordinary_escapes {text : JsString} (plain : ∀ unit ∈ text, ordinary unit = true) :
    text.flatMap escapeUnit = text := by
  induction text with
  | nil => rfl
  | cons unit rest ih =>
      rw [List.flatMap_cons, ordinary_escape (plain unit List.mem_cons_self),
        ih fun later member => plain later (List.mem_cons_of_mem unit member)]
      rfl

theorem read_ordinary {text : JsString} (plain : ∀ unit ∈ text, ordinary unit = true)
    (rest : JsString) :
    readString (text ++ rest) = (readString rest).map fun later => (text ++ later.1, later.2) := by
  induction text with
  | nil => simp
  | cons unit tail ih =>
      have first := read_escaped unit (tail ++ rest)
      rw [ordinary_escape (plain unit List.mem_cons_self)] at first
      rw [List.cons_append, ← List.singleton_append, first,
        ih fun later member => plain later (List.mem_cons_of_mem unit member)]
      cases readString rest <;> rfl

theorem foreign_ne {unit code : UInt16} (foreign : ascii unit = false) (small : ascii code = true) :
    unit ≠ code := by
  rintro rfl
  exact Bool.false_ne_true (foreign.symm.trans small)

theorem foreign_hex {unit : UInt16} (foreign : ascii unit = false) : hexDigit unit = none := by
  have above : 0x80 ≤ unit.toNat := by
    simpa [ascii, UInt16.lt_iff_toNat_lt] using foreign
  simp only [hexDigit, UInt16.le_iff_toNat_le, Bool.and_eq_true, decide_eq_true_eq,
    UInt16.reduceToNat]
  rw [if_neg (by omega), if_neg (by omega), if_neg (by omega)]

theorem foreign_escape {unit : UInt16} (foreign : ascii unit = false) : simpleEscape unit = none := by
  have other (code : UInt16) (small : ascii code = true) := foreign_ne foreign small
  simp [simpleEscape, other quoteMark rfl, other backslash rfl, other 47 rfl, other 98 rfl,
    other 102 rfl, other 110 rfl, other 114 rfl, other 116 rfl]

/-- An escape is ASCII, and is none with another unit in place of its last. -/
structure Escape (spelled : JsString) (lead : JsString) (last : UInt16) : Prop where
  shape : spelled = backslash :: (lead ++ [last])
  plain : ∀ unit ∈ lead, ascii unit = true
  ends : ascii last = true
  closed : ∀ first tail, ascii first = false → readString (backslash :: (lead ++ first :: tail)) = none

theorem short_escape {last : UInt16} (small : ascii last = true) :
    Escape [backslash, last] [] last where
  shape := rfl
  plain := by simp
  ends := small
  closed first tail foreign := by
    rw [List.nil_append, readString.eq_def]
    have other : first ≠ 117 := foreign_ne foreign rfl
    simp only [show backslash ≠ quoteMark by decide, if_false, if_true]
    split
    · rename_i same
      exact absurd (List.cons.inj same).1 other
    · rename_i same
      obtain ⟨rfl, -⟩ := List.cons.inj same
      rw [foreign_escape foreign]
      rfl
    · rfl

theorem hex_ascii (code : Nat) (small : code < 16) : ascii (hexUnit code) = true := by
  have every : ∀ code < 16, ascii (hexUnit code) = true := by decide
  exact every code small

theorem long_escape {high low : UInt16} (first : ascii high = true) (second : ascii low = true) :
    Escape [backslash, 117, 48, 48, high, low] [117, 48, 48, high] low where
  shape := rfl
  plain := by simp [first, show ascii 117 = true from rfl, show ascii 48 = true from rfl]
  ends := second
  closed other tail foreign := by
    rw [readString.eq_def]
    simp [show backslash ≠ quoteMark by decide, hexFour, foreign_hex foreign]

theorem escape_shape {unit : UInt16} (special : ordinary unit = false) :
    ∃ lead last, Escape (escapeUnit unit) lead last := by
  by_cases isQuote : unit = quoteMark
  · exact ⟨[], quoteMark, by subst isQuote; exact short_escape rfl⟩
  by_cases isBackslash : unit = backslash
  · exact ⟨[], backslash, by subst isBackslash; exact short_escape rfl⟩
  by_cases isBackspace : unit = 8
  · exact ⟨[], 98, by subst isBackspace; exact short_escape rfl⟩
  by_cases isTab : unit = 9
  · exact ⟨[], 116, by subst isTab; exact short_escape rfl⟩
  by_cases isLine : unit = 10
  · exact ⟨[], 110, by subst isLine; exact short_escape rfl⟩
  by_cases isFeed : unit = 12
  · exact ⟨[], 102, by subst isFeed; exact short_escape rfl⟩
  by_cases isReturn : unit = 13
  · exact ⟨[], 114, by subst isReturn; exact short_escape rfl⟩
  have control : unit < 0x20 := by
    simpa [ordinary, isQuote, isBackslash, UInt16.not_le] using special
  have small : unit.toNat < 32 := UInt16.lt_iff_toNat_lt.mp control
  refine ⟨[117, 48, 48, hexUnit (unit.toNat / 16)], hexUnit (unit.toNat % 16), ?_⟩
  simp only [escapeUnit, isQuote, isBackslash, isBackspace, isTab, isLine, isFeed, isReturn,
    control, if_true, if_false]
  exact long_escape (hex_ascii _ (by omega)) (hex_ascii _ (by omega))

theorem special_ascii {unit : UInt16} (special : ordinary unit = false) :
    ∀ code ∈ escapeUnit unit, ascii code = true := by
  rcases escape_shape special with ⟨lead, last, spelled⟩
  rw [spelled.shape]
  intro code member
  rcases List.mem_cons.mp member with rfl | member
  · rfl
  · rcases List.mem_append.mp member with member | member
    · exact spelled.plain code member
    · rw [List.mem_singleton.mp member]
      exact spelled.ends

theorem escape_ascii {unit : UInt16} (plain : ascii unit = true) :
    ∀ code ∈ escapeUnit unit, ascii code = true := by
  cases special : ordinary unit with
  | true => simpa [ordinary_escape special] using plain
  | false => exact special_ascii special

/-- A normalised literal spells a string, or no literal is read there. The induction is on what is
left after the first escape, whose last unit may compose with what follows. -/
theorem normal_literal (law : NormalForm normal) (text : JsString) :
    (∃ other : JsString, normal (text.flatMap escapeUnit) = other.flatMap escapeUnit) ∨
      ∀ rest, readString (normal (text.flatMap escapeUnit) ++ quoteMark :: rest) = none := by
  induction sized : text.length using Nat.strong_induction_on generalizing text with
  | _ size ih =>
      have plain : ∀ unit ∈ text.takeWhile ordinary, ordinary unit = true :=
        fun unit member => List.mem_takeWhile_imp member
      have parts := List.takeWhile_append_dropWhile (p := ordinary) (l := text)
      have same := ordinary_escapes plain
      have clean := law.clean _ plain
      generalize text.takeWhile ordinary = front at *
      cases back : text.dropWhile ordinary with
      | nil =>
          rw [back, List.append_nil] at parts
          refine Or.inl ⟨normal front, ?_⟩
          rw [← parts, same, ordinary_escapes clean]
      | cons unit later =>
          have special : ordinary unit = false := by
            have head := List.head_dropWhile_not ordinary (l := text) (by simp [back])
            simpa [back] using head
          have shorter : later.length < size := by
            rw [← sized, ← parts, back, List.length_append, List.length_cons]
            omega
          rcases escape_shape special with ⟨lead, last, spelled⟩
          have written : normal (text.flatMap escapeUnit) =
              normal front ++ backslash :: (lead ++ normal (last :: later.flatMap escapeUnit)) := by
            rw [← parts, back, List.flatMap_append, same, List.flatMap_cons, spelled.shape,
              List.cons_append, law.boundary _ _ _ rfl, law.mark _ _ (Or.inr rfl),
              List.append_assoc, List.singleton_append, law.boundary _ _ _ spelled.ends,
              law.plain lead spelled.plain]
          rw [written]
          rcases law.letter last (later.flatMap escapeUnit) spelled.ends with kept | composed
          · have escaped : backslash :: (lead ++ last :: normal (later.flatMap escapeUnit)) =
                escapeUnit unit ++ normal (later.flatMap escapeUnit) := by simp [spelled.shape]
            rw [kept, escaped]
            rcases ih _ shorter later rfl with ⟨other, spells⟩ | refused
            · refine Or.inl ⟨normal front ++ unit :: other, ?_⟩
              rw [List.flatMap_append, List.flatMap_cons, ordinary_escapes clean, spells]
            · right
              intro rest
              rw [List.append_assoc, List.append_assoc, read_ordinary clean, read_escaped, refused]
              rfl
          · rcases composed with ⟨first, rest, begins, foreign⟩
            right
            intro after
            rw [begins, List.append_assoc, List.cons_append, List.append_assoc, List.cons_append,
              read_ordinary clean, spelled.closed _ _ foreign]
            rfl

end Literals

section Sequences

variable {Item : Type} {normal : JsString → JsString}

def Refuses (parser : JsString → Option (Item × JsString)) (text : JsString) : Prop :=
  ∀ rest, Ended rest → parser (text ++ rest) = none

theorem refuse_items (item : JsString → Option (Item × JsString)) (close : UInt16)
    (closes : Mark close) (parts : List JsString)
    (each : ∀ part ∈ parts, (∃ value, Reads item part value) ∨ Refuses item part)
    (refused : ∃ part ∈ parts, Refuses item part) (fuel : Nat) (rest : JsString) :
    readItems item close fuel (join [comma] parts ++ close :: rest) = none := by
  induction parts generalizing fuel with
  | nil => simp at refused
  | cons part later ih =>
      cases fuel with
      | zero => rfl
      | succ less =>
          cases later with
          | nil =>
              obtain ⟨_, member, stops⟩ := refused
              obtain rfl := List.mem_singleton.mp member
              have ready := stops (close :: rest) (ended_mark closes rest)
              simp [readItems, join, ready]
          | cons next remaining =>
              have shape : join [comma] (part :: next :: remaining) ++ close :: rest =
                  part ++ comma :: (join [comma] (next :: remaining) ++ close :: rest) := by
                simp [join_cons_cons]
              rw [shape]
              rcases each part List.mem_cons_self with ⟨value, reads⟩ | stops
              · have ready := reads _ (ended_mark comma_mark
                  (join [comma] (next :: remaining) ++ close :: rest))
                by_cases here : Refuses item part
                · exact absurd ready (by simp [here _ (ended_mark comma_mark _)])
                · have inner := ih (fun other member => each other (List.mem_cons_of_mem part member))
                    (by simpa [here] using refused) less
                  simp [readItems, ready, skip_mark comma_mark, inner]
              · have ready := stops _ (ended_mark comma_mark
                  (join [comma] (next :: remaining) ++ close :: rest))
                simp [readItems, ready]

theorem refuse_sequence (item : JsString → Option (Item × JsString)) (close : UInt16)
    (closes : Mark close) (parts : List JsString)
    (each : ∀ part ∈ parts, (∃ value, Reads item part value) ∨ Refuses item part)
    (opens : ∀ part ∈ parts, Opens close part)
    (refused : ∃ part ∈ parts, Refuses item part) (rest : JsString) :
    readSequence item close (join [comma] parts ++ close :: rest) = none := by
  have stops := refuse_items item close closes parts each refused
  cases parts with
  | nil => simp at refused
  | cons part later =>
      obtain ⟨unit, tail, shape, seen, other⟩ := opens part List.mem_cons_self
      obtain ⟨body, starts⟩ : ∃ body, join [comma] (part :: later) = unit :: body := by
        cases later with
        | nil => exact ⟨tail, shape⟩
        | cons next remaining => exact ⟨_, by rw [join_cons_cons, shape]; rfl⟩
      have inner := stops (unit :: (body ++ close :: rest)).length rest
      rw [starts, List.cons_append] at inner ⊢
      have kept : skipSpace (unit :: (body ++ close :: rest)) = unit :: (body ++ close :: rest) := by
        simp [skipSpace, seen]
      simp only [readSequence, kept, other, if_false, inner]

def Starts (text : JsString) : Prop := ∃ unit rest, text = unit :: rest ∧ ascii unit = true

theorem normal_cons (law : NormalForm normal) {unit : UInt16} (plain : ascii unit = true)
    {text : JsString} (starts : Starts text) : normal (unit :: text) = unit :: normal text := by
  rcases starts with ⟨next, rest, rfl, small⟩
  rw [← List.singleton_append, law.boundary _ _ _ small,
    law.plain [unit] (by simpa using plain)]
  rfl

theorem join_starts {close : UInt16} (closes : ascii close = true) (parts : List JsString)
    (starts : ∀ part ∈ parts, Starts part) : Starts (join [comma] parts ++ [close]) := by
  cases parts with
  | nil => exact ⟨close, [], rfl, closes⟩
  | cons part later =>
      obtain ⟨unit, tail, shape, small⟩ := starts part List.mem_cons_self
      cases later with
      | nil => exact ⟨unit, tail ++ [close], by rw [join, shape]; rfl, small⟩
      | cons next remaining => exact ⟨unit, _, by rw [join_cons_cons, shape]; rfl, small⟩

theorem normal_join (law : NormalForm normal) {close : UInt16} (closes : ascii close = true)
    (parts : List JsString) (starts : ∀ part ∈ parts, Starts part) :
    normal (join [comma] parts ++ [close]) = join [comma] (parts.map normal) ++ [close] := by
  have last : normal [close] = [close] := law.plain [close] (by simpa using closes)
  induction parts with
  | nil => exact last
  | cons part later ih =>
      have remain : ∀ other ∈ later, Starts other :=
        fun other member => starts other (List.mem_cons_of_mem part member)
      cases later with
      | nil =>
          simp only [List.map_cons, List.map_nil, join]
          rw [law.boundary _ _ _ closes, last]
      | cons next remaining =>
          rw [List.map_cons, List.map_cons, join_cons_cons, join_cons_cons, List.append_assoc,
            List.append_assoc, List.singleton_append, law.boundary _ _ _ rfl,
            normal_cons law rfl (join_starts closes _ remain), ih remain]
          simp

-- The parts of a bracketed sequence are normalised each for itself.
theorem normal_sequence (law : NormalForm normal) {first close : UInt16}
    (begins : ascii first = true) (closes : ascii close = true) (parts : List JsString)
    (starts : ∀ part ∈ parts, Starts part) :
    normal (first :: (join [comma] parts ++ [close])) =
      first :: (join [comma] (parts.map normal) ++ [close]) := by
  rw [normal_cons law begins (join_starts closes parts starts), normal_join law closes parts starts]

end Sequences

section Values

variable [NumberFormat] {normal : JsString → JsString}

/-- Every object in the value has names of ASCII only. -/
inductive PlainNames : JsValue → Prop
  | null : PlainNames .null
  | bool (value : Bool) : PlainNames (.bool value)
  | num (value : JsNumber) : PlainNames (.num value)
  | str (text : JsString) : PlainNames (.str text)
  | arr (items : List JsValue) (each : ∀ item ∈ items, PlainNames item) : PlainNames (.arr items)
  | obj (proto : JsProto) (fields : List (JsString × JsValue))
      (names : ∀ entry ∈ fields, ∀ unit ∈ entry.1, ascii unit = true)
      (each : ∀ entry ∈ fields, PlainNames entry.2) : PlainNames (.obj proto fields)

omit [NumberFormat] in
theorem number_ascii {unit : UInt16} (number : numberUnit unit = true) : ascii unit = true := by
  simp only [numberUnit, digitUnit, Bool.or_eq_true, Bool.and_eq_true, decide_eq_true_eq, beq_iff_eq,
    UInt16.le_iff_toNat_le, UInt16.reduceToNat] at number
  rcases number with ((((⟨_, small⟩ | rfl) | rfl) | rfl) | rfl) | rfl
  · simp only [ascii, UInt16.lt_iff_toNat_lt, UInt16.reduceToNat, decide_eq_true_eq]
    exact Nat.lt_of_le_of_lt small (by decide)
  all_goals rfl

theorem number_plain (number : JsNumber) : ∀ unit ∈ serialize (.num number), ascii unit = true := by
  have zero : ∀ unit ∈ js "0", ascii unit = true := List.all_eq_true.mp (by decide)
  have word : ∀ unit ∈ js "null", ascii unit = true := List.all_eq_true.mp (by decide)
  cases number with
  | finite value => exact fun unit member => number_ascii (NumberFormat.write_units value unit member)
  | negativeZero => exact zero
  | nan => exact word
  | infinite negative => exact word

theorem word_plain (value : Bool) : ∀ unit ∈ serialize (.bool value), ascii unit = true := by
  have yes : ∀ unit ∈ js "true", ascii unit = true := List.all_eq_true.mp (by decide)
  have no : ∀ unit ∈ js "false", ascii unit = true := List.all_eq_true.mp (by decide)
  cases value with
  | false => exact no
  | true => exact yes

theorem null_plain : ∀ unit ∈ serialize .null, ascii unit = true := number_plain .nan

theorem serialize_starts (value : JsValue) : Starts (serialize value) := by
  cases value with
  | null => exact ⟨110, _, rfl, rfl⟩
  | bool value => cases value <;> exact ⟨_, _, rfl, rfl⟩
  | num number =>
      cases number with
      | finite value =>
          obtain ⟨unit, rest, shape, number⟩ := write_head value
          exact ⟨unit, rest, shape, number_ascii number⟩
      | negativeZero => exact ⟨48, _, rfl, rfl⟩
      | nan => exact ⟨110, _, rfl, rfl⟩
      | infinite negative => exact ⟨110, _, rfl, rfl⟩
  | str text => exact ⟨quoteMark, _, rfl, rfl⟩
  | arr items => exact ⟨openBracket, _, rfl, rfl⟩
  | obj proto fields => exact ⟨openBrace, _, rfl, rfl⟩

theorem member_starts (entry : JsString × JsValue) : Starts (memberText entry) :=
  ⟨quoteMark, _, rfl, rfl⟩

omit [NumberFormat] in
theorem normal_quote (law : NormalForm normal) (text : JsString) :
    normal (quote text) = quoteMark :: (normal (text.flatMap escapeUnit) ++ [quoteMark]) := by
  rw [quote, law.mark _ _ (Or.inl rfl), law.boundary _ _ _ rfl,
    law.plain [quoteMark] (by simp [show ascii quoteMark = true from rfl])]

theorem normal_arr (law : NormalForm normal) (items : List JsValue) :
    normal (serialize (.arr items)) = openBracket ::
      (join [comma] (items.map fun item => normal (serialize item)) ++ [closeBracket]) := by
  have starts : ∀ part ∈ items.map serialize, Starts part := by
    intro part member
    obtain ⟨item, -, rfl⟩ := List.mem_map.mp member
    exact serialize_starts item
  rw [serialize_arr, normal_sequence law rfl rfl _ starts, List.map_map]
  rfl

theorem normal_obj (law : NormalForm normal) (proto : JsProto)
    (fields : List (JsString × JsValue)) :
    normal (serialize (.obj proto fields)) = openBrace ::
      (join [comma] ((sortFields fields).map fun entry => normal (memberText entry)) ++
        [closeBrace]) := by
  have starts : ∀ part ∈ (sortFields fields).map memberText, Starts part := by
    intro part member
    obtain ⟨entry, -, rfl⟩ := List.mem_map.mp member
    exact member_starts entry
  rw [serialize_obj, normal_sequence law rfl rfl _ starts, List.map_map]
  rfl

-- A name of ASCII stays, and the value after it is normalised for itself.
theorem normal_member (law : NormalForm normal) (entry : JsString × JsValue)
    (name : ∀ unit ∈ entry.1, ascii unit = true) :
    normal (memberText entry) = quote entry.1 ++ colon :: normal (serialize entry.2) := by
  have plain : ∀ unit ∈ quote entry.1, ascii unit = true := by
    intro unit member
    simp only [quote, List.mem_cons, List.mem_append, List.mem_flatMap, List.not_mem_nil,
      or_false] at member
    rcases member with rfl | ⟨letter, inside, member⟩ | rfl
    · rfl
    · exact escape_ascii (name letter inside) unit member
    · rfl
  rw [memberText, writeMember, law.boundary _ _ _ rfl, law.plain _ plain,
    normal_cons law rfl (serialize_starts entry.2)]

omit [NumberFormat] in
theorem choose_items {Item Other Image : Type} {left : Item → Image} {right : Other → Image}
    {items : List Item} (each : ∀ item ∈ items, ∃ other, left item = right other) :
    ∃ others : List Other, items.map left = others.map right := by
  have inside : items.map left ∈ Set.range (List.map right) := by
    rw [Set.range_list_map]
    intro image member
    obtain ⟨item, old, rfl⟩ := List.mem_map.mp member
    obtain ⟨other, same⟩ := each item old
    exact ⟨other, same.symm⟩
  obtain ⟨others, same⟩ := inside
  exact ⟨others, same.symm⟩

/-- The normalised text of a value is the text of some value, or no text is read there. -/
def Respelled (normal : JsString → JsString) (value : JsValue) : Prop :=
  (∃ other, normal (serialize value) = serialize other) ∨
    ∀ fuel, (normal (serialize value)).length < fuel →
      Refuses (parseValue fuel) (normal (serialize value))

theorem respelled_plain (law : NormalForm normal) {value : JsValue}
    (plain : ∀ unit ∈ serialize value, ascii unit = true) : Respelled normal value :=
  Or.inl ⟨value, law.plain _ plain⟩

theorem respelled_text (law : NormalForm normal) (text : JsString) : Respelled normal (.str text) := by
  unfold Respelled
  rw [serialize, normal_quote law]
  rcases normal_literal law text with ⟨other, spelled⟩ | refused
  · exact Or.inl ⟨.str other, by rw [spelled, serialize, quote]⟩
  · right
    rintro (_ | fuel) enough rest -
    · exact absurd enough (Nat.not_lt_zero _)
    · have closing : quoteMark :: (normal (text.flatMap escapeUnit) ++ [quoteMark]) ++ rest =
          quoteMark :: (normal (text.flatMap escapeUnit) ++ quoteMark :: rest) := by simp
      rw [closing, parseValue, skip_mark quote_mark]
      simp [refused]

theorem normal_opens (law : NormalForm normal) (value : JsValue) :
    Opens closeBracket (normal (serialize value)) := by
  cases value with
  | null =>
      rw [law.plain _ null_plain]
      exact opens_serialize .null
  | bool value =>
      rw [law.plain _ (word_plain value)]
      exact opens_serialize (.bool value)
  | num number =>
      rw [law.plain _ (number_plain number)]
      exact opens_serialize (.num number)
  | str text =>
      rw [serialize, normal_quote law]
      exact ⟨quoteMark, _, rfl, rfl, by decide⟩
  | arr items =>
      rw [normal_arr law]
      exact ⟨openBracket, _, rfl, rfl, by decide⟩
  | obj proto fields =>
      rw [normal_obj law]
      exact ⟨openBrace, _, rfl, rfl, by decide⟩

-- A normalised value is read as one that it spells, or is refused.
theorem respelled_reads {value : JsValue} (respelled : Respelled normal value) {fuel : Nat}
    (enough : (normal (serialize value)).length < fuel) :
    (∃ found, Reads (parseValue fuel) (normal (serialize value)) found) ∨
      Refuses (parseValue fuel) (normal (serialize value)) := by
  rcases respelled with ⟨other, same⟩ | refused
  · rw [same] at enough ⊢
    exact Or.inl ⟨normalize other, parse_value_serialize other fuel enough⟩
  · exact Or.inr (refused fuel enough)

theorem respelled_arr (law : NormalForm normal) {items : List JsValue}
    (each : ∀ item ∈ items, Respelled normal item) : Respelled normal (.arr items) := by
  unfold Respelled
  rw [normal_arr law]
  by_cases spelled : ∀ item ∈ items, ∃ other, normal (serialize item) = serialize other
  · rcases choose_items spelled with ⟨others, same⟩
    exact Or.inl ⟨.arr others, by rw [same, serialize_arr]⟩
  · simp only [not_forall] at spelled
    obtain ⟨broken, member, unspelled⟩ := spelled
    right
    rintro (_ | fuel) enough rest -
    · exact absurd enough (Nat.not_lt_zero _)
    · have short (item : JsValue) (old : item ∈ items) : (normal (serialize item)).length < fuel :=
        shorter_item (List.mem_map_of_mem (f := fun item => normal (serialize item)) old) enough
      have stops := refuse_sequence (parseValue fuel) closeBracket ⟨rfl, rfl⟩
        (items.map fun item => normal (serialize item)) (by
          intro part inside
          obtain ⟨item, old, rfl⟩ := List.mem_map.mp inside
          exact respelled_reads (each item old) (short item old)) (by
          intro part inside
          obtain ⟨item, -, rfl⟩ := List.mem_map.mp inside
          exact normal_opens law item)
        ⟨_, List.mem_map_of_mem (f := fun item => normal (serialize item)) member,
          ((each broken member).resolve_left unspelled) fuel (short broken member)⟩ rest
      simp only [List.cons_append, List.append_assoc, List.nil_append, parseValue,
        skip_mark (show Mark openBracket from ⟨rfl, rfl⟩)]
      simp [stops, quoteMark, openBracket]

omit [NumberFormat] in
theorem refuse_member {value : JsString → Option (JsValue × JsString)} {text : JsString}
    (refused : Refuses value text) (name : JsString) :
    Refuses (readMember value) (quote name ++ colon :: text) := by
  intro rest ended
  have shape : quote name ++ colon :: text ++ rest = quoteMark :: (name.flatMap escapeUnit ++
      quoteMark :: (colon :: (text ++ rest))) := by simp [quote]
  rw [shape, readMember, skip_mark quote_mark]
  simp [read_quoted, skip_mark colon_mark, refused rest ended]

theorem member_short (law : NormalForm normal) {entry : JsString × JsValue}
    (name : ∀ unit ∈ entry.1, ascii unit = true) {fuel : Nat}
    (enough : (normal (memberText entry)).length < fuel) :
    (normal (serialize entry.2)).length < fuel := by
  simp only [normal_member law entry name, quote, List.length_append, List.length_cons] at enough
  omega

theorem member_respelled (law : NormalForm normal) {entry : JsString × JsValue}
    (name : ∀ unit ∈ entry.1, ascii unit = true) (respelled : Respelled normal entry.2) {fuel : Nat}
    (enough : (normal (memberText entry)).length < fuel) :
    (∃ found, Reads (readMember (parseValue fuel)) (normal (memberText entry)) found) ∨
      Refuses (readMember (parseValue fuel)) (normal (memberText entry)) := by
  have short := member_short law name enough
  rw [normal_member law entry name]
  rcases respelled with ⟨other, same⟩ | refused
  · rw [same] at short ⊢
    exact Or.inl ⟨_, read_member (entry.1, other) _ (parse_value_serialize other fuel short)⟩
  · exact Or.inr (refuse_member (refused fuel short) entry.1)

omit [NumberFormat] in
-- Members in order, with other values in the same places, are in order.
theorem sort_named {left right : List (JsString × JsValue)}
    (names : (sortFields left).map Prod.fst = right.map Prod.fst) : sortFields right = right := by
  have unique : (right.map Prod.fst).Nodup := names ▸ sort_unique left
  have ordered : (right.map Prod.fst).Pairwise (· ≤ ·) :=
    names ▸ List.pairwise_map.mpr (sort_ordered left)
  exact ordered_ext (sort_unique _) unique (sort_ordered _) (List.pairwise_map.mp ordered)
    fun name => find_sort name right

theorem respelled_obj (law : NormalForm normal) (proto : JsProto)
    {fields : List (JsString × JsValue)} (names : ∀ entry ∈ fields, ∀ unit ∈ entry.1, ascii unit = true)
    (each : ∀ entry ∈ fields, Respelled normal entry.2) : Respelled normal (.obj proto fields) := by
  unfold Respelled
  rw [normal_obj law]
  by_cases spelled : ∀ entry ∈ sortFields fields,
      ∃ other : JsString × JsValue, (entry.1, normal (serialize entry.2)) = (other.1, serialize other.2)
  · rcases choose_items spelled with ⟨others, same⟩
    have inOrder : sortFields others = others := by
      refine sort_named (?_ : (sortFields fields).map Prod.fst = others.map Prod.fst)
      simpa [Function.comp_def] using congrArg (List.map Prod.fst) same
    have written : (sortFields fields).map (fun entry => normal (memberText entry)) =
        others.map memberText := by
      have texts := congrArg (List.map writeMember) same
      rw [List.map_map, List.map_map] at texts
      refine Eq.trans (List.map_congr_left fun entry member => ?_) texts
      exact normal_member law entry (names entry (sort_subset fields member))
    exact Or.inl ⟨.obj .object others, by rw [written, serialize_obj, inOrder]⟩
  · simp only [not_forall] at spelled
    obtain ⟨broken, member, unspelled⟩ := spelled
    have known := sort_subset fields
    right
    rintro (_ | fuel) enough rest -
    · exact absurd enough (Nat.not_lt_zero _)
    · have short (entry : JsString × JsValue) (old : entry ∈ sortFields fields) :
          (normal (memberText entry)).length < fuel :=
        shorter_item (List.mem_map_of_mem (f := fun entry => normal (memberText entry)) old) enough
      have refused : Refuses (readMember (parseValue fuel)) (normal (memberText broken)) := by
        have name := names broken (known member)
        have missing : ¬ ∃ other, normal (serialize broken.2) = serialize other := by
          rintro ⟨other, same⟩
          exact unspelled ⟨(broken.1, other), by rw [same]⟩
        rw [normal_member law broken name]
        exact refuse_member (((each broken (known member)).resolve_left missing) fuel
          (member_short law name (short broken member))) broken.1
      have stops := refuse_sequence (readMember (parseValue fuel)) closeBrace ⟨rfl, rfl⟩
        ((sortFields fields).map fun entry => normal (memberText entry)) (by
          intro part inside
          obtain ⟨entry, old, rfl⟩ := List.mem_map.mp inside
          exact member_respelled law (names entry (known old)) (each entry (known old))
            (short entry old)) (by
          intro part inside
          obtain ⟨entry, old, rfl⟩ := List.mem_map.mp inside
          rw [normal_member law entry (names entry (known old))]
          exact ⟨quoteMark, _, rfl, rfl, by decide⟩)
        ⟨_, List.mem_map_of_mem (f := fun entry => normal (memberText entry)) member, refused⟩ rest
      simp only [List.cons_append, List.append_assoc, List.nil_append, parseValue,
        skip_mark (show Mark openBrace from ⟨rfl, rfl⟩)]
      simp [stops, quoteMark, openBracket, openBrace]

theorem respelled (law : NormalForm normal) {value : JsValue} (plain : PlainNames value) :
    Respelled normal value := by
  induction plain with
  | null => exact respelled_plain law null_plain
  | bool value => exact respelled_plain law (word_plain value)
  | num number => exact respelled_plain law (number_plain number)
  | str text => exact respelled_text law text
  | arr items each ih => exact respelled_arr law ih
  | obj proto fields names each ih => exact respelled_obj law proto names ih

omit [NumberFormat] in
theorem ended_line : Ended (js "\n") := by
  intro unit member
  obtain rfl : (10 : UInt16) = unit := Option.some.inj member
  rfl

theorem parse_line (value : JsValue) :
    parse (serialize value ++ js "\n") = some (normalize value) := by
  have short : (serialize value).length < (serialize value ++ js "\n").length + 1 := by
    rw [List.length_append]
    omega
  have read := parse_value_serialize value _ short (js "\n") ended_line
  rw [parse, read]
  rfl

theorem parse_normal (law : NormalForm normal) {value found : JsValue} (plain : PlainNames value)
    (read : parse (normal (serialize value) ++ js "\n") = some found) :
    serialize found = normal (serialize value) := by
  rcases respelled law plain with ⟨other, same⟩ | refused
  · rw [same, parse_line, Option.some.injEq] at read
    rw [same, ← read, serialize_normalize]
  · have short : (normal (serialize value)).length <
        (normal (serialize value) ++ js "\n").length + 1 := by
      rw [List.length_append]
      omega
    have nothing := refused _ short (js "\n") ended_line
    rw [parse, nothing] at read
    cases read

end Values

end Horseness.NormalForms
