import Horseness.Records
import Horseness.ScriptText

/-!
Script values that JSON can hold, and what they denote. An object's property is
the first entry of its name; later entries of that name are not visible.
Denotations forget field order, prototypes and the sign of zero.
-/

namespace Horseness.JsonValues

open Records ScriptText

inductive JsNumber where
  | finite (value : Rat)
  | negativeZero
  | nan
  | infinite (negative : Bool)
  deriving DecidableEq, Inhabited

/-- The prototype of an object: `Object.prototype`, none, or any other object. -/
inductive JsProto where
  | object
  | null
  | foreign
  deriving DecidableEq, Inhabited

inductive JsValue where
  | null
  | bool (value : Bool)
  | num (value : JsNumber)
  | str (text : JsString)
  | arr (items : List JsValue)
  | obj (proto : JsProto) (fields : List (JsString × JsValue))
  deriving Inhabited

/-- A JSON tree: arrays are sequences and objects are partial maps. -/
inductive JsonTree where
  | null
  | bool (value : Bool)
  | num (value : Rat)
  | str (text : JsString)
  | arr (items : List JsonTree)
  | obj (fields : JsString → Option JsonTree)

def object (fields : List (String × JsValue)) : JsValue :=
  .obj .object (fields.map (fun field => (js field.1, field.2)))

def natural (value : Nat) : JsValue := .num (.finite value)

def texts (items : List JsString) : JsValue := .arr (items.map .str)

def nullable {Item : Type} (write : Item → JsValue) : Option Item → JsValue
  | none => .null
  | some item => write item

section Entries

variable {Value Other : Type}

def distinct : List (JsString × Value) → List (JsString × Value)
  | [] => []
  | entry :: rest => entry :: (distinct rest).filter (fun later => later.1 ≠ entry.1)

def sortFields (fields : List (JsString × Value)) : List (JsString × Value) :=
  (distinct fields).insertionSort (fun left right => left.1 ≤ right.1)

theorem find_distinct (name : JsString) (fields : List (JsString × Value)) :
    findEntry name (distinct fields) = findEntry name fields := by
  induction fields with
  | nil => rfl
  | cons entry rest ih =>
      by_cases hit : entry.1 = name
      · simp [distinct, findEntry, hit]
      · simp only [distinct, findEntry, hit, if_false, find_filter, ih]

theorem distinct_subset (fields : List (JsString × Value)) : distinct fields ⊆ fields := by
  induction fields with
  | nil => exact List.Subset.refl []
  | cons entry rest ih =>
      intro item member
      rcases List.mem_cons.mp member with same | later
      · exact same ▸ List.mem_cons_self
      · exact List.mem_cons_of_mem entry (ih (List.mem_of_mem_filter later))

theorem distinct_unique (fields : List (JsString × Value)) :
    ((distinct fields).map Prod.fst).Nodup := by
  induction fields with
  | nil => exact List.nodup_nil
  | cons entry rest ih =>
      refine List.nodup_cons.mpr ⟨?_, (List.filter_sublist.map Prod.fst).nodup ih⟩
      simp

theorem distinct_map (change : Value → Other) (fields : List (JsString × Value)) :
    distinct (fields.map (fun entry => (entry.1, change entry.2))) =
      (distinct fields).map (fun entry => (entry.1, change entry.2)) := by
  induction fields with
  | nil => rfl
  | cons entry rest ih =>
      simp only [List.map_cons, distinct, ih, List.filter_map]
      rfl

theorem sort_perm (fields : List (JsString × Value)) :
    (sortFields fields).Perm (distinct fields) := List.perm_insertionSort _ _

theorem sort_subset (fields : List (JsString × Value)) : sortFields fields ⊆ fields :=
  fun _ member => distinct_subset fields ((sort_perm fields).mem_iff.mp member)

theorem sort_unique (fields : List (JsString × Value)) :
    ((sortFields fields).map Prod.fst).Nodup :=
  ((sort_perm fields).map Prod.fst).nodup_iff.mpr (distinct_unique fields)

theorem sort_ordered (fields : List (JsString × Value)) :
    (sortFields fields).Pairwise (fun left right => left.1 ≤ right.1) :=
  @List.pairwise_insertionSort _ (fun left right : JsString × Value => left.1 ≤ right.1) _
    ⟨fun left right => List.le_total left.1 right.1⟩
    ⟨fun _ _ _ first second => List.le_trans first second⟩ _

theorem find_sort (name : JsString) (fields : List (JsString × Value)) :
    findEntry name (sortFields fields) = findEntry name fields := by
  rw [find_perm name (sort_perm fields) (sort_unique fields), find_distinct]

theorem sort_map (change : Value → Other) (fields : List (JsString × Value)) :
    sortFields (fields.map (fun entry => (entry.1, change entry.2))) =
      (sortFields fields).map (fun entry => (entry.1, change entry.2)) := by
  rw [sortFields, distinct_map]
  exact (List.map_insertionSort (fun left right : JsString × Value => left.1 ≤ right.1)
    (fun left right : JsString × Other => left.1 ≤ right.1) _ _ (fun _ _ _ _ => Iff.rfl)).symm

theorem find_map (name : JsString) (change : Value → Other) (fields : List (JsString × Value)) :
    findEntry name (fields.map (fun entry => (entry.1, change entry.2))) =
      (findEntry name fields).map change := by
  induction fields with
  | nil => rfl
  | cons entry rest ih =>
      by_cases hit : entry.1 = name
      · simp [findEntry, hit]
      · simpa [findEntry, hit] using ih

-- Ordered entries with unique names are determined by their lookups.
theorem ordered_ext {left right : List (JsString × Value)}
    (leftUnique : (left.map Prod.fst).Nodup) (rightUnique : (right.map Prod.fst).Nodup)
    (leftOrdered : left.Pairwise (fun first second => first.1 ≤ second.1))
    (rightOrdered : right.Pairwise (fun first second => first.1 ≤ second.1))
    (same : ∀ name, findEntry name left = findEntry name right) : left = right := by
  have members : ∀ entry, entry ∈ left ↔ entry ∈ right := by
    rintro ⟨name, value⟩
    constructor
    · intro member
      exact find_member name value right
        (same name ▸ member_find name value left leftUnique member)
    · intro member
      exact find_member name value left
        ((same name).trans (member_find name value right rightUnique member))
  have order : left.Perm right :=
    (List.perm_ext_iff_of_nodup leftUnique.of_map rightUnique.of_map).mpr members
  refine order.eq_of_pairwise ?_ leftOrdered rightOrdered
  rintro ⟨name, value⟩ ⟨other, found⟩ member found_member lower upper
  obtain rfl : name = other := List.le_antisymm lower upper
  have first := member_find name value right rightUnique ((members _).mp member)
  have second := member_find name found right rightUnique found_member
  rw [Option.some.inj (first.symm.trans second)]

end Entries

-- Induction over values: an array by its items and an object by its entries.
theorem value_induction (holds : JsValue → Prop) (null : holds .null)
    (bool : ∀ value, holds (.bool value)) (num : ∀ value, holds (.num value))
    (str : ∀ text, holds (.str text))
    (arr : ∀ items, (∀ item ∈ items, holds item) → holds (.arr items))
    (obj : ∀ proto fields, (∀ entry ∈ fields, holds entry.2) → holds (.obj proto fields)) :
    ∀ value, holds value
  | .null => null
  | .bool value => bool value
  | .num value => num value
  | .str text => str text
  | .arr items => arr items (fun item _ => value_induction holds null bool num str arr obj item)
  | .obj proto fields =>
      obj proto fields (fun entry _ => value_induction holds null bool num str arr obj entry.2)
termination_by value => sizeOf value
decreasing_by
  · have smaller := List.sizeOf_lt_of_mem ‹item ∈ items›
    simp only [JsValue.arr.sizeOf_spec]
    omega
  · have smaller := List.sizeOf_lt_of_mem ‹entry ∈ fields›
    have part : sizeOf entry.2 < sizeOf entry := by cases entry; simp +arith
    simp only [JsValue.obj.sizeOf_spec]
    omega

def JsNumber.meaning : JsNumber → JsonTree
  | .finite value => .num value
  | .negativeZero => .num 0
  | .nan | .infinite _ => .null

mutual

def meaning : JsValue → JsonTree
  | .null => .null
  | .bool value => .bool value
  | .num value => value.meaning
  | .str text => .str text
  | .arr items => .arr (meaningItems items)
  | .obj _ fields => .obj (meaningFields fields)
termination_by structural value => value

def meaningItems : List JsValue → List JsonTree
  | [] => []
  | item :: rest => meaning item :: meaningItems rest
termination_by structural items => items

def meaningFields : List (JsString × JsValue) → JsString → Option JsonTree
  | [], _ => none
  | (name, value) :: rest, wanted =>
      if name = wanted then some (meaning value) else meaningFields rest wanted
termination_by structural fields => fields

end

def JsNumber.normalize : JsNumber → JsValue
  | .finite value => .num (.finite value)
  | .negativeZero => .num (.finite 0)
  | .nan | .infinite _ => .null

mutual

def normalize : JsValue → JsValue
  | .null => .null
  | .bool value => .bool value
  | .num value => value.normalize
  | .str text => .str text
  | .arr items => .arr (normalizeItems items)
  | .obj _ fields => .obj .object (sortFields (normalizeFields fields))
termination_by structural value => value

def normalizeItems : List JsValue → List JsValue
  | [] => []
  | item :: rest => normalize item :: normalizeItems rest
termination_by structural items => items

def normalizeFields : List (JsString × JsValue) → List (JsString × JsValue)
  | [] => []
  | (name, value) :: rest => (name, normalize value) :: normalizeFields rest
termination_by structural fields => fields

end

theorem meaning_items (items : List JsValue) : meaningItems items = items.map meaning := by
  induction items with
  | nil => rfl
  | cons item rest ih => simp [meaningItems, ih]

theorem meaning_fields (fields : List (JsString × JsValue)) :
    meaningFields fields = fun name => (findEntry name fields).map meaning := by
  funext name
  induction fields with
  | nil => rfl
  | cons entry rest ih =>
      by_cases hit : entry.1 = name <;> simp [meaningFields, findEntry, hit, ih]

theorem normalize_items (items : List JsValue) : normalizeItems items = items.map normalize := by
  induction items with
  | nil => rfl
  | cons item rest ih => simp [normalizeItems, ih]

theorem normalize_fields (fields : List (JsString × JsValue)) :
    normalizeFields fields = fields.map (fun entry => (entry.1, normalize entry.2)) := by
  induction fields with
  | nil => rfl
  | cons entry rest ih => simp [normalizeFields, ih]

theorem find_normalized (name : JsString) (fields : List (JsString × JsValue)) :
    findEntry name (sortFields (normalizeFields fields)) = (findEntry name fields).map normalize := by
  rw [find_sort, normalize_fields, find_map]

theorem meaning_normalize (value : JsValue) : meaning (normalize value) = meaning value := by
  refine value_induction (fun value => meaning (normalize value) = meaning value)
    rfl (fun _ => rfl) ?_ (fun _ => rfl) ?_ ?_ value
  · intro number
    cases number <;> rfl
  · intro items ih
    simp only [normalize, meaning, meaning_items, normalize_items, List.map_map]
    exact congrArg JsonTree.arr (List.map_congr_left ih)
  · intro proto fields ih
    simp only [normalize, meaning, meaning_fields, find_normalized]
    refine congrArg JsonTree.obj (funext fun name => ?_)
    cases found : findEntry name fields with
    | none => rfl
    | some field => simpa using ih (name, field) (find_member name field fields found)

-- Object literals with the same names have one meaning only if their fields do.
theorem object_meaning {left right : List (String × JsValue)}
    (same : meaning (object left) = meaning (object right))
    (names : left.map Prod.fst = right.map Prod.fst)
    (unique : (left.map (fun field => js field.1)).Nodup) :
    left.map (fun field => meaning field.2) = right.map (fun field => meaning field.2) := by
  have sized : left.length = right.length := by simpa using congrArg List.length names
  have maps : ∀ name, (findEntry name (left.map (fun field => (js field.1, field.2)))).map meaning =
      (findEntry name (right.map (fun field => (js field.1, field.2)))).map meaning := by
    intro name
    simp only [object, meaning, JsonTree.obj.injEq, meaning_fields] at same
    exact congrFun same name
  -- Both fields at one position are found under the name they share.
  have found (fields : List (String × JsValue)) (distinct : (fields.map (fun field => js field.1)).Nodup)
      {field : String × JsValue} (member : field ∈ fields) :
      findEntry (js field.1) (fields.map (fun field => (js field.1, field.2))) = some field.2 := by
    apply member_find
    · simpa [List.map_map, Function.comp_def] using distinct
    · exact List.mem_map.mpr ⟨field, member, rfl⟩
  have otherUnique : (right.map (fun field => js field.1)).Nodup := by
    have keys : right.map (fun field => js field.1) = left.map (fun field => js field.1) := by
      have mapped := congrArg (List.map js) names.symm
      simpa [List.map_map, Function.comp_def] using mapped
    exact keys ▸ unique
  apply List.ext_getElem
  · simpa using sized
  · intro index first second
    have inLeft : index < left.length := by simpa using first
    have inRight : index < right.length := by simpa using second
    have name : left[index].1 = right[index].1 := by
      have here := List.getElem_of_eq names (by simpa using inLeft)
      simpa using here
    have agree := maps (js left[index].1)
    rw [found left unique (List.getElem_mem inLeft), name,
      found right otherUnique (List.getElem_mem inRight)] at agree
    simpa using agree

theorem number_normalize_eq {left right : JsNumber} (same : left.meaning = right.meaning) :
    left.normalize = right.normalize := by
  cases left <;> cases right <;> simp_all [JsNumber.meaning, JsNumber.normalize]

theorem normalize_eq_of_meaning (left : JsValue) :
    ∀ right, meaning left = meaning right → normalize left = normalize right := by
  refine value_induction (fun left => ∀ right, meaning left = meaning right →
    normalize left = normalize right) ?_ ?_ ?_ ?_ ?_ ?_ left
  · intro right same
    cases right with
    | num number => cases number <;> simp_all [meaning, JsNumber.meaning, normalize, JsNumber.normalize]
    | _ => simp_all [meaning, normalize]
  · intro value right same
    cases right with
    | num number => cases number <;> simp_all [meaning, JsNumber.meaning]
    | _ => simp_all [meaning, normalize]
  · intro number right same
    cases right with
    | num other => exact number_normalize_eq same
    | _ => cases number <;> simp_all [meaning, JsNumber.meaning, normalize, JsNumber.normalize]
  · intro text right same
    cases right with
    | num number => cases number <;> simp_all [meaning, JsNumber.meaning]
    | _ => simp_all [meaning, normalize]
  · intro items ih right same
    cases right with
    | num number => cases number <;> simp_all [meaning, JsNumber.meaning]
    | arr others =>
        have pointwise : items.map meaning = others.map meaning := by
          simpa [meaning, meaning_items] using same
        clear same
        simp only [normalize, normalize_items, JsValue.arr.injEq]
        induction items generalizing others with
        | nil => cases others <;> simp_all
        | cons item rest rest_ih =>
            cases others with
            | nil => simp at pointwise
            | cons other remaining =>
                obtain ⟨head, tail⟩ := List.cons.inj pointwise
                have first := ih item List.mem_cons_self other head
                have later := rest_ih (fun item member => ih item (List.mem_cons_of_mem _ member))
                  remaining tail
                simp [first, later]
    | _ => simp_all [meaning]
  · intro proto fields ih right same
    cases right with
    | num number => cases number <;> simp_all [meaning, JsNumber.meaning]
    | obj otherProto others =>
        have pointwise : ∀ name, (findEntry name fields).map meaning =
            (findEntry name others).map meaning := by
          intro name
          have maps : meaningFields fields = meaningFields others := by
            simpa only [meaning, JsonTree.obj.injEq] using same
          simpa only [meaning_fields] using congrFun maps name
        simp only [normalize, JsValue.obj.injEq, true_and]
        refine ordered_ext (sort_unique _) (sort_unique _) (sort_ordered _) (sort_ordered _) ?_
        intro name
        rw [find_normalized, find_normalized]
        have here := pointwise name
        cases found : findEntry name fields with
        | none => cases other : findEntry name others <;> simp_all
        | some field =>
            cases other : findEntry name others with
            | none => simp_all
            | some second =>
                have agree : meaning field = meaning second := by simpa [found, other] using here
                simpa using ih (name, field) (find_member name field fields found) second agree
    | _ => simp_all [meaning]

theorem normalize_eq_iff (left right : JsValue) :
    normalize left = normalize right ↔ meaning left = meaning right := by
  constructor
  · intro same
    rw [← meaning_normalize left, same, meaning_normalize]
  · exact normalize_eq_of_meaning left right

end Horseness.JsonValues
