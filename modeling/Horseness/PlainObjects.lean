import Horseness.Records
import Horseness.ScriptText

/-!
Script objects used as dictionaries. Reading a name that the object does not own
finds what `Object.prototype` has, and writing `__proto__` where it is not owned
replaces the prototype, which the next structured clone drops again.
-/

namespace Horseness.PlainObjects

open Records ScriptText

variable {Value : Type}

def inheritedNames : List JsString :=
  [js "constructor", js "__defineGetter__", js "__defineSetter__", js "hasOwnProperty",
    js "__lookupGetter__", js "__lookupSetter__", js "isPrototypeOf", js "propertyIsEnumerable",
    js "toString", js "valueOf", js "__proto__", js "toLocaleString"]

/-- `record[key]` is truthy, for records that hold only truthy values. -/
def present (record : Record JsString Value) (key : JsString) : Bool :=
  (record.get key).isSome || inheritedNames.contains key

/-- `record[key]`: an own value, the inherited one that has no fields of a value, or nothing. -/
def memberOf (record : Record JsString Value) (key : JsString) : Option (Option Value) :=
  match record.get key with
  | some value => some (some value)
  | none => if inheritedNames.contains key then some none else none

def assign (record : Record JsString Value) (key : JsString) (value : Value) :
    Record JsString Value :=
  if key = js "__proto__" ∧ record.get key = none then record else record.set key value

def truthy : Option JsString → Bool
  | some (_ :: _) => true
  | _ => false

theorem absent_get {record : Record JsString Value} {key : JsString}
    (absent : present record key = false) : record.get key = none := by
  simp only [present, Bool.or_eq_false_iff] at absent
  exact Option.isNone_iff_eq_none.mp (by simpa using absent.1)

theorem get_assign_other (record : Record JsString Value) {key other : JsString} (value : Value)
    (different : key ≠ other) : (assign record key value).get other = record.get other := by
  by_cases ignored : key = js "__proto__" ∧ record.get key = none
  · rw [assign, if_pos ignored]
  · rw [assign, if_neg ignored, Record.get_set_other record value different]

theorem get_assign_some {record : Record JsString Value} {key other : JsString}
    {value found : Value} (hit : (assign record key value).get other = some found) :
    (other = key ∧ found = value) ∨ record.get other = some found := by
  by_cases same : key = other
  · by_cases ignored : key = js "__proto__" ∧ record.get key = none
    · rw [assign, if_pos ignored] at hit
      exact Or.inr hit
    · rw [assign, if_neg ignored, ← same, Record.get_set_same] at hit
      exact Or.inl ⟨same.symm, (Option.some.inj hit).symm⟩
  · exact Or.inr ((get_assign_other record value same).symm.trans hit)

end Horseness.PlainObjects
