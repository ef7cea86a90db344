import Horseness.Canonical

/-!
What canonical JSON forgets of a value: the order of an object's keys and the sign of zero, and
nothing else. The text that is hashed is the domain up to the first NUL and the value behind it.
-/

namespace Horseness.CanonicalForms

open Records ScriptText JsonValues JsonText JsonRoundTrip ScriptEngine Canonical

def finite? : JsNumber → Option Rat
  | .finite value => some value
  | .negativeZero => some 0
  | .nan | .infinite _ => none

/-- Equal up to the order of object keys and the sign of zero. -/
inductive Alike : JsValue → JsValue → Prop where
  | null : Alike .null .null
  | bool (value : Bool) : Alike (.bool value) (.bool value)
  | num {left right : JsNumber} {value : Rat} (first : finite? left = some value)
      (second : finite? right = some value) : Alike (.num left) (.num right)
  | str (text : JsString) : Alike (.str text) (.str text)
  | arr {left right : List JsValue} (items : List.Forall₂ Alike left right) :
      Alike (.arr left) (.arr right)
  | obj {leftProto rightProto : JsProto} {left right : List (JsString × JsValue)}
      (absent : ∀ name, findEntry name left = none ↔ findEntry name right = none)
      (fields : ∀ name first second, findEntry name left = some first →
        findEntry name right = some second → Alike first second) :
      Alike (.obj leftProto left) (.obj rightProto right)

section Trees

theorem finite_meaning {left right : JsNumber} {value : Rat} (first : finite? left = some value)
    (same : left.meaning = right.meaning) : finite? right = some value := by
  cases left <;> cases right <;> simp_all [finite?, JsNumber.meaning]

theorem meaning_finite {number : JsNumber} {value : Rat} (read : finite? number = some value) :
    number.meaning = .num value := by
  cases number <;> simp_all [finite?, JsNumber.meaning]

theorem accepted_finite {number : JsNumber} (valid : assertJson (.num number) = .ok ()) :
    ∃ value, finite? number = some value := by
  cases number with
  | finite value => exact ⟨value, rfl⟩
  | negativeZero => exact ⟨0, rfl⟩
  | nan => exact nomatch valid
  | infinite negative => exact nomatch valid

theorem meaning_alike {left right : JsValue} (alike : Alike left right) :
    meaning left = meaning right := by
  suffices every : ∀ right, Alike left right → meaning left = meaning right from every right alike
  apply value_induction (fun left => ∀ right, Alike left right → meaning left = meaning right)
  · rintro right ⟨⟩
    rfl
  · rintro value right ⟨⟩
    rfl
  · intro number right alike
    cases alike with
    | num first second => rw [meaning, meaning, meaning_finite first, meaning_finite second]
  · rintro text right ⟨⟩
    rfl
  · intro items ih right alike
    cases alike with
    | arr pairs =>
        simp only [meaning, meaning_items, JsonTree.arr.injEq]
        induction pairs with
        | nil => rfl
        | cons first _ rest =>
            rw [List.map_cons, List.map_cons, ih _ List.mem_cons_self _ first,
              rest fun item member => ih item (List.mem_cons_of_mem _ member)]
  · intro proto fields ih right alike
    cases alike with
    | @obj _ _ _ others absent pairs =>
        simp only [meaning, meaning_fields, JsonTree.obj.injEq]
        funext name
        cases found : findEntry name fields with
        | none => rw [(absent name).mp found]
        | some first =>
            cases other : findEntry name others with
            | none => cases found.symm.trans ((absent name).mpr other)
            | some second =>
                have member := find_member name first fields found
                exact congrArg some (ih _ member _ (pairs name first second found other))

theorem number_null {number : JsNumber} (valid : assertJson (.num number) = .ok ()) :
    number.meaning ≠ .null ∧ ∃ value, number.meaning = .num value := by
  obtain ⟨value, read⟩ := accepted_finite valid
  rw [meaning_finite read]
  exact ⟨nofun, value, rfl⟩

theorem items_alike {left right : List JsValue} (same : left.map meaning = right.map meaning)
    (each : ∀ item ∈ left, ∀ other ∈ right, meaning item = meaning other → Alike item other) :
    List.Forall₂ Alike left right := by
  induction left generalizing right with
  | nil =>
      obtain rfl := List.map_eq_nil_iff.mp same.symm
      exact .nil
  | cons item rest ih =>
      cases right with
      | nil => exact nomatch same
      | cons other remaining =>
          obtain ⟨head, tail⟩ := List.cons.inj same
          refine .cons (each item List.mem_cons_self other List.mem_cons_self head) (ih tail ?_)
          intro item inside other there
          exact each item (List.mem_cons_of_mem _ inside) other (List.mem_cons_of_mem _ there)

theorem alike_meaning {left right : JsValue} (valid : assertJson left = .ok ())
    (accepted : assertJson right = .ok ()) (same : meaning left = meaning right) :
    Alike left right := by
  suffices every : assertJson left = .ok () → ∀ right, assertJson right = .ok () →
      meaning left = meaning right → Alike left right from every valid right accepted same
  clear valid accepted same
  -- A number that cannot be written would mean null; acceptance excludes it on both sides.
  apply value_induction (fun left => assertJson left = .ok () → ∀ right,
    assertJson right = .ok () → meaning left = meaning right → Alike left right)
  · intro _ right accepted same
    cases right with
    | null => exact .null
    | num number => exact absurd same.symm (number_null accepted).1
    | _ => cases same
  · intro value _ right accepted same
    cases right with
    | bool other =>
        obtain rfl := JsonTree.bool.inj same
        exact .bool value
    | num number =>
        obtain ⟨read, number_meaning⟩ := (number_null accepted).2
        cases same.trans number_meaning
    | _ => cases same
  · intro number valid right accepted same
    obtain ⟨value, read⟩ := accepted_finite valid
    cases right with
    | num other => exact .num read (finite_meaning read same)
    | _ => cases (meaning_finite read).symm.trans same
  · intro text _ right accepted same
    cases right with
    | str other =>
        obtain rfl := JsonTree.str.inj same
        exact .str text
    | num number =>
        obtain ⟨read, number_meaning⟩ := (number_null accepted).2
        cases same.trans number_meaning
    | _ => cases same
  · intro items ih valid right accepted same
    cases right with
    | arr others =>
        rw [assert_arr_ok_iff] at valid accepted
        simp only [meaning, meaning_items, JsonTree.arr.injEq] at same
        refine .arr (items_alike same fun item inside other there agree => ?_)
        exact ih item inside (valid item inside) other (accepted other there) agree
    | num number =>
        obtain ⟨read, number_meaning⟩ := (number_null accepted).2
        cases same.trans number_meaning
    | _ => cases same
  · intro proto fields ih valid right accepted same
    cases right with
    | obj otherProto others =>
        rw [assert_obj_ok_iff] at valid accepted
        simp only [meaning, meaning_fields, JsonTree.obj.injEq] at same
        constructor
        · intro name
          have here := congrFun same name
          rw [← Option.map_eq_none_iff (f := meaning), here, Option.map_eq_none_iff]
        · intro name first second found other
          have here := congrFun same name
          rw [found, other] at here
          have inside := find_member name first fields found
          have there := find_member name second others other
          exact ih _ inside (valid.2 _ inside).2 second (accepted.2 _ there).2 (Option.some.inj here)
    | num number =>
        obtain ⟨read, number_meaning⟩ := (number_null accepted).2
        cases same.trans number_meaning
    | _ => cases same

theorem alike_iff {left right : JsValue} (valid : assertJson left = .ok ())
    (accepted : assertJson right = .ok ()) : Alike left right ↔ meaning left = meaning right :=
  ⟨meaning_alike, alike_meaning valid accepted⟩

end Trees

section Texts

variable [Engine]

def hashedText (domain : JsString) (value : JsValue) : Except DomainError JsString := do
  let text ← canonicalJson value
  return domain ++ 0 :: text

theorem digest_hashed (domain : JsString) (value : JsValue) :
    domainDigest domain value = (hashedText domain value).map Engine.sha256Hex := by
  rw [domainDigest, hashedText]
  cases canonicalJson value <;> rfl

theorem canonical_made {value : JsValue} (valid : assertJson value = .ok ()) :
    canonicalJson value = .ok (serialize value) :=
  (canonical_ok_iff value _).mpr ⟨valid, rfl⟩

theorem hashed_made (domain : JsString) {value : JsValue} (valid : assertJson value = .ok ()) :
    hashedText domain value = .ok (domain ++ 0 :: serialize value) := by
  rw [hashedText, canonical_made valid]
  rfl

omit [Engine] in
theorem cut_unique {left right front back : JsString} (plain : 0 ∉ left) (other : 0 ∉ right)
    (same : left ++ 0 :: front = right ++ 0 :: back) : left = right ∧ front = back := by
  induction left generalizing right with
  | nil =>
      cases right with
      | nil => exact ⟨rfl, (List.cons.inj same).2⟩
      | cons unit rest => exact absurd ((List.cons.inj same).1 ▸ List.mem_cons_self) other
  | cons unit rest ih =>
      cases right with
      | nil => exact absurd ((List.cons.inj same).1.symm ▸ List.mem_cons_self) plain
      | cons second remaining =>
          obtain ⟨rfl, tails⟩ := List.cons.inj same
          obtain ⟨rfl, equal⟩ := ih (List.not_mem_of_not_mem_cons plain)
            (List.not_mem_of_not_mem_cons other) tails
          exact ⟨rfl, equal⟩

/-- Canonical JSON tells acceptable values apart that are not alike, and no others; a clone is
alike its original; and what is hashed tells domains without NUL apart as well. -/
theorem canonical_form :
    (∀ left right, assertJson left = .ok () → assertJson right = .ok () →
      (canonicalJson left = canonicalJson right ↔ Alike left right)) ∧
    (∀ value, assertJson value = .ok () →
      ∃ copy, deepClone value = .ok copy ∧ Alike copy value) ∧
    (∀ domain value, domainDigest domain value =
      (hashedText domain value).map Engine.sha256Hex) ∧
    ∀ domain other left right, 0 ∉ domain → 0 ∉ other → assertJson left = .ok () →
      assertJson right = .ok () →
      (hashedText domain left = hashedText other right ↔ domain = other ∧ Alike left right) := by
  refine ⟨?_, ?_, digest_hashed, ?_⟩
  · intro left right valid accepted
    rw [canonical_made valid, canonical_made accepted, Except.ok.injEq, serialize_eq_iff,
      alike_iff valid accepted]
  · intro value valid
    refine ⟨normalize value, (clone_ok_iff value _).mpr ⟨valid, rfl⟩, ?_⟩
    exact alike_meaning (assert_normalize value valid) valid (meaning_normalize value)
  · intro domain other left right plain unmarked valid accepted
    rw [hashed_made domain valid, hashed_made other accepted, Except.ok.injEq,
      alike_iff valid accepted, ← serialize_eq_iff]
    constructor
    · exact cut_unique plain unmarked
    · rintro ⟨rfl, same⟩
      rw [same]

end Texts

end Horseness.CanonicalForms
