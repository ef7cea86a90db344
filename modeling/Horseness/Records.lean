import Mathlib.Data.List.Nodup
import Mathlib.Data.List.Basic
import Mathlib.Tactic.Common

/-!
Insertion-ordered records, the shape of a script object used as a dictionary.
Writing an existing key keeps its place; a new key goes last. Keys never repeat,
and the structure carries that fact.
-/

namespace Horseness.Records

variable {Key Value : Type} [DecidableEq Key]

def findEntry (key : Key) : List (Key × Value) → Option Value
  | [] => none
  | entry :: rest => if entry.1 = key then some entry.2 else findEntry key rest

def writeEntry (key : Key) (value : Value) : List (Key × Value) → List (Key × Value)
  | [] => [(key, value)]
  | entry :: rest =>
      if entry.1 = key then (key, value) :: rest else entry :: writeEntry key value rest

theorem find_write (key other : Key) (value : Value) (entries : List (Key × Value)) :
    findEntry other (writeEntry key value entries) =
      if key = other then some value else findEntry other entries := by
  induction entries with
  | nil => simp [writeEntry, findEntry]
  | cons entry rest ih =>
      by_cases hit : entry.1 = key
      · by_cases same : key = other <;> simp [writeEntry, findEntry, hit, same]
      · by_cases found : entry.1 = other
        · have different : key ≠ other := fun same => hit (found.trans same.symm)
          have apart : other ≠ key := different.symm
          simp [writeEntry, findEntry, found, different, apart]
        · simp [writeEntry, findEntry, hit, found, ih]

theorem find_filter (key other : Key) (entries : List (Key × Value)) :
    findEntry other (entries.filter (fun entry => entry.1 ≠ key)) =
      if key = other then none else findEntry other entries := by
  induction entries with
  | nil => simp [findEntry]
  | cons entry rest ih =>
      by_cases hit : entry.1 = key
      · by_cases same : key = other <;> simpa [List.filter_cons, hit, same, findEntry] using ih
      · by_cases found : entry.1 = other
        · have different : key ≠ other := fun same => hit (found.trans same.symm)
          have apart : other ≠ key := different.symm
          simp [found, findEntry, different, apart]
        · simpa [List.filter_cons, hit, found, findEntry] using ih

theorem write_fresh (key : Key) (value : Value) (entries : List (Key × Value))
    (absent : key ∉ entries.map Prod.fst) :
    writeEntry key value entries = entries ++ [(key, value)] := by
  induction entries with
  | nil => rfl
  | cons entry rest ih =>
      obtain ⟨first, later⟩ : key ≠ entry.1 ∧ key ∉ rest.map Prod.fst :=
        not_or.mp (by simpa only [List.map_cons, List.mem_cons] using absent)
      simp [writeEntry, Ne.symm first, ih later]

theorem write_keys (key : Key) (value : Value) (entries : List (Key × Value)) :
    (writeEntry key value entries).map Prod.fst =
      if key ∈ entries.map Prod.fst then entries.map Prod.fst else entries.map Prod.fst ++ [key] := by
  induction entries with
  | nil => simp [writeEntry]
  | cons entry rest ih =>
      by_cases hit : entry.1 = key
      · simp [writeEntry, hit]
      · have other : ¬ key = entry.1 := fun same => hit same.symm
        by_cases later : key ∈ rest.map Prod.fst
        · simp_all [writeEntry]
        · simp_all [writeEntry]

theorem write_unique (key : Key) (value : Value) (entries : List (Key × Value))
    (unique : (entries.map Prod.fst).Nodup) :
    ((writeEntry key value entries).map Prod.fst).Nodup := by
  rw [write_keys]
  by_cases present : key ∈ entries.map Prod.fst
  · simpa only [present, if_true] using unique
  · simp only [present, if_false]
    simpa using unique.concat present

theorem find_none_iff (key : Key) (entries : List (Key × Value)) :
    findEntry key entries = none ↔ key ∉ entries.map Prod.fst := by
  induction entries with
  | nil => simp [findEntry]
  | cons entry rest ih =>
      by_cases hit : entry.1 = key
      · simp [findEntry, hit]
      · have other : ¬ key = entry.1 := fun same => hit same.symm
        simpa [findEntry, hit, other] using ih

theorem find_member (key : Key) (value : Value) (entries : List (Key × Value))
    (found : findEntry key entries = some value) : (key, value) ∈ entries := by
  induction entries with
  | nil => simp [findEntry] at found
  | cons entry rest ih =>
      by_cases hit : entry.1 = key
      · have same : entry.2 = value := by simpa [findEntry, hit] using found
        exact List.mem_cons.mpr (Or.inl (Prod.ext hit same).symm)
      · exact List.mem_cons_of_mem entry (ih (by simpa [findEntry, hit] using found))

theorem member_find (key : Key) (value : Value) (entries : List (Key × Value))
    (unique : (entries.map Prod.fst).Nodup) (member : (key, value) ∈ entries) :
    findEntry key entries = some value := by
  induction entries with
  | nil => simp at member
  | cons entry rest ih =>
      obtain ⟨fresh, tailUnique⟩ : entry.1 ∉ rest.map Prod.fst ∧ (rest.map Prod.fst).Nodup :=
        List.nodup_cons.mp (by simpa only [List.map_cons] using unique)
      rcases List.mem_cons.mp member with same | later
      · simp [findEntry, ← same]
      · have different : entry.1 ≠ key := fun same =>
          fresh (same ▸ List.mem_map_of_mem later)
        simpa [findEntry, different] using ih tailUnique later

-- Lookups only depend on which entries are present, once keys are unique.
theorem find_perm (key : Key) {left right : List (Key × Value)} (order : left.Perm right)
    (unique : (left.map Prod.fst).Nodup) : findEntry key left = findEntry key right := by
  have rightUnique := (order.map Prod.fst).nodup_iff.mp unique
  cases found : findEntry key left with
  | none =>
      have absent := (find_none_iff key left).mp found
      exact ((find_none_iff key right).mpr
        (fun member => absent ((order.map Prod.fst).mem_iff.mpr member))).symm
  | some value =>
      exact (member_find key value right rightUnique
        (order.mem_iff.mp (find_member key value left found))).symm

-- Items grouped by key, key after key, are the items in another order.
theorem grouped_perm {Item : Type} (key : Item → Key) (keys : List Key) (unique : keys.Nodup)
    (items : List Item) (covered : ∀ item ∈ items, key item ∈ keys) :
    (keys.flatMap fun name => items.filter fun item => key item = name).Perm items := by
  induction keys generalizing items with
  | nil =>
      have empty : items = [] :=
        List.eq_nil_iff_forall_not_mem.mpr fun item member => by simpa using covered item member
      simp [empty]
  | cons name rest ih =>
      obtain ⟨fresh, unique⟩ := List.nodup_cons.mp unique
      -- the other groups are those of the items with another key
      have others : (rest.flatMap fun other => items.filter fun item => key item = other) =
          rest.flatMap fun other => (items.filter fun item => ¬ key item = name).filter
            fun item => key item = other := by
        apply List.flatMap_congr
        intro other member
        rw [List.filter_filter]
        apply List.filter_congr
        intro item _
        have apart : other ≠ name := fun same => fresh (same ▸ member)
        by_cases same : key item = other <;> simp [same, apart]
      rw [List.flatMap_cons, others]
      have remaining := ih unique (items.filter fun item => ¬ key item = name) (by
        intro item member
        obtain ⟨inside, different⟩ := List.mem_filter.mp member
        have different : key item ≠ name := by simpa using different
        exact (List.mem_cons.mp (covered item inside)).resolve_left different)
      refine (List.Perm.append_left _ remaining).trans ?_
      have halves := List.filter_append_perm (fun item => decide (key item = name)) items
      simpa using halves

structure Record (Key Value : Type) where
  entries : List (Key × Value)
  unique : (entries.map Prod.fst).Nodup

namespace Record

omit [DecidableEq Key] in
@[ext] theorem ext {left right : Record Key Value} (same : left.entries = right.entries) :
    left = right := by
  cases left; cases right; cases same; rfl

def empty : Record Key Value := ⟨[], List.nodup_nil⟩

instance : EmptyCollection (Record Key Value) := ⟨empty⟩
instance : Inhabited (Record Key Value) := ⟨empty⟩

def get (record : Record Key Value) (key : Key) : Option Value := findEntry key record.entries

def set (record : Record Key Value) (key : Key) (value : Value) : Record Key Value :=
  ⟨writeEntry key value record.entries, write_unique key value record.entries record.unique⟩

def erase (record : Record Key Value) (key : Key) : Record Key Value :=
  ⟨record.entries.filter (fun entry => entry.1 ≠ key),
    (List.Sublist.map Prod.fst List.filter_sublist).nodup record.unique⟩

def keys (record : Record Key Value) : List Key := record.entries.map Prod.fst

def values (record : Record Key Value) : List Value := record.entries.map Prod.snd

/-- Entries written from left to right; a later entry overwrites an earlier one. -/
def ofEntries (entries : List (Key × Value)) : Record Key Value :=
  entries.foldl (fun record entry => record.set entry.1 entry.2) empty

@[simp] theorem get_empty (key : Key) : (∅ : Record Key Value).get key = none := rfl

omit [DecidableEq Key] in
@[simp] theorem entries_empty : (∅ : Record Key Value).entries = [] := rfl

theorem get_set (record : Record Key Value) (key other : Key) (value : Value) :
    (record.set key value).get other = if key = other then some value else record.get other :=
  find_write key other value record.entries

@[simp] theorem get_set_same (record : Record Key Value) (key : Key) (value : Value) :
    (record.set key value).get key = some value := by
  simp [get_set]

theorem get_set_other (record : Record Key Value) {key other : Key} (value : Value)
    (different : key ≠ other) : (record.set key value).get other = record.get other := by
  simp [get_set, different]

theorem get_erase (record : Record Key Value) (key other : Key) :
    (record.erase key).get other = if key = other then none else record.get other :=
  find_filter key other record.entries

theorem mem_entries_iff (record : Record Key Value) (key : Key) (value : Value) :
    (key, value) ∈ record.entries ↔ record.get key = some value :=
  ⟨member_find key value record.entries record.unique, find_member key value record.entries⟩

theorem mem_values_iff (record : Record Key Value) (value : Value) :
    value ∈ record.values ↔ ∃ key, record.get key = some value := by
  simp only [values, List.mem_map, Prod.exists, exists_eq_right, mem_entries_iff]

theorem mem_keys_iff (record : Record Key Value) (key : Key) :
    key ∈ record.keys ↔ ∃ value, record.get key = some value := by
  simp only [keys, List.mem_map, Prod.exists, exists_and_right, exists_eq_right, mem_entries_iff]

theorem get_none_iff (record : Record Key Value) (key : Key) :
    record.get key = none ↔ key ∉ record.keys :=
  find_none_iff key record.entries

omit [DecidableEq Key] in
theorem keys_nodup (record : Record Key Value) : record.keys.Nodup := record.unique

theorem set_fresh_entries (record : Record Key Value) (key : Key) (value : Value)
    (fresh : record.get key = none) :
    (record.set key value).entries = record.entries ++ [(key, value)] :=
  write_fresh key value record.entries ((find_none_iff key record.entries).mp fresh)

-- Values that hold the items of their key hold all items together.
theorem values_perm {Item Part : Type} (record : Record Key Value) (parts : Value → List Part)
    (key : Item → Key) (name : Item → Part) (items : List Item)
    (grouped : ∀ found value, record.get found = some value →
      parts value = (items.filter fun item => key item = found).map name)
    (covered : ∀ item ∈ items, key item ∈ record.keys) :
    (record.values.flatMap parts).Perm (items.map name) := by
  have byKey : record.values.flatMap parts =
      (record.keys.flatMap fun found => items.filter fun item => key item = found).map name := by
    rw [values, keys, List.flatMap_map, List.flatMap_map, List.map_flatMap]
    apply List.flatMap_congr
    intro entry member
    exact grouped entry.1 entry.2 ((record.mem_entries_iff entry.1 entry.2).mp member)
  rw [byKey]
  exact (grouped_perm key record.keys record.keys_nodup items covered).map name

end Record

end Horseness.Records
