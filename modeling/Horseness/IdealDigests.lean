import Horseness.RecordedRuns
import Horseness.JsonPaths
import Horseness.WellFormedText

/-!
Digests idealised: no two hashed texts share one. Under it the digest of a value stands
for what the value denotes. A recorded table extended by a marked copy of every other
text is such a digest.
-/

namespace Horseness.IdealDigests

open Records ScriptText JsonValues JsonText JsonRoundTrip ScriptEngine Canonical JsonPaths
  RecordedRuns WellFormedText

section Consequences

variable [Engine]

theorem digest_exists (domain : JsString) {value : JsValue} (valid : Valid value) :
    domainDigest domain value = .ok (Engine.sha256Hex (domain ++ 0 :: serialize value)) :=
  (digest_ok_iff domain value _).mpr ⟨valid, rfl⟩

theorem digest_made (law : Hexadecimal Engine.sha256Hex) (domain : JsString) {value : JsValue}
    (valid : assertJson value = .ok ()) : ∃ digest, domainDigest domain value = .ok digest ∧
      digest ≠ [] ∧ validUnicode digest = true :=
  ⟨_, (digest_ok_iff domain value _).mpr ⟨valid, rfl⟩, (law _).1, (hexadecimal_sound law _).2⟩

theorem digest_meaning (ideal : Function.Injective Engine.sha256Hex) {domain digest : JsString} {left right : JsValue}
    (first : domainDigest domain left = .ok digest)
    (second : domainDigest domain right = .ok digest) : meaning left = meaning right := by
  have texts := ((digest_ok_iff domain left digest).mp first).2.trans
    ((digest_ok_iff domain right digest).mp second).2.symm
  have same := List.append_cancel_left (ideal texts)
  exact (serialize_eq_iff left right).mp (List.cons.inj same).2

/-- The digest names the tree: it is the digest of a value that denotes the tree. -/
def Denotes (digest : JsString) (tree : JsonTree) : Prop :=
  ∃ value, jsonValueDigest value = .ok digest ∧ meaning value = tree

theorem denotes_iff {value : JsValue} {digest : JsString} (valid : Valid value) :
    Denotes digest (meaning value) ↔ jsonValueDigest value = .ok digest := by
  constructor
  · rintro ⟨other, hashed, same⟩
    have own := (digest_ok_iff _ other digest).mp hashed
    refine (digest_ok_iff _ value digest).mpr ⟨valid, ?_⟩
    rw [← own.2, (serialize_eq_iff other value).mpr same]
  · exact fun hashed => ⟨value, hashed, rfl⟩

end Consequences

section Table

def tableDigest (table : List (JsString × JsString)) (text : JsString) : JsString :=
  (findEntry text table).getD (122 :: text)

/-- Digests without the mark, and all different. -/
structure DigestTable (table : List (JsString × JsString)) : Prop where
  unmarked : ∀ entry ∈ table, entry.2.head? ≠ some 122
  apart : ∀ left ∈ table, ∀ right ∈ table, left.2 = right.2 → left.1 = right.1

theorem table_injective {table : List (JsString × JsString)} (law : DigestTable table) :
    Function.Injective (tableDigest table) := by
  intro left right same
  simp only [tableDigest] at same
  cases first : findEntry left table with
  | none =>
      cases second : findEntry right table with
      | none => simpa [first, second] using same
      | some digest =>
          simp only [first, second, Option.getD_none, Option.getD_some] at same
          exact absurd (by rw [← same]; rfl) (law.unmarked _ (find_member right digest table second))
  | some digest =>
      have member := find_member left digest table first
      cases second : findEntry right table with
      | none =>
          simp only [first, second, Option.getD_none, Option.getD_some] at same
          exact absurd (by rw [same]; rfl) (law.unmarked _ member)
      | some other =>
          have equal : digest = other := by simpa [first, second] using same
          exact law.apart _ member _ (find_member right other table second) equal

theorem table_of_digests {table : List (JsString × JsString)}
    (unmarked : ∀ digest ∈ table.map Prod.snd, digest.head? ≠ some 122)
    (distinct : (table.map Prod.snd).Nodup) : DigestTable table := by
  constructor
  · intro entry member
    exact unmarked entry.2 (List.mem_map_of_mem member)
  · intro left first right second same
    exact congrArg Prod.fst (List.inj_on_of_nodup_map distinct first second same)

end Table

section Recorded

theorem short_hexadecimal : Hexadecimal shortEngine.sha256Hex := by
  intro text
  refine ⟨decimal_ne_nil _, ?_⟩
  intro unit member
  rw [WellFormedText.hexUnit, decimal_digits _ unit member, Bool.true_or]

def deltaDigests : List (JsString × JsString) :=
  [(js "horseness.json-value.v1" ++ 0 :: js "\"a\"",
      js "cabb297dc7061d82107fb7099e9d0a951178e274a4b6558e176a557093477e9e"),
    (js "horseness.json-value.v1" ++ 0 :: js "[\"a\",\"b\"]",
      js "135bb6fff3d46906aca05c3bff2f82e609cd3e166b851f340a5c08265ebcc69e"),
    (js "horseness.json-value.v1" ++ 0 :: js "[\"b\"]",
      js "1d1e62c2586554dc7827adf7b950743adab61c20ffa996e8d643ee821cf3283a"),
    (js "horseness.canonical-document.v1" ++ 0 :: js "[\"b\"]",
      js "9c75e717b5297ef50ab9754679a3272abddf6ae0459457a2cb11e8974ec19dee"),
    (js "horseness.delta-operation-result.v1" ++ 0 ::
        js "\x7b\"document\":[\"b\"],\"operations\":[\x7b\"expectedValueDigest\":\"cabb297dc7061d82107fb7099e9d0a951178e274a4b6558e176a557093477e9e\",\"op\":\"remove\",\"path\":\"/0\"\x7d]\x7d",
      js "b7c27500f3545ca63c86fea77726c44e64ceb0ad3062b84b77815328a7e42738"),
    (js "horseness.json-value.v1" ++ 0 :: js "\"b\"",
      js "80545bd1a0cdda3180ff0a109060bbd15b8ea627d9017f577a8f4ba38ce212d6"),
    (js "horseness.json-value.v1" ++ 0 :: js "[\"a\"]",
      js "7729fa5d288a71b8665a4e7ba6eb4440eebf61f3564631b03952adc23f450f78"),
    (js "horseness.canonical-document.v1" ++ 0 :: js "[\"a\"]",
      js "59d50f1a8d209093e7ac7ece45e84f45d896f43764d418a24fe67536a878f54d"),
    (js "horseness.delta-operation-result.v1" ++ 0 ::
        js "\x7b\"document\":[\"a\"],\"operations\":[\x7b\"expectedValueDigest\":\"80545bd1a0cdda3180ff0a109060bbd15b8ea627d9017f577a8f4ba38ce212d6\",\"op\":\"remove\",\"path\":\"/1\"\x7d]\x7d",
      js "69300b79c696222b87a70ec096da03778c1f43b514050ca291ea9ee5f33f2049"),
    (js "horseness.json-value.v1" ++ 0 :: js "\x7b\x7d",
      js "aa315f16814e0ac7dc33c861bdcce08524c86afc2301718e52f89be971ed9c46"),
    (js "horseness.json-value.v1" ++ 0 :: js "\x7b\"a\":1\x7d",
      js "d63d62988df69f410f9769accccd0f82dbdc82103bdffbf3cbbc6e451d4d7d7d"),
    (js "horseness.canonical-document.v1" ++ 0 :: js "\x7b\"a\":1\x7d",
      js "665eb95af688fdf9421fd3a9e29198f209d9b55c262a6f700fbcf52959442c90"),
    (js "horseness.delta-operation-result.v1" ++ 0 ::
        js "\x7b\"document\":\x7b\"a\":1\x7d,\"operations\":[\x7b\"expectedParentDigest\":\"aa315f16814e0ac7dc33c861bdcce08524c86afc2301718e52f89be971ed9c46\",\"op\":\"add\",\"path\":\"/a\",\"value\":1\x7d]\x7d",
      js "34e6aff296088e087bd71cba3c7f726657d52fa4e1dd74ee6cd0f9b9b8450b4f")]

@[reducible] def deltaEngine : Engine :=
  { recordedEngine with sha256Hex := tableDigest deltaDigests }

theorem delta_engine_ideal : Function.Injective deltaEngine.sha256Hex :=
  table_injective (table_of_digests (by decide +kernel) (by decide +kernel))

end Recorded

end Horseness.IdealDigests
