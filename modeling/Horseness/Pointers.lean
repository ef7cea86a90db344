import Horseness.DeltaReference

/-!
The codec of pointers. A token is escaped unit by unit and has no slash then, so the slashes
between tokens are the only ones; the two passes of the decoder undo the two of the encoder.
-/

namespace Horseness.Pointers

open FallibleRuns ScriptText Canonical Delta DeltaReference

section Replacing

variable {first second replacement unit next : UInt16} (rest : JsString)

theorem replace_pair : replacePair first second replacement (first :: second :: rest) =
    replacement :: replacePair first second replacement rest := if_pos ⟨rfl, rfl⟩

theorem replace_second (other : next ≠ second) :
    replacePair first second replacement (unit :: next :: rest) =
      unit :: replacePair first second replacement (next :: rest) := if_neg fun both => other both.2

theorem replace_first (other : unit ≠ first) : replacePair first second replacement (unit :: rest) =
    unit :: replacePair first second replacement rest := by
  cases rest with
  | nil => rfl
  | cons next later => exact if_neg fun both => other both.1

end Replacing

section Tokens

theorem encode_tilde (rest : JsString) :
    encodePointerToken (tilde :: rest) = tilde :: 48 :: encodePointerToken rest := rfl

theorem encode_slash (rest : JsString) :
    encodePointerToken (slash :: rest) = tilde :: 49 :: encodePointerToken rest := rfl

theorem encode_other {unit : UInt16} (rest : JsString) (plain : unit ≠ tilde) (inner : unit ≠ slash) :
    encodePointerToken (unit :: rest) = unit :: encodePointerToken rest := by
  simp only [encodePointerToken, List.flatMap_cons, escapeTilde, if_neg plain, escapeSlash,
    if_neg inner, List.singleton_append]

-- The first pass of the decoder gives the slashes back, since no escaped tilde looks like one.
theorem slashes_back (token : JsString) :
    replacePair tilde 49 slash (encodePointerToken token) = token.flatMap escapeTilde := by
  induction token with
  | nil => rfl
  | cons unit rest ih =>
      by_cases escape : unit = tilde
      · subst escape
        rw [encode_tilde, replace_second _ (by decide), replace_first _ (by decide), ih]
        rfl
      · rw [List.flatMap_cons, escapeTilde, if_neg escape, List.singleton_append]
        by_cases inner : unit = slash
        · subst inner
          rw [encode_slash, replace_pair, ih]
        · rw [encode_other _ escape inner, replace_first _ escape, ih]

theorem tildes_back (token : JsString) :
    replacePair tilde 48 tilde (token.flatMap escapeTilde) = token := by
  induction token with
  | nil => rfl
  | cons unit rest ih =>
      rw [List.flatMap_cons, escapeTilde]
      by_cases escape : unit = tilde
      · rw [if_pos escape, List.cons_append, List.singleton_append, replace_pair, ih, escape]
      · rw [if_neg escape, List.singleton_append, replace_first _ escape, ih]

theorem decode_encode (token : JsString) : decodePointerToken (encodePointerToken token) = token := by
  rw [decodePointerToken, slashes_back, tildes_back]

theorem bad_escape_other {unit : UInt16} (rest : JsString) (plain : unit ≠ tilde) :
    badEscape (unit :: rest) = badEscape rest := by
  rw [badEscape, beq_eq_false_iff_ne.mpr plain, Bool.false_and, Bool.false_or]

theorem encode_escapes (token : JsString) : badEscape (encodePointerToken token) = false := by
  induction token with
  | nil => rfl
  | cons unit rest ih =>
      by_cases escape : unit = tilde
      · subst escape
        rw [encode_tilde, badEscape, bad_escape_other _ (by decide), ih]
        rfl
      · by_cases inner : unit = slash
        · subst inner
          rw [encode_slash, badEscape, bad_escape_other _ (by decide), ih]
          rfl
        · rw [encode_other _ escape inner, bad_escape_other _ escape, ih]

theorem encode_unslashed (token : JsString) : slash ∉ encodePointerToken token := by
  rw [encodePointerToken]
  intro member
  obtain ⟨unit, -, inside⟩ := List.mem_flatMap.mp member
  rw [escapeSlash] at inside
  by_cases inner : unit = slash
  · rw [if_pos inner] at inside
    exact absurd inside (by decide)
  · rw [if_neg inner, List.mem_singleton] at inside
    exact inner inside.symm

end Tokens

section Splitting

theorem split_nonempty (text : JsString) : splitSlash text ≠ [] := by
  induction text with
  | nil => exact List.cons_ne_nil _ _
  | cons unit rest ih =>
      rw [splitSlash]
      split
      · exact List.cons_ne_nil _ _
      · split <;> exact List.cons_ne_nil _ _

theorem split_part {part : JsString} (free : slash ∉ part) (rest : JsString) :
    splitSlash (part ++ slash :: rest) = part :: splitSlash rest := by
  induction part with
  | nil => exact if_pos rfl
  | cons unit tail ih =>
      obtain ⟨apart, later⟩ := not_or.mp (List.mem_cons.not.mp free)
      rw [List.cons_append, splitSlash, if_neg (Ne.symm apart), ih later]

theorem split_last {part : JsString} (free : slash ∉ part) : splitSlash part = [part] := by
  induction part with
  | nil => rfl
  | cons unit tail ih =>
      obtain ⟨apart, later⟩ := not_or.mp (List.mem_cons.not.mp free)
      rw [splitSlash, if_neg (Ne.symm apart), ih later]

theorem split_join {parts : List JsString} (some : parts ≠ [])
    (free : ∀ part ∈ parts, slash ∉ part) : splitSlash (join [slash] parts) = parts := by
  induction parts with
  | nil => exact absurd rfl some
  | cons part rest ih =>
      have here := free part List.mem_cons_self
      cases rest with
      | nil => exact split_last here
      | cons next later =>
          rw [join_cons_cons, List.append_assoc, List.singleton_append, split_part here,
            ih (List.cons_ne_nil _ _) fun other member => free other (List.mem_cons_of_mem _ member)]

end Splitting

section Texts

theorem unicode_append {left : JsString} (valid : validUnicode left = true) (right : JsString) :
    validUnicode (left ++ right) = validUnicode right := by
  fun_induction validUnicode left with
  | case1 => rfl
  | case2 first high => cases valid
  | case3 first high next tail ih =>
      obtain ⟨low, rest⟩ := Bool.and_eq_true_iff.mp valid
      conv => lhs; unfold validUnicode
      simp only [List.cons_append, high, low, if_true, Bool.true_and, ih rest]
  | case4 first rest high ih =>
      obtain ⟨low, later⟩ := Bool.and_eq_true_iff.mp valid
      conv => lhs; unfold validUnicode
      simp only [List.cons_append, high, low, Bool.false_eq_true, if_false, Bool.true_and, ih later]

theorem unicode_escape {escape : UInt16 → JsString} (law : Escapes escape) {text : JsString}
    (valid : validUnicode text = true) : validUnicode (text.flatMap escape) = true := by
  fun_induction validUnicode text with
  | case1 => rfl
  | case2 first high => cases valid
  | case3 first high next tail ih =>
      obtain ⟨low, rest⟩ := Bool.and_eq_true_iff.mp valid
      rcases law first with same | ⟨plain, _⟩
      · rcases law next with own | ⟨plain, _⟩
        · rw [List.flatMap_cons, List.flatMap_cons, same, own]
          unfold validUnicode
          simp only [List.singleton_append, high, low, if_true, Bool.true_and, ih rest]
        · exact Bool.noConfusion (low.symm.trans plain.2)
      · exact Bool.noConfusion (high.symm.trans plain.1)
  | case4 first rest high ih =>
      obtain ⟨low, later⟩ := Bool.and_eq_true_iff.mp valid
      rcases law first with same | ⟨_, before, after, plainBefore, plainAfter, pair⟩
      · rw [List.flatMap_cons, same]
        unfold validUnicode
        simp only [List.singleton_append, high, low, Bool.false_eq_true, if_false, Bool.true_and, ih later]
      · rw [List.flatMap_cons, pair, List.cons_append, List.singleton_append, unicode_cons plainBefore,
          unicode_cons plainAfter]
        exact ih later

theorem unicode_encode {token : JsString} (valid : validUnicode token = true) :
    validUnicode (encodePointerToken token) = true :=
  unicode_escape escape_slash_law (unicode_escape escape_tilde_law valid)

theorem unicode_join {parts : List JsString} (valid : ∀ part ∈ parts, validUnicode part = true) :
    validUnicode (join [slash] parts) = true := by
  induction parts with
  | nil => rfl
  | cons part rest ih =>
      obtain ⟨here, there⟩ := List.forall_mem_cons.mp valid
      cases rest with
      | nil => exact here
      | cons next later =>
          rw [join_cons_cons, List.append_assoc, List.singleton_append, unicode_append here,
            unicode_cons ⟨rfl, rfl⟩]
          exact ih there

end Texts

section Codec

def pointerOf (tokens : List JsString) : JsString :=
  if tokens = [] then [] else slash :: join [slash] (tokens.map encodePointerToken)

variable {path : JsString} {tokens : List JsString}

theorem pointer_unicode (valid : ∀ token ∈ tokens, validUnicode token = true) :
    validUnicode (pointerOf tokens) = true := by
  rw [pointerOf]
  split
  · rfl
  · rw [unicode_cons ⟨rfl, rfl⟩]
    apply unicode_join
    intro part member
    obtain ⟨token, listed, rfl⟩ := List.mem_map.mp member
    exact unicode_encode (valid token listed)

theorem tokens_decoded (tokens : List JsString) :
    (tokens.map encodePointerToken).mapM (fun token => (do
      ensure (badEscape token = false) DomainError.invalidPointer
      return decodePointerToken token : Except DomainError JsString)) = .ok tokens := by
  rw [mapM_ok_iff, List.forall₂_map_left_iff]
  induction tokens with
  | nil => exact .nil
  | cons token rest ih =>
      refine .cons ?_ ih
      rw [check_ok_iff, ensure_ok_iff, pure_ok_iff]
      exact ⟨encode_escapes token, decode_encode token⟩

theorem pointer_decoded (valid : ∀ token ∈ tokens, validUnicode token = true) :
    validatePointer (pointerOf tokens) = .ok tokens := by
  rw [validatePointer, check_ok_iff, ensure_ok_iff, assert_str_ok_iff]
  refine ⟨pointer_unicode valid, ?_⟩
  by_cases root : tokens = []
  · subst root
    rfl
  · have built : pointerOf tokens = slash :: join [slash] (tokens.map encodePointerToken) := if_neg root
    have parts : splitSlash (join [slash] (tokens.map encodePointerToken)) =
        tokens.map encodePointerToken := by
      apply split_join (List.map_eq_nil_iff.not.mpr root)
      intro part member
      obtain ⟨token, -, rfl⟩ := List.mem_map.mp member
      exact encode_unslashed token
    rw [built, if_neg (List.cons_ne_nil _ _), check_ok_iff, ensure_ok_iff, List.tail_cons, parts,
      tokens_decoded]
    refine ⟨rfl, bind_ok_iff.mpr ⟨tokens, rfl, ?_⟩⟩
    rw [check_ok_iff, ensure_ok_iff, pure_ok_iff]
    exact ⟨rfl, rfl⟩

theorem pointer_encoded (accepted : validatePointer path = .ok tokens) : pointerOf tokens = path := by
  rw [validatePointer, check_ok_iff] at accepted
  by_cases root : path = []
  · rw [if_pos root, pure_ok_iff] at accepted
    rw [← accepted.2, root]
    rfl
  · rw [if_neg root, check_ok_iff, bind_ok_iff] at accepted
    obtain ⟨-, -, decoded, mapped, checked⟩ := accepted
    rw [check_ok_iff, ensure_ok_iff, pure_ok_iff] at checked
    obtain ⟨same, rfl⟩ := checked
    have some : decoded ≠ [] := by
      rintro rfl
      have split := List.forall₂_nil_right_iff.mp ((mapM_ok_iff _ _ _).mp mapped)
      exact split_nonempty _ split
    exact (if_neg some).trans same

/-- Encoding and validation are inverse to each other: each list of valid tokens is read back from
its pointer, and each accepted pointer is the one of its tokens. -/
theorem pointer_codec :
    (∀ tokens : List JsString, (∀ token ∈ tokens, validUnicode token = true) →
      validatePointer (pointerOf tokens) = .ok tokens) ∧
    (∀ path tokens, validatePointer path = .ok tokens → pointerOf tokens = path) ∧
    ∀ path other tokens, validatePointer path = .ok tokens → validatePointer other = .ok tokens →
      path = other := by
  refine ⟨fun _ => pointer_decoded, fun _ _ => pointer_encoded, ?_⟩
  intro path other tokens accepted also
  exact (pointer_encoded accepted).symm.trans (pointer_encoded also)

example : pointerOf [js "a/b", js "~1", []] = js "/a~1b/~01/" := by decide +kernel

end Codec

end Horseness.Pointers
