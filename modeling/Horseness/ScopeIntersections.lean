import Horseness.DeltaScope
import Horseness.DeltaReference

/-!
The intersection of two scopes. Roots above one path are comparable, so of two roots that contain
it the longer one lies in the other scope and is kept; what is kept lies in both.
-/

namespace Horseness.ScopeIntersections

open FallibleRuns ScriptText Canonical Delta DeltaScope DeltaReference

section Regions

variable {Token : Type} {roots left right : Set (List Token)} {path longer : List Token}

def Covers (roots : Set (List Token)) (path : List Token) : Prop := ∃ root ∈ roots, root <+: path

def meet (left right : Set (List Token)) : Set (List Token) :=
  {root | root ∈ left ∧ Covers right root ∨ root ∈ right ∧ Covers left root}

theorem covers_below (covered : Covers roots path) (below : path <+: longer) :
    Covers roots longer := by
  obtain ⟨root, inside, above⟩ := covered
  exact ⟨root, inside, above.trans below⟩

theorem covers_meet : Covers (meet left right) path ↔ Covers left path ∧ Covers right path := by
  constructor
  · rintro ⟨root, ⟨inside, covered⟩ | ⟨inside, covered⟩, above⟩
    · exact ⟨⟨root, inside, above⟩, covers_below covered above⟩
    · exact ⟨covers_below covered above, root, inside, above⟩
  · rintro ⟨⟨first, inside, above⟩, second, there, upper⟩
    -- Both are prefixes of the path; the longer one is kept.
    rcases List.prefix_or_prefix_of_prefix above upper with shorter | shorter
    · exact ⟨second, .inr ⟨there, first, inside, shorter⟩, upper⟩
    · exact ⟨first, .inl ⟨inside, second, there, shorter⟩, above⟩

end Regions

def intersectScopes (left right : DeltaAuthorityScopeV1) :
    Except DomainError DeltaAuthorityScopeV1 := do
  ensure (left.workspaceId = right.workspaceId ∧ left.runId = right.runId ∧
    left.taskId = right.taskId) .capabilityScopeMismatch
  let kept ← left.roots.filterM (scopeContains right)
  let others ← right.roots.filterM (scopeContains left)
  canonicalScope { left with roots := kept ++ others }

def Rooted (scope : DeltaAuthorityScopeV1) : Prop :=
  ∀ root ∈ scope.roots, ∃ tokens, validatePointer root = .ok tokens

def SameIdentity (left right : DeltaAuthorityScopeV1) : Prop :=
  left.workspaceId = right.workspaceId ∧ left.runId = right.runId ∧ left.taskId = right.taskId

def SameContents (left right : DeltaAuthorityScopeV1) : Prop :=
  ∀ path tokens, validatePointer path = .ok tokens →
    scopeContains left path = scopeContains right path

def region (scope : DeltaAuthorityScopeV1) : Set (List JsString) :=
  {tokens | ∃ root ∈ scope.roots, validatePointer root = .ok tokens}

section Contents

variable {scope left right both : DeltaAuthorityScopeV1} {path root : JsString}
  {tokens : List JsString}

theorem contains_iff (rooted : Rooted scope) (pointer : validatePointer path = .ok tokens) :
    scopeContains scope path = .ok true ↔ Covers (region scope) tokens := by
  constructor
  · intro granted
    obtain ⟨inner, listed, above⟩ := granted_root granted
    obtain ⟨root, member, rfl⟩ := List.mem_map.mp listed
    obtain ⟨spelled, valid⟩ := rooted root member
    rw [pointer_tokens valid, pointer_tokens pointer] at above
    exact ⟨spelled, ⟨root, member, valid⟩, above⟩
  · rintro ⟨inner, ⟨root, member, valid⟩, above⟩
    obtain ⟨inside, answer⟩ := scope_answers pointer rooted
    cases inside with
    | true => exact answer
    | false =>
        obtain ⟨spelled, found, apart⟩ := outside_each pointer answer root member
        obtain rfl := Except.ok.inj (found.symm.trans valid)
        exact absurd above apart

theorem contains_agree (rooted : Rooted left) (valid : Rooted right)
    (pointer : validatePointer path = .ok tokens)
    (same : Covers (region left) tokens ↔ Covers (region right) tokens) :
    scopeContains left path = scopeContains right path := by
  obtain ⟨first, answer⟩ := scope_answers pointer rooted
  obtain ⟨second, reply⟩ := scope_answers pointer valid
  have agree := (contains_iff rooted pointer).trans (same.trans (contains_iff valid pointer).symm)
  rw [answer, reply] at agree ⊢
  cases first <;> cases second <;> simp_all

theorem canonical_roots (rooted : Rooted scope) : ∃ ordered, canonicalScope scope = .ok ordered ∧
    SameIdentity ordered scope ∧ ∀ root, root ∈ ordered.roots ↔ root ∈ scope.roots := by
  exists { scope with roots := scope.roots.eraseDups.insertionSort (fun left right => left ≤ right) }
  constructor
  · simp only [canonicalScope, bind_ok_iff, pure_ok_iff, forM_ok_iff]
    exact ⟨(), fun root member => by simpa using rooted root member, trivial⟩
  · refine ⟨⟨rfl, rfl, rfl⟩, fun root => ?_⟩
    rw [List.mem_insertionSort, List.mem_eraseDups]

-- The roots of the intersection are those of either scope that the other contains.
theorem intersect_made (same : SameIdentity left right) (rooted : Rooted left)
    (valid : Rooted right) : ∃ both, intersectScopes left right = .ok both ∧
      SameIdentity both left ∧ Rooted both ∧ region both = meet (region left) (region right) := by
  have kept : ∀ {scope other}, Rooted scope → Rooted other →
      ∃ roots, scope.roots.filterM (scopeContains other) = .ok roots ∧
        ∀ root, root ∈ roots ↔ root ∈ scope.roots ∧ scopeContains other root = .ok true := by
    intro scope other first second
    refine ⟨_, (filterM_ok_iff _ _ _).mpr ⟨fun root member => ?_, rfl⟩, fun root => ?_⟩
    · obtain ⟨tokens, pointer⟩ := first root member
      exact scope_answers pointer second
    · rw [List.mem_filter]
      refine and_congr_right fun _ => ?_
      cases answer : scopeContains other root <;> simp [endsIn]
  obtain ⟨first, firstMade, firstRoots⟩ := kept rooted valid
  obtain ⟨second, secondMade, secondRoots⟩ := kept valid rooted
  have inner : Rooted { left with roots := first ++ second } := by
    intro root member
    rcases List.mem_append.mp member with inside | inside
    · exact rooted root ((firstRoots root).mp inside).1
    · exact valid root ((secondRoots root).mp inside).1
  obtain ⟨both, made, identity, roots⟩ := canonical_roots inner
  refine ⟨both, ?_, identity, fun root member => inner root ((roots root).mp member), ?_⟩
  · simp only [intersectScopes, bind_ok_iff, ensure_ok_iff]
    exact ⟨(), same, first, firstMade, second, secondMade, made⟩
  · ext tokens
    constructor
    · rintro ⟨root, member, pointer⟩
      rcases List.mem_append.mp ((roots root).mp member) with inside | inside
      · obtain ⟨listed, covered⟩ := (firstRoots root).mp inside
        exact .inl ⟨⟨root, listed, pointer⟩, (contains_iff valid pointer).mp covered⟩
      · obtain ⟨listed, covered⟩ := (secondRoots root).mp inside
        exact .inr ⟨⟨root, listed, pointer⟩, (contains_iff rooted pointer).mp covered⟩
    · rintro (⟨⟨root, listed, pointer⟩, covered⟩ | ⟨⟨root, listed, pointer⟩, covered⟩)
      · have inside := (firstRoots root).mpr ⟨listed, (contains_iff valid pointer).mpr covered⟩
        exact ⟨root, (roots root).mpr (List.mem_append_left _ inside), pointer⟩
      · have inside := (secondRoots root).mpr ⟨listed, (contains_iff rooted pointer).mpr covered⟩
        exact ⟨root, (roots root).mpr (List.mem_append_right _ inside), pointer⟩

end Contents

/-- The intersection contains what both scopes contain; so the order of the two does not show in
what it contains, nor which of three scopes are intersected first. -/
theorem scope_intersection {left right third : DeltaAuthorityScopeV1}
    (same : SameIdentity left right) (alike : SameIdentity right third) (rooted : Rooted left)
    (valid : Rooted right) (proper : Rooted third) :
    ∃ both other inner, intersectScopes left right = .ok both ∧
      intersectScopes right left = .ok other ∧ intersectScopes right third = .ok inner ∧
      (∀ path tokens, validatePointer path = .ok tokens → (scopeContains both path = .ok true ↔
        scopeContains left path = .ok true ∧ scopeContains right path = .ok true)) ∧
      SameContents both other ∧
      ∃ first second, intersectScopes both third = .ok first ∧
        intersectScopes left inner = .ok second ∧ SameContents first second := by
  have reversed : SameIdentity right left := ⟨same.1.symm, same.2.1.symm, same.2.2.symm⟩
  obtain ⟨both, made, bothNamed, bothRooted, bothRoots⟩ := intersect_made same rooted valid
  obtain ⟨other, turned, _, otherRooted, otherRoots⟩ := intersect_made reversed valid rooted
  obtain ⟨inner, joined, innerNamed, innerRooted, innerRoots⟩ := intersect_made alike valid proper
  have outer : SameIdentity both third :=
    ⟨bothNamed.1.trans (same.1.trans alike.1), bothNamed.2.1.trans (same.2.1.trans alike.2.1),
      bothNamed.2.2.trans (same.2.2.trans alike.2.2)⟩
  have nested : SameIdentity left inner :=
    ⟨same.1.trans innerNamed.1.symm, same.2.1.trans innerNamed.2.1.symm,
      same.2.2.trans innerNamed.2.2.symm⟩
  obtain ⟨first, ended, _, firstRooted, firstRoots⟩ := intersect_made outer bothRooted proper
  obtain ⟨second, closed, _, secondRooted, secondRoots⟩ := intersect_made nested rooted innerRooted
  refine ⟨both, other, inner, made, turned, joined, ?_, ?_, first, second, ended, closed, ?_⟩
  · intro path tokens pointer
    rw [contains_iff bothRooted pointer, contains_iff rooted pointer, contains_iff valid pointer,
      bothRoots, covers_meet]
  · intro path tokens pointer
    refine contains_agree bothRooted otherRooted pointer ?_
    rw [bothRoots, otherRoots, covers_meet, covers_meet, and_comm]
  · intro path tokens pointer
    refine contains_agree firstRooted secondRooted pointer ?_
    rw [firstRoots, secondRoots, covers_meet, covers_meet, bothRoots, innerRoots, covers_meet,
      covers_meet, and_assoc]

def scopeAt (root : JsString) : DeltaAuthorityScopeV1 := ⟨js "w", js "r", js "t", [root]⟩

theorem scope_at_rooted {root : JsString} {tokens : List JsString}
    (pointer : validatePointer root = .ok tokens) : Rooted (scopeAt root) := by
  intro other listed
  obtain rfl := List.mem_singleton.mp listed
  exact ⟨tokens, pointer⟩

/-- Two overlapping scopes and one that holds both. -/
theorem overlapping_intersection : ∃ both other,
    intersectScopes (scopeAt (js "/a")) (scopeAt (js "/a/b")) = .ok both ∧
    intersectScopes (scopeAt (js "/a/b")) (scopeAt (js "/a")) = .ok other ∧
      SameContents both other := by
  have named : ∀ root other, SameIdentity (scopeAt root) (scopeAt other) := fun _ _ => ⟨rfl, rfl, rfl⟩
  have outer : validatePointer (js "/a") = .ok [js "a"] := rfl
  have inner : validatePointer (js "/a/b") = .ok [js "a", js "b"] := rfl
  have whole : validatePointer [] = .ok [] := rfl
  rcases scope_intersection (named _ _) (named _ _) (scope_at_rooted outer) (scope_at_rooted inner)
    (scope_at_rooted whole) with ⟨both, other, _, made, turned, _, _, same, _⟩
  exact ⟨both, other, made, turned, same⟩

end Horseness.ScopeIntersections
