import Mathlib.Logic.Basic
import Mathlib.Data.List.Forall2
import Mathlib.Data.List.Induction
import Mathlib.Tactic.Common

/-!
Checks that may refuse, and the runs of a step function built from them. A
refused input leaves no successor, so a run is a chain of accepted inputs.
`allow` restricts the inputs of a run by the state they meet; it never makes a
step succeed.
-/

namespace Horseness.FallibleRuns

variable {Failure Result : Type}

/-- Continue only when the condition holds; otherwise refuse with `code`. -/
def ensure (condition : Prop) [Decidable condition] (code : Failure) : Except Failure Unit :=
  if condition then .ok () else .error code

def required (value : Option Result) (code : Failure) : Except Failure Result :=
  match value with
  | some found => .ok found
  | none => .error code

@[simp] theorem ensure_ok_iff (condition : Prop) [Decidable condition] (code : Failure)
    (done : Unit) : ensure condition code = .ok done ↔ condition := by
  by_cases holds : condition <;> simp [ensure, holds]

@[simp] theorem required_ok_iff (value : Option Result) (code : Failure) (found : Result) :
    required value code = .ok found ↔ value = some found := by
  cases value <;> simp [required]

/-- A successful sequence splits at its first part. Every inversion lemma of a
step peels one check after another with it. -/
theorem bind_ok_iff {Middle : Type} {first : Except Failure Middle}
    {next : Middle → Except Failure Result} {result : Result} :
    (first >>= next) = .ok result ↔ ∃ middle, first = .ok middle ∧ next middle = .ok result := by
  cases first <;> simp [bind, Except.bind]

theorem check_ok_iff {check : Except Failure Unit} {next : Unit → Except Failure Result}
    {result : Result} :
    (check >>= next) = .ok result ↔ check = .ok () ∧ next () = .ok result := by
  rw [bind_ok_iff]
  exact ⟨fun ⟨_, passed, rest⟩ => ⟨passed, rest⟩, fun ⟨passed, rest⟩ => ⟨(), passed, rest⟩⟩

@[simp] theorem pure_ok_iff (value result : Result) :
    (pure value : Except Failure Result) = .ok result ↔ value = result := by
  simp [pure, Except.pure]

@[simp] theorem ok_bind {Middle : Type} (value : Middle)
    (next : Middle → Except Failure Result) :
    ((Except.ok value : Except Failure Middle) >>= next) = next value := rfl

@[simp] theorem map_error_ok_iff {Other : Type} (rename : Failure → Other)
    (value : Except Failure Result) (result : Result) :
    value.mapError rename = .ok result ↔ value = .ok result := by
  cases value <;> simp [Except.mapError]

theorem ensure_true {condition : Prop} [Decidable condition] (code : Failure)
    (holds : condition) : ensure condition code = .ok () := by
  simp [ensure, holds]

section Sequences

variable {Item State : Type}

theorem forM_ok_iff (check : Item → Except Failure Unit) (items : List Item) (done : Unit) :
    forM items check = .ok done ↔ ∀ item ∈ items, check item = .ok () := by
  induction items with
  | nil => simp [pure, Except.pure]
  | cons item rest ih =>
      rw [List.forM_cons, check_ok_iff, List.forall_mem_cons, ← ih]

theorem mapM_ok_iff {Other : Type} (step : Item → Except Failure Other) (items : List Item)
    (results : List Other) :
    items.mapM step = .ok results ↔
      List.Forall₂ (fun item result => step item = .ok result) items results := by
  induction items generalizing results with
  | nil => cases results <;> simp [pure, Except.pure]
  | cons item rest ih =>
      simp only [List.mapM_cons, bind_ok_iff, pure_ok_iff]
      constructor
      · rintro ⟨first, stepped, later, mapped, rfl⟩
        exact .cons stepped ((ih later).mp mapped)
      · rintro (_ | ⟨stepped, mapped⟩)
        exact ⟨_, stepped, _, (ih _).mpr mapped, rfl⟩

-- A search that ends with an answer has found an item that gives it.
theorem anyM_true (check : Item → Except Failure Bool) (items : List Item)
    (found : items.anyM check = .ok true) : ∃ item ∈ items, check item = .ok true := by
  induction items with
  | nil => simp [pure, Except.pure] at found
  | cons item rest ih =>
      rw [List.anyM, bind_ok_iff] at found
      obtain ⟨answer, here, found⟩ := found
      cases answer with
      | true => exact ⟨item, List.mem_cons_self, here⟩
      | false =>
          obtain ⟨later, member, hit⟩ := ih found
          exact ⟨later, List.mem_cons_of_mem item member, hit⟩

theorem anyM_false_iff (check : Item → Except Failure Bool) (items : List Item) :
    items.anyM check = .ok false ↔ ∀ item ∈ items, check item = .ok false := by
  induction items with
  | nil => simp [pure, Except.pure]
  | cons item rest ih =>
      rw [List.anyM, bind_ok_iff, List.forall_mem_cons, ← ih]
      constructor
      · rintro ⟨found, first, later⟩
        cases found with
        | true => simp [pure, Except.pure] at later
        | false => exact ⟨first, later⟩
      · rintro ⟨first, later⟩
        exact ⟨false, first, later⟩

theorem foldlM_cons_ok_iff (step : State → Item → Except Failure State) (item : Item)
    (rest : List Item) (start result : State) :
    (item :: rest).foldlM step start = .ok result ↔
      ∃ middle, step start item = .ok middle ∧ rest.foldlM step middle = .ok result := by
  rw [List.foldlM_cons, bind_ok_iff]

theorem foldlM_append_ok_iff (step : State → Item → Except Failure State)
    (front back : List Item) (start result : State) :
    (front ++ back).foldlM step start = .ok result ↔
      ∃ middle, front.foldlM step start = .ok middle ∧ back.foldlM step middle = .ok result := by
  rw [List.foldlM_append, bind_ok_iff]

theorem foldlM_concat_ok_iff (step : State → Item → Except Failure State)
    (front : List Item) (item : Item) (start result : State) :
    (front ++ [item]).foldlM step start = .ok result ↔
      ∃ middle, front.foldlM step start = .ok middle ∧ step middle item = .ok result := by
  simp only [foldlM_append_ok_iff, foldlM_cons_ok_iff, List.foldlM_nil, pure_ok_iff,
    exists_eq_right]

theorem foldlM_member {step : State → Item → Except Failure State} {items : List Item}
    {start result : State} (folded : items.foldlM step start = .ok result) :
    ∀ item ∈ items, ∃ before after, step before item = .ok after := by
  induction items generalizing start with
  | nil => simp
  | cons item rest ih =>
      obtain ⟨middle, stepped, folded⟩ := (foldlM_cons_ok_iff step item rest start result).mp folded
      exact List.forall_mem_cons.mpr ⟨⟨start, middle, stepped⟩, ih folded⟩

-- The fold rule: what every step keeps holds after the whole fold.
theorem foldlM_invariant (step : State → Item → Except Failure State) (holds : State → Prop)
    (items : List Item)
    (keep : ∀ state item after, item ∈ items → holds state → step state item = .ok after →
      holds after)
    (start result : State) (base : holds start) (folded : items.foldlM step start = .ok result) :
    holds result := by
  induction items generalizing start with
  | nil =>
      have same : start = result := by simpa [pure, Except.pure] using folded
      exact same ▸ base
  | cons item rest ih =>
      obtain ⟨middle, stepped, folded⟩ := (foldlM_cons_ok_iff step item rest start result).mp folded
      exact ih (fun state next after member => keep state next after (List.mem_cons_of_mem item member))
        middle (keep start item middle List.mem_cons_self base stepped) folded

end Sequences

section Histories

variable {Item : Type}

def EachAfter (right : List Item → Item → Prop) (items : List Item) : Prop :=
  ∀ front item back, items = front ++ item :: back → right front item

theorem each_after_nil (right : List Item → Item → Prop) : EachAfter right [] := by
  intro front item back split
  simp at split

theorem each_after_concat_iff (right : List Item → Item → Prop) (items : List Item) (last : Item) :
    EachAfter right (items ++ [last]) ↔ EachAfter right items ∧ right items last := by
  constructor
  · intro each
    constructor
    · rintro front item back rfl
      exact each front item (back ++ [last]) (by simp)
    · exact each items last [] rfl
  · rintro ⟨each, now⟩ front item back split
    cases back using List.reverseRecOn with
    | nil =>
        obtain ⟨rfl, same⟩ := List.append_inj' split rfl
        obtain rfl : last = item := by simpa using same
        exact now
    | append_singleton back final =>
        rw [← List.cons_append, ← List.append_assoc] at split
        obtain ⟨rfl, _⟩ := List.append_inj' split rfl
        exact each front item back rfl

end Histories

section Runs

variable {State Input : Type}

/-- The states that accepted, allowed inputs lead to. -/
inductive Reaches (step : State → Input → Except Failure State)
    (allow : State → Input → Prop) (start : State) : State → Prop where
  | start : Reaches step allow start start
  | next {state after : State} (input : Input) : Reaches step allow start state →
      allow state input → step state input = .ok after → Reaches step allow start after

variable {step : State → Input → Except Failure State} {allow : State → Input → Prop}

-- The invariant rule. A step may use that its starting state is reached.
theorem reaches_invariant {start : State} (holds : State → Prop) (base : holds start)
    (keep : ∀ state input after, Reaches step allow start state → holds state →
      allow state input → step state input = .ok after → holds after)
    {state : State} (reached : Reaches step allow start state) : holds state := by
  induction reached with
  | start => exact base
  | next input before allowed accepted ih => exact keep _ input _ before ih allowed accepted

theorem reaches_trans {start middle state : State} (first : Reaches step allow start middle)
    (second : Reaches step allow middle state) : Reaches step allow start state := by
  induction second with
  | start => exact first
  | next input _ allowed accepted ih => exact ih.next input allowed accepted

theorem reaches_weaken {start state : State} {wider : State → Input → Prop}
    (weaker : ∀ state input, allow state input → wider state input)
    (reached : Reaches step allow start state) : Reaches step wider start state := by
  induction reached with
  | start => exact .start
  | next input _ allowed accepted ih => exact ih.next input (weaker _ input allowed) accepted

-- A fact that starts false and ends true was made true by one step of the run.
theorem reaches_origin {start state : State} (fact : State → Prop) (absent : ¬ fact start)
    (reached : Reaches step allow start state) (present : fact state) :
    ∃ before input after, Reaches step allow start before ∧ ¬ fact before ∧
      allow before input ∧ step before input = .ok after ∧ fact after ∧
      Reaches step allow after state := by
  induction reached with
  | start => exact absurd present absent
  | @next before after input reached allowed accepted ih =>
      by_cases earlier : fact before
      · obtain ⟨origin, cause, made, front, none, admits, caused, holds, back⟩ := ih earlier
        exact ⟨origin, cause, made, front, none, admits, caused, holds,
          back.next input allowed accepted⟩
      · exact ⟨before, input, after, reached, earlier, allowed, accepted, present, .start⟩

def guardedStep (step : State → Input → Except Failure State) (allowed : State → Input → Bool)
    (code : Failure) (state : State) (input : Input) : Except Failure State :=
  if allowed state input then step state input else .error code

theorem guarded_ok_iff {allowed : State → Input → Bool} {code : Failure} {state after : State}
    {input : Input} : guardedStep step allowed code state input = .ok after ↔
      allowed state input = true ∧ step state input = .ok after := by
  unfold guardedStep
  split <;> simp_all

-- A completed fold of guarded steps is a run that did only what it may.
theorem guarded_reaches {allowed : State → Input → Bool} {code : Failure} (inputs : List Input)
    (start result : State)
    (folded : inputs.foldlM (guardedStep step allowed code) start = .ok result) :
    Reaches step (fun state input => allowed state input = true) start result := by
  induction inputs generalizing start with
  | nil =>
      have same : start = result := by simpa [pure, Except.pure] using folded
      exact same ▸ .start
  | cons input rest ih =>
      obtain ⟨middle, stepped, folded⟩ := (foldlM_cons_ok_iff _ input rest start result).mp folded
      obtain ⟨may, stepped⟩ := guarded_ok_iff.mp stepped
      exact reaches_trans (.next input .start may stepped) (ih middle folded)

/-- The state an evaluation ended in, or where it began if it refused. -/
def finalOf (start : State) : Except Failure State → State
  | .ok state => state
  | .error _ => start

def endsIn (check : State → Bool) : Except Failure State → Bool
  | .ok state => check state
  | .error _ => false

theorem ends_in_final {check : State → Bool} (start : State) {run : Except Failure State}
    (ended : endsIn check run = true) :
    run = .ok (finalOf start run) ∧ check (finalOf start run) = true := by
  cases run with
  | error code => simp [endsIn] at ended
  | ok state => exact ⟨rfl, ended⟩

theorem ends_in_exists {check : State → Bool} {run : Except Failure State}
    (ended : endsIn check run = true) : ∃ state, run = .ok state ∧ check state = true := by
  cases run with
  | error code => simp [endsIn] at ended
  | ok state => exact ⟨state, rfl, ended⟩

def failsWith [DecidableEq Failure] (failure : Failure) : Except Failure State → Bool
  | .ok _ => false
  | .error found => found = failure

theorem fails_with_eq [DecidableEq Failure] {failure : Failure} {run : Except Failure State}
    (failed : failsWith failure run = true) : run = .error failure := by
  cases run with
  | error found => exact congrArg Except.error (of_decide_eq_true failed)
  | ok state => cases failed

theorem filterM_ok_iff {Item : Type} (check : Item → Except Failure Bool)
    (items kept : List Item) :
    items.filterM check = .ok kept ↔ (∀ item ∈ items, ∃ answer, check item = .ok answer) ∧
      kept = items.filter fun item => endsIn id (check item) := by
  have gathered : ∀ (items front out : List Item), List.filterAuxM check items front = .ok out ↔
      (∀ item ∈ items, ∃ answer, check item = .ok answer) ∧
        out = (items.filter fun item => endsIn id (check item)).reverse ++ front := by
    intro items
    induction items with
    | nil => simp [List.filterAuxM, pure, Except.pure, eq_comm]
    | cons item rest ih =>
        intro front out
        rw [List.filterAuxM, bind_ok_iff, List.forall_mem_cons]
        constructor
        · rintro ⟨answer, asked, later⟩
          have whole := (ih _ _).1 later
          refine ⟨⟨⟨answer, asked⟩, whole.1⟩, ?_⟩
          rw [whole.2]
          cases answer <;> simp [asked, endsIn]
        · rintro ⟨⟨⟨answer, asked⟩, all⟩, rfl⟩
          refine ⟨answer, asked, (ih _ _).2 ⟨all, ?_⟩⟩
          cases answer <;> simp [asked, endsIn]
  rw [List.filterM, bind_ok_iff]
  constructor
  · rintro ⟨found, ended, reversed⟩
    have whole := (gathered _ _ _).1 ended
    refine ⟨whole.1, ?_⟩
    rw [← (pure_ok_iff _ _).1 reversed, whole.2, List.append_nil, List.reverse_reverse]
  · rintro ⟨all, rfl⟩
    exact ⟨_, (gathered _ _ _).2 ⟨all, rfl⟩, by simp [pure, Except.pure]⟩

end Runs

end Horseness.FallibleRuns
