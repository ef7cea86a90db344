import Horseness.CrashScripts

/-!
Folders of pieces and the scripts that copy, remove and rename them. Copying and removing go
piece by piece; a rename is one step. The pieces stand for whatever one step writes.
-/

namespace Horseness.Folders

open CrashScripts

/-- The folders of a disk by their places, and its other files. -/
structure Disk (Place Piece Files : Type) where
  folders : Place → Option (List Piece)
  files : Files

variable {Place Piece Files Label Refusal : Type} [DecidableEq Place]

namespace Disk

def put (disk : Disk Place Piece Files) (place : Place) (content : Option (List Piece)) :
    Disk Place Piece Files :=
  { disk with folders := Function.update disk.folders place content }

def write (disk : Disk Place Piece Files) (change : Files → Files) : Disk Place Piece Files :=
  { disk with files := change disk.files }

@[simp] theorem put_files (disk : Disk Place Piece Files) (place : Place)
    (content : Option (List Piece)) : (disk.put place content).files = disk.files := rfl

@[simp] theorem put_same (disk : Disk Place Piece Files) (place : Place)
    (content : Option (List Piece)) : (disk.put place content).folders place = content := by
  simp [put]

theorem put_other (disk : Disk Place Piece Files) {place other : Place}
    (content : Option (List Piece)) (different : other ≠ place) :
    (disk.put place content).folders other = disk.folders other := by
  simp [put, Function.update_of_ne different]

@[simp] theorem put_put (disk : Disk Place Piece Files) (place : Place)
    (first second : Option (List Piece)) :
    (disk.put place first).put place second = disk.put place second := by
  simp [put]

theorem put_found (disk : Disk Place Piece Files) (place : Place) :
    disk.put place (disk.folders place) = disk := by
  simp [put]

omit [DecidableEq Place] in
@[simp] theorem write_files (disk : Disk Place Piece Files) (change : Files → Files) :
    (disk.write change).files = change disk.files := rfl

omit [DecidableEq Place] in
@[simp] theorem write_folders (disk : Disk Place Piece Files) (change : Files → Files) :
    (disk.write change).folders = disk.folders := rfl

end Disk

abbrev Program (Place Piece Files Label Refusal Result : Type) :=
  Script (Disk Place Piece Files) Label (Trouble Label Refusal) Result

section Scripts

/-- A temporary file is written, renamed to its place, and the directory is synchronized. -/
def writeAtomic (label settling : Label) (change : Files → Files) :
    Program Place Piece Files Label Refusal Unit := do
  Script.step label id
  Script.step label (·.write change)
  Script.step settling id

def fill (label : Label) (place : Place) :
    List Piece → Program Place Piece Files Label Refusal Unit
  | [] => pure ()
  | piece :: rest => do
      Script.step label fun disk => disk.put place (some ((disk.folders place).getD [] ++ [piece]))
      fill label place rest

def copy (opening filling : Label) (source destination : Place) :
    Program Place Piece Files Label Refusal Unit := do
  match ← Script.ask opening (·.folders source) with
  | none => throw (.broken opening)
  | some pieces =>
      Script.step opening fun disk =>
        disk.put destination (some ((disk.folders destination).getD []))
      fill filling destination pieces

def empty (label : Label) (place : Place) :
    List Piece → Program Place Piece Files Label Refusal Unit
  | [] => Script.step label (·.put place none)
  | _ :: rest => do
      Script.step label (·.put place (some rest))
      empty label place rest

def remove (label : Label) (place : Place) : Program Place Piece Files Label Refusal Unit := do
  match ← Script.ask label (·.folders place) with
  | none => pure ()
  | some pieces => empty label place pieces

/-- A folder is renamed to a place that is absent or holds nothing. -/
def renamed (source destination : Place) (disk : Disk Place Piece Files) :
    Option (Disk Place Piece Files) :=
  match disk.folders source, (disk.folders destination).getD [] with
  | some pieces, [] => some ((disk.put destination (some pieces)).put source none)
  | _, _ => none

def rename (label : Label) (source destination : Place) :
    Program Place Piece Files Label Refusal Unit :=
  Script.attempt label (renamed source destination)

def synchronize (label : Label) (place : Place) : Program Place Piece Files Label Refusal Unit :=
  Script.attempt label fun disk => (disk.folders place).map fun _ => disk

end Scripts

section Rules

variable {faults : Faults Label} {disk : Disk Place Piece Files}
  {post : Post (Disk Place Piece Files) (Trouble Label Refusal) Unit}

omit [DecidableEq Place] in
theorem write_atomic_meets {label settling : Label} {change : Files → Files}
    (before : faults.mayStop label = true → post.stopped disk)
    (after : faults.mayStop settling = true → post.stopped (disk.write change))
    (early : faults.mayFail label = true → post.threw (.broken label) disk)
    (late : faults.mayFail settling = true → post.threw (.broken settling) (disk.write change))
    (returned : post.returned () (disk.write change)) :
    Meets faults post (writeAtomic label settling change) disk :=
  ⟨before, early, before, early, after, late, returned⟩

theorem fill_meets {label : Label} {place : Place} {rest : List Piece} :
    ∀ {done : List Piece},
      (∀ part, part <+: done ++ rest → (faults.mayStop label = true →
          post.stopped (disk.put place (some part))) ∧
        (faults.mayFail label = true → post.threw (.broken label) (disk.put place (some part)))) →
      post.returned () (disk.put place (some (done ++ rest))) →
      Meets faults post (fill label place rest) (disk.put place (some done)) := by
  induction rest with
  | nil =>
      intro done _ returned
      simpa [fill] using returned
  | cons piece rest ih =>
      intro done inside returned
      rw [fill, meets_bind, meets_step]
      have here := inside done (List.prefix_append _ _)
      refine ⟨here.1, here.2, ?_⟩
      simp only [Disk.put_same, Option.getD_some, Disk.put_put]
      exact ih (by simpa using inside) (by simpa using returned)

-- A copy to an absent place leaves a front part of its source wherever it ends early.
theorem copy_meets {opening filling : Label} {source destination : Place} {pieces : List Piece}
    (found : disk.folders source = some pieces) (absent : disk.folders destination = none)
    (closed : faults.mayStop opening = true → post.stopped disk)
    (refused : faults.mayFail opening = true → post.threw (.broken opening) disk)
    (inside : ∀ part, part <+: pieces → (faults.mayStop filling = true →
        post.stopped (disk.put destination (some part))) ∧
      (faults.mayFail filling = true →
        post.threw (.broken filling) (disk.put destination (some part))))
    (returned : post.returned () (disk.put destination (some pieces))) :
    Meets faults post (copy opening filling source destination) disk := by
  rw [copy, meets_bind, meets_ask]
  refine ⟨closed, refused, ?_⟩
  simp only [found]
  rw [meets_bind, meets_step]
  refine ⟨closed, refused, ?_⟩
  simp only [absent, Option.getD_none]
  exact fill_meets (by simpa using inside) (by simpa using returned)

theorem empty_meets {label : Label} {place : Place} {rest : List Piece} :
    ∀ {content : Option (List Piece)},
      (∀ part, (faults.mayStop label = true → post.stopped (disk.put place part)) ∧
        (faults.mayFail label = true → post.threw (.broken label) (disk.put place part))) →
      post.returned () (disk.put place none) →
      Meets faults post (empty label place rest) (disk.put place content) := by
  induction rest with
  | nil =>
      intro content inside returned
      rw [empty, meets_step]
      exact ⟨(inside content).1, (inside content).2, by simpa using returned⟩
  | cons piece rest ih =>
      intro content inside returned
      rw [empty, meets_bind, meets_step]
      refine ⟨(inside content).1, (inside content).2, ?_⟩
      simp only [Disk.put_put]
      exact ih inside returned

-- A removal changes one place only, whatever it leaves there when it ends early.
theorem remove_meets {label : Label} {place : Place}
    (inside : ∀ part, (faults.mayStop label = true → post.stopped (disk.put place part)) ∧
      (faults.mayFail label = true → post.threw (.broken label) (disk.put place part)))
    (returned : post.returned () (disk.put place none)) :
    Meets faults post (remove label place) disk := by
  have here := inside (disk.folders place)
  rw [Disk.put_found] at here
  rw [remove, meets_bind, meets_ask]
  refine ⟨here.1, here.2, ?_⟩
  cases content : disk.folders place with
  | none => simpa [← content, Disk.put_found] using returned
  | some pieces =>
      have removed := @empty_meets _ _ _ _ _ _ faults disk post label place pieces
        (disk.folders place) inside returned
      rwa [Disk.put_found] at removed

theorem remove_absent {label : Label} {place : Place}
    (absent : disk.folders place = none) (stopped : faults.mayStop label = true → post.stopped disk)
    (threw : faults.mayFail label = true → post.threw (.broken label) disk)
    (returned : post.returned () disk) : Meets faults post (remove label place) disk := by
  rw [remove, meets_bind, meets_ask]
  refine ⟨stopped, threw, ?_⟩
  simp only [absent]
  exact returned

-- A rename that fails, or that a place stands in the way of, changes nothing.
theorem rename_meets {label : Label} {source destination : Place}
    (stopped : faults.mayStop label = true → post.stopped disk)
    (threw : faults.mayFail label = true ∨ renamed source destination disk = none →
      post.threw (.broken label) disk)
    (returned : ∀ pieces, disk.folders source = some pieces →
      post.returned () ((disk.put destination (some pieces)).put source none)) :
    Meets faults post (rename label source destination) disk := by
  rw [rename, meets_attempt]
  refine ⟨stopped, fun may => threw (.inl may), ?_⟩
  cases moves : renamed source destination disk with
  | none => exact threw (.inr moves)
  | some after =>
      unfold renamed at moves
      split at moves
      · rename_i pieces found _
        cases moves
        exact returned pieces found
      · exact absurd moves (by simp)

omit [DecidableEq Place] in
theorem synchronize_meets {label : Label} {place : Place}
    (stopped : faults.mayStop label = true → post.stopped disk)
    (threw : faults.mayFail label = true ∨ disk.folders place = none →
      post.threw (.broken label) disk)
    (returned : ∀ pieces, disk.folders place = some pieces → post.returned () disk) :
    Meets faults post (synchronize label place) disk := by
  rw [synchronize, meets_attempt]
  refine ⟨stopped, fun may => threw (.inl may), ?_⟩
  cases content : disk.folders place with
  | none => exact threw (.inr content)
  | some pieces => exact returned pieces content

end Rules

section Invariants

variable {invariant : Disk Place Piece Files → Prop}

theorem preserves_remove {label : Label} {place : Place}
    (keeps : ∀ found content, invariant found → invariant (found.put place content)) :
    Preserves invariant (remove label place : Program Place Piece Files Label Refusal Unit) := by
  have emptied : ∀ rest : List Piece, Preserves invariant (empty label place rest :
      Program Place Piece Files Label Refusal Unit) := by
    intro rest
    induction rest with
    | nil => exact preserves_step fun _ holds => keeps _ _ holds
    | cons piece rest ih =>
        exact preserves_bind (preserves_step fun _ holds => keeps _ _ holds) fun _ => ih
  refine preserves_bind preserves_ask fun found => ?_
  cases found with
  | none => trivial
  | some pieces => exact emptied pieces

theorem preserves_rename {label : Label} {source destination : Place}
    (keepsSource : ∀ found content, invariant found → invariant (found.put source content))
    (keeps : ∀ found content, invariant found → invariant (found.put destination content)) :
    Preserves invariant (rename label source destination :
      Program Place Piece Files Label Refusal Unit) := by
  refine preserves_attempt fun found after moves holds => ?_
  unfold renamed at moves
  split at moves
  · cases moves
    exact keepsSource _ _ (keeps _ _ holds)
  · exact absurd moves (by simp)

end Invariants

end Horseness.Folders
