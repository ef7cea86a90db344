import Mathlib.Tactic.Common

/-!
Generators: what was yielded, and how it ended. A failure keeps what was yielded before it, and
nothing is yielded after it.
-/

namespace Horseness.Generators

structure Generated (Item Failure Final : Type) where
  items : List Item
  ending : Except Failure Final
  deriving DecidableEq

variable {Item Failure Final Next Last : Type}

@[ext] theorem Generated.ext {left right : Generated Item Failure Final}
    (items : left.items = right.items) (ending : left.ending = right.ending) : left = right := by
  cases left; cases right; cases items; cases ending; rfl

def emit (item : Item) : Generated Item Failure Unit := ⟨[item], .ok ()⟩

def raise (failure : Failure) : Generated Item Failure Final := ⟨[], .error failure⟩

def andThen (first : Generated Item Failure Final) (later : Final → Generated Item Failure Next) :
    Generated Item Failure Next :=
  match first.ending with
  | .error failure => ⟨first.items, .error failure⟩
  | .ok final => ⟨first.items ++ (later final).items, (later final).ending⟩

instance : Monad (Generated Item Failure) where
  pure final := ⟨[], .ok final⟩
  bind := andThen

theorem bind_ended {first : Generated Item Failure Final} {final : Final}
    (ended : first.ending = .ok final) (later : Final → Generated Item Failure Next) :
    first >>= later = ⟨first.items ++ (later final).items, (later final).ending⟩ := by
  rw [show first >>= later = andThen first later from rfl, andThen, ended]

theorem bind_failed {first : Generated Item Failure Final} {failure : Failure}
    (failed : first.ending = .error failure) (later : Final → Generated Item Failure Next) :
    first >>= later = ⟨first.items, .error failure⟩ := by
  rw [show first >>= later = andThen first later from rfl, andThen, failed]

theorem raise_bind (failure : Failure) (later : Final → Generated Item Failure Next) :
    raise failure >>= later = raise failure := bind_failed rfl later

instance : LawfulMonad (Generated Item Failure) := by
  refine LawfulMonad.mk' _ ?_ ?_ ?_
  · intro Final first
    rcases first with ⟨items, failure | final⟩
    · rfl
    · exact Generated.ext (List.append_nil items) rfl
  · intro Final Next final later
    rfl
  · intro Final Next Last first second third
    rcases first with ⟨items, failure | final⟩
    · rfl
    · cases ending : (second final).ending with
      | error failure => simp [bind, andThen, ending]
      | ok next => simp [bind, andThen, ending]

-- What comes after a first part matters only where that part ends.
theorem bind_congr_ended {first : Generated Item Failure Final}
    {left right : Final → Generated Item Failure Next}
    (same : ∀ final, first.ending = .ok final → left final = right final) :
    first >>= left = first >>= right := by
  cases ending : first.ending with
  | error failure => rw [bind_failed ending, bind_failed ending]
  | ok final => rw [bind_ended ending, bind_ended ending, same final ending]

end Horseness.Generators
