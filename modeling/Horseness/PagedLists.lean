import Mathlib.Data.List.Nodup
import Mathlib.Data.List.Count
import Mathlib.Tactic.Common
import Horseness.FallibleRuns

/-!
Reading a list page by page while it changes. A page starts where the one before it ended, so what
was read is what stands before that position, as long as no change carries a key across it.
-/

namespace Horseness.PagedLists

open FallibleRuns

section Pages

variable {Key : Type} [BEq Key] {listing changed returned : List Key} {offset : Nat} {key : Key}

def Accounted (listing returned : List Key) (offset : Nat) (key : Key) : Prop :=
  returned.count key = (listing.take offset).count key

def Stays (listing changed : List Key) (offset : Nat) (key : Key) : Prop :=
  key ∈ listing.take offset ↔ key ∈ changed.take offset

theorem accounted_start (listing : List Key) (key : Key) : Accounted listing [] 0 key := rfl

theorem accounted_page (limit : Nat) (accounted : Accounted listing returned offset key) :
    Accounted listing (returned ++ (listing.drop offset).take limit) (offset + limit) key := by
  rw [Accounted, List.count_append, accounted, List.take_add, List.count_append]

variable [LawfulBEq Key]

theorem take_once (once : listing.Nodup) (offset : Nat) :
    (listing.take offset).count key = if key ∈ listing.take offset then 1 else 0 :=
  (once.sublist (List.take_sublist offset listing)).count

theorem accounted_change (once : listing.Nodup) (unique : changed.Nodup)
    (stays : Stays listing changed offset key) (accounted : Accounted listing returned offset key) :
    Accounted changed returned offset key := by
  rw [Accounted, accounted, take_once once, take_once unique]
  exact if_congr stays rfl rfl

theorem accounted_once (once : listing.Nodup) (accounted : Accounted listing returned offset key) :
    returned.count key ≤ 1 := by
  rw [accounted, take_once once]
  split <;> decide

theorem accounted_whole (once : listing.Nodup) (listed : key ∈ listing) (whole : listing.length ≤ offset)
    (accounted : Accounted listing returned offset key) : returned.count key = 1 := by
  rw [accounted, List.take_of_length_le whole]
  exact List.count_eq_one_of_mem once listed

end Pages

section Traversals

variable {Server Ask Item Token Failure Key : Type}

/-- What a client has read, and the token of the next page until there is none. -/
structure Traversal (Server Item Token : Type) where
  server : Server
  items : List Item
  next : Option Token

inductive TraversalInput (Server Ask : Type) where
  | page (ask : Ask)
  /-- Whatever others do between two requests. -/
  | changed (server : Server)

def traverse (answer : Server → Ask → Token → Except Failure (List Item × Option Token)) (ended : Failure)
    (state : Traversal Server Item Token) :
    TraversalInput Server Ask → Except Failure (Traversal Server Item Token)
  | .page ask => do
      let token ← required state.next ended
      let found ← answer state.server ask token
      return { state with items := state.items ++ found.1, next := found.2 }
  | .changed server => .ok { state with server := server }

end Traversals

section Reading

variable {Server Ask Item Token Failure Key : Type} [BEq Key] [LawfulBEq Key]
  {answer : Server → Ask → Token → Except Failure (List Item × Option Token)} {ended : Failure}
  {keys : Server → List Key} {name : Item → Key} {position : Token → Nat} {key : Key}
  {start state after : Traversal Server Item Token}

/-- The answers are the pages of a list without duplicates, and each token names the next position. -/
structure Pages (answer : Server → Ask → Token → Except Failure (List Item × Option Token))
    (keys : Server → List Key) (name : Item → Key) (position : Token → Nat) : Prop where
  once : ∀ server, (keys server).Nodup
  page : ∀ server ask token items next, answer server ask token = .ok (items, next) →
    ∃ limit, items.map name = ((keys server).drop (position token)).take limit ∧
      (next = none → (keys server).length ≤ position token + limit) ∧
      ∀ later, next = some later → position later = position token + limit

/-- The key is listed, and a change between two requests does not carry it across the position of
the second. -/
def Undisturbed (keys : Server → List Key) (position : Token → Nat) (key : Key)
    (state : Traversal Server Item Token) : TraversalInput Server Ask → Prop
  | .page _ => key ∈ keys state.server
  | .changed server => ∀ token, state.next = some token →
      Stays (keys state.server) (keys server) (position token) key

/-- What was read of a key: all before the position, and in the end the key once. -/
structure ReadOnce (keys : Server → List Key) (name : Item → Key) (position : Token → Nat) (key : Key)
    (state : Traversal Server Item Token) : Prop where
  reading : ∀ token, state.next = some token →
    Accounted (keys state.server) (state.items.map name) (position token) key
  read : state.next = none → (state.items.map name).count key = 1

theorem read_page {ask : Ask} (pages : Pages answer keys name position)
    (read : ReadOnce keys name position key state) (listed : key ∈ keys state.server)
    (accepted : traverse answer ended state (.page ask) = .ok after) :
    ReadOnce keys name position key after := by
  simp only [traverse, bind_ok_iff, required_ok_iff, pure_ok_iff] at accepted
  obtain ⟨token, here, ⟨items, next⟩, answered, rfl⟩ := accepted
  obtain ⟨limit, shown, whole, further⟩ := pages.page _ _ _ _ _ answered
  have accounted := accounted_page limit (read.reading token here)
  rw [← shown, ← List.map_append] at accounted
  constructor
  · intro later given
    rw [further later given]
    exact accounted
  · intro given
    exact accounted_whole (pages.once _) listed (whole given) accounted

theorem read_change {server : Server} (pages : Pages answer keys name position)
    (read : ReadOnce keys name position key state)
    (stays : ∀ token, state.next = some token →
      Stays (keys state.server) (keys server) (position token) key) :
    ReadOnce keys name position key { state with server := server } := by
  refine ⟨fun token here => ?_, read.read⟩
  exact accounted_change (pages.once _) (pages.once _) (stays token here) (read.reading token here)

theorem traversal_reads (pages : Pages answer keys name position) {token : Token}
    (first : start.next = some token) (begins : position token = 0) (blank : start.items = [])
    (reached : Reaches (traverse answer ended) (Undisturbed keys position key) start state) :
    ReadOnce keys name position key state := by
  refine reaches_invariant (ReadOnce keys name position key) ?_ ?_ reached
  · constructor
    · intro other given
      obtain rfl := Option.some.inj (first.symm.trans given)
      rw [begins, blank]
      exact accounted_start _ _
    · intro none
      cases first.symm.trans none
  · intro before input next _ read undisturbed accepted
    cases input with
    | page ask => exact read_page pages read undisturbed accepted
    | changed server =>
        obtain rfl := Except.ok.inj accepted
        exact read_change pages read undisturbed

theorem read_at_most (pages : Pages answer keys name position)
    (read : ReadOnce keys name position key state) : (state.items.map name).count key ≤ 1 := by
  cases given : state.next with
  | none => exact Nat.le_of_eq (read.read given)
  | some token => exact accounted_once (pages.once _) (read.reading token given)

end Reading

end Horseness.PagedLists
