import Horseness.Canonical
import Mathlib.Logic.Relation
import Mathlib.Tactic.IntervalCases
import Mathlib.Tactic.Ring

/-!
The characters that `lowercaseBase32NoPadding` writes, read back. Its accumulator holds 32 bits and
is never masked, but fewer than 13 of them are ever awaited: the older ones, which the shifts push
out, have been written.
-/

namespace Horseness.Base32Bits

open ScriptText Canonical

section Digits

def weigh (base : Nat) (digits : List Nat) : Nat :=
  digits.foldl (fun sum digit => base * sum + digit) 0

@[simp] theorem weigh_nil (base : Nat) : weigh base [] = 0 := rfl

@[simp] theorem weigh_concat (base : Nat) (digits : List Nat) (digit : Nat) :
    weigh base (digits ++ [digit]) = base * weigh base digits + digit := by
  simp [weigh]

def unweigh : Nat → Nat → List Nat
  | 0, _ => []
  | count + 1, number => unweigh count (number / 256) ++ [number % 256]

theorem unweigh_weigh (bytes : List UInt8) :
    unweigh bytes.length (weigh 256 (bytes.map UInt8.toNat)) = bytes.map UInt8.toNat := by
  induction bytes using List.reverseRecOn with
  | nil => rfl
  | append_singleton front byte ih =>
      have small : byte.toNat < 256 := byte.toNat_lt
      rw [List.length_append, List.length_singleton, List.map_append, List.map_singleton,
        weigh_concat, unweigh]
      rw [show (256 * weigh 256 (front.map UInt8.toNat) + byte.toNat) / 256 =
        weigh 256 (front.map UInt8.toNat) by omega, ih]
      congr 2
      omega

end Digits

section Characters

def digitOf (unit : UInt16) : Nat := base32Alphabet.idxOf unit

theorem digit_of_unit (accumulator : BitVec 32) :
    digitOf (base32Unit accumulator) = accumulator.toNat % 32 := by
  have listed : ∀ digit ∈ List.range 32, digitOf (base32Alphabet.getD digit 0) = digit :=
    of_decide_eq_true (by decide)
  have masked : (accumulator &&& 31#32).toNat = accumulator.toNat % 32 := by
    rw [BitVec.toNat_and]
    exact Nat.and_two_pow_sub_one_eq_mod _ 5
  rw [base32Unit, masked]
  apply listed
  rw [List.mem_range]
  omega

theorem unit_listed (accumulator : BitVec 32) : base32Unit accumulator ∈ base32Alphabet := by
  have listed : ∀ digit ∈ List.range 32, base32Alphabet.getD digit 0 ∈ base32Alphabet :=
    of_decide_eq_true (by decide)
  apply listed
  rw [List.mem_range, BitVec.toNat_and]
  have small := Nat.and_le_right (n := accumulator.toNat) (m := (31#32).toNat)
  have bound : (31#32).toNat = 31 := rfl
  omega

def decodeBase32 (text : JsString) : List Nat :=
  unweigh (5 * text.length / 8) (weigh 32 (text.map digitOf) / 2 ^ (5 * text.length % 8))

end Characters

section Loop

/-- The variables of the loops, and the bytes that were read. -/
structure LoopState where
  read : List UInt8
  rest : List UInt8
  output : JsString
  bits : Nat
  accumulator : BitVec 32

/-- One round of the outer loop before its inner loop, or one round of the inner loop. -/
inductive LoopStep : LoopState → LoopState → Prop where
  | shift (read rest : List UInt8) (byte : UInt8) (output : JsString) (bits : Nat)
      (accumulator : BitVec 32) (drained : bits < 5) :
      LoopStep ⟨read, byte :: rest, output, bits, accumulator⟩
        ⟨read ++ [byte], rest, output, bits + 8,
          (accumulator <<< 8) ||| BitVec.ofNat 32 byte.toNat⟩
  | emit (read rest : List UInt8) (output : JsString) (bits : Nat) (accumulator : BitVec 32) :
      LoopStep ⟨read, rest, output, bits + 5, accumulator⟩
        ⟨read, rest, output ++ [base32Unit (accumulator >>> bits)], bits, accumulator⟩

def loopStart (bytes : List UInt8) : LoopState := ⟨[], bytes, [], 0, 0#32⟩

def Visits (bytes : List UInt8) : LoopState → Prop :=
  Relation.ReflTransGen LoopStep (loopStart bytes)

def LoopState.number (state : LoopState) : Nat := weigh 256 (state.read.map UInt8.toNat)

/-- The written characters are the front of the bytes read, and the last `bits` bits of the
accumulator are the rest of them. -/
structure Awaits (state : LoopState) : Prop where
  few : state.bits < 13
  count : 5 * state.output.length + state.bits = 8 * state.read.length
  written : weigh 32 (state.output.map digitOf) = state.number / 2 ^ state.bits
  awaited : state.accumulator.toNat % 2 ^ state.bits = state.number % 2 ^ state.bits
  listed : ∀ unit ∈ state.output, unit ∈ base32Alphabet

theorem start_awaits (bytes : List UInt8) : Awaits (loopStart bytes) where
  few := Nat.zero_lt_succ 12
  count := rfl
  written := (Nat.zero_div _).symm
  awaited := rfl
  listed := by simp [loopStart]

-- A shift makes room for a byte below the awaited bits, which stay.
theorem shifted_bits {accumulator : BitVec 32} {number bits : Nat} {byte : UInt8} (few : bits < 5)
    (awaited : accumulator.toNat % 2 ^ bits = number % 2 ^ bits) :
    ((accumulator <<< 8) ||| BitVec.ofNat 32 byte.toNat).toNat % 2 ^ (bits + 8) =
      (256 * number + byte.toNat) % 2 ^ (bits + 8) := by
  have small : byte.toNat < 2 ^ 8 := byte.toNat_lt
  have kept : (accumulator.toNat <<< 8) % 2 ^ 32 = (accumulator.toNat % 2 ^ 24) <<< 8 := by
    rw [Nat.shiftLeft_eq, Nat.shiftLeft_eq]
    omega
  have whole : ((accumulator <<< 8) ||| BitVec.ofNat 32 byte.toNat).toNat =
      accumulator.toNat % 2 ^ 24 * 2 ^ 8 + byte.toNat := by
    rw [BitVec.toNat_or, BitVec.toNat_shiftLeft, BitVec.toNat_ofNat,
      Nat.mod_eq_of_lt (show byte.toNat < 2 ^ 32 by omega), kept,
      ← Nat.shiftLeft_add_eq_or_of_lt small, Nat.shiftLeft_eq]
  rw [whole]
  interval_cases bits <;> omega

theorem emitted_digit {accumulator : BitVec 32} {number bits : Nat}
    (awaited : accumulator.toNat % 2 ^ (bits + 5) = number % 2 ^ (bits + 5)) :
    digitOf (base32Unit (accumulator >>> bits)) = number / 2 ^ bits % 32 := by
  have split : ∀ whole, whole / 2 ^ bits % 32 = whole % 2 ^ (bits + 5) / 2 ^ bits := fun whole => by
    rw [pow_add]
    exact (Nat.mod_mul_right_div_self whole (2 ^ bits) 32).symm
  rw [digit_of_unit, BitVec.toNat_ushiftRight, Nat.shiftRight_eq_div_pow, split, awaited, ← split]

theorem awaits_step {state next : LoopState} (step : LoopStep state next) (awaits : Awaits state) :
    Awaits next := by
  obtain ⟨few, count, written, awaited, listed⟩ := awaits
  cases step with
  | shift read rest byte output bits accumulator drained =>
      have grown : weigh 256 ((read ++ [byte]).map UInt8.toNat) =
          256 * weigh 256 (read.map UInt8.toNat) + byte.toNat := by
        rw [List.map_append, List.map_singleton, weigh_concat]
      refine ⟨Nat.add_lt_add_right drained 8, ?_, ?_, ?_, listed⟩
      · simp only [List.length_append, List.length_singleton] at count ⊢
        omega
      · have small : byte.toNat < 256 := byte.toNat_lt
        simp only [LoopState.number] at written ⊢
        rw [grown, written, pow_add, mul_comm (2 ^ bits), ← Nat.div_div_eq_div_mul]
        congr 1
        omega
      · simp only [LoopState.number] at awaited ⊢
        rw [grown]
        exact shifted_bits drained awaited
  | emit read rest output bits accumulator =>
      have digit := emitted_digit awaited
      refine ⟨?_, ?_, ?_, ?_, ?_⟩
      · exact Nat.lt_of_add_right_lt few
      · simp only [List.length_append, List.length_singleton] at count ⊢
        omega
      · simp only [LoopState.number] at written digit ⊢
        rw [List.map_append, List.map_singleton, weigh_concat, written, digit, pow_add,
          ← Nat.div_div_eq_div_mul]
        omega
      · have divides : 2 ^ bits ∣ 2 ^ (bits + 5) := pow_dvd_pow 2 (Nat.le_add_right bits 5)
        have lower := congrArg (· % 2 ^ bits) awaited
        simp only [Nat.mod_mod_of_dvd _ divides] at lower
        exact lower
      · intro unit member
        rcases List.mem_append.mp member with earlier | last
        · exact listed unit earlier
        · rw [List.mem_singleton.mp last]
          exact unit_listed _

-- At every step of either loop the awaited bits are intact, however long the input.
theorem visits_awaits {bytes : List UInt8} {state : LoopState} (visits : Visits bytes state) :
    Awaits state := by
  induction visits with
  | refl => exact start_awaits bytes
  | tail _ step ih => exact awaits_step step ih

theorem step_bytes {state next : LoopState} (step : LoopStep state next) :
    next.read ++ next.rest = state.read ++ state.rest := by
  cases step with
  | shift => simp
  | emit => rfl

theorem visits_bytes {bytes : List UInt8} {state : LoopState} (visits : Visits bytes state) :
    state.read ++ state.rest = bytes := by
  induction visits with
  | refl => rfl
  | tail _ step ih => exact (step_bytes step).trans ih

end Loop

section Runs

variable {bytes : List UInt8}

theorem drain_visits (accumulator : BitVec 32) (bits : Nat) (read rest : List UInt8)
    (output : JsString) : Relation.ReflTransGen LoopStep ⟨read, rest, output, bits, accumulator⟩
      ⟨read, rest, output ++ (drainBits accumulator bits).1, (drainBits accumulator bits).2,
        accumulator⟩ ∧ (drainBits accumulator bits).2 < 5 := by
  induction bits using drainBits.induct accumulator generalizing output with
  | case1 bits ih =>
      obtain ⟨visits, few⟩ := ih (output ++ [base32Unit (accumulator >>> bits)])
      rw [List.append_assoc, List.singleton_append] at visits
      exact ⟨.head (.emit _ _ _ _ _) visits, few⟩
  | case2 bits few =>
      have small : bits < 5 := by
        by_contra enough
        exact few (bits - 5) (by omega)
      rw [drainBits.eq_2 accumulator bits few, List.append_nil]
      exact ⟨.refl, small⟩

-- The outer loop reads every byte, and its last state gives the rest of the text.
theorem loop_visits (rest read : List UInt8) (output : JsString) (bits : Nat)
    (accumulator : BitVec 32) (drained : bits < 5) : ∃ last : LoopState,
    Relation.ReflTransGen LoopStep ⟨read, rest, output, bits, accumulator⟩ last ∧
      last.rest = [] ∧ last.bits < 5 ∧
      output ++ base32Loop (rest.map UInt8.toNat) bits accumulator = last.output ++
        base32Loop [] last.bits last.accumulator := by
  induction rest generalizing read output bits accumulator with
  | nil => exact ⟨_, .refl, rfl, drained, rfl⟩
  | cons byte rest ih =>
      have drains := drain_visits ((accumulator <<< 8) ||| BitVec.ofNat 32 byte.toNat) (bits + 8)
        (read ++ [byte]) rest output
      obtain ⟨last, visits, read, few, same⟩ := ih (read ++ [byte]) _ _ _ drains.2
      refine ⟨last, ?_, read, few, ?_⟩
      · exact .head (.shift _ _ _ _ _ _ drained) (drains.1.trans visits)
      · rw [← same, List.map_cons, base32Loop, List.append_assoc]

theorem last_digit {accumulator : BitVec 32} {number bits : Nat} (few : bits < 5)
    (awaited : accumulator.toNat % 2 ^ bits = number % 2 ^ bits) :
    digitOf (base32Unit (accumulator <<< (5 - bits))) = number % 2 ^ bits * 2 ^ (5 - bits) := by
  rw [digit_of_unit, BitVec.toNat_shiftLeft, Nat.shiftLeft_eq, ← awaited]
  interval_cases bits <;> omega

-- What the text spells: the bytes, and zeros below them up to a whole character.
theorem last_written {last : LoopState} (few : last.bits < 5) (awaits : Awaits last) :
    5 * (last.output ++ base32Loop [] last.bits last.accumulator).length =
        8 * last.read.length + (if 0 < last.bits then 5 - last.bits else 0) ∧
      weigh 32 ((last.output ++ base32Loop [] last.bits last.accumulator).map digitOf) =
        last.number * 2 ^ (if 0 < last.bits then 5 - last.bits else 0) ∧
      ∀ unit ∈ last.output ++ base32Loop [] last.bits last.accumulator, unit ∈ base32Alphabet := by
  obtain ⟨-, count, written, awaited, listed⟩ := awaits
  by_cases left : 0 < last.bits
  · rw [base32Loop, if_pos left, if_pos left]
    refine ⟨?_, ?_, ?_⟩
    · rw [List.length_append, List.length_singleton]
      omega
    · have whole := Nat.div_add_mod last.number (2 ^ last.bits)
      have room : 2 ^ last.bits * 2 ^ (5 - last.bits) = 32 := by
        rw [← pow_add, Nat.add_sub_cancel' (Nat.le_of_lt few)]
        rfl
      rw [List.map_append, List.map_singleton, weigh_concat, written, last_digit few awaited,
        ← room]
      conv_rhs => rw [← whole]
      ring
    · intro unit member
      rcases List.mem_append.mp member with earlier | final
      · exact listed unit earlier
      · rw [List.mem_singleton.mp final]
        exact unit_listed _
  · have none : last.bits = 0 := Nat.eq_zero_of_not_pos left
    rw [base32Loop, if_neg left, if_neg left, List.append_nil]
    refine ⟨by omega, ?_, listed⟩
    rw [written, none, pow_zero, Nat.div_one, Nat.mul_one]

def identifier (bytes : List UInt8) : JsString := lowercaseBase32NoPadding (bytes.map UInt8.toNat)

-- The loops end with every byte read and less than a character awaited, which is then filled.
theorem identifier_visits (bytes : List UInt8) : ∃ last, Visits bytes last ∧ last.rest = [] ∧
    last.bits < 5 ∧ identifier bytes = last.output ++ base32Loop [] last.bits last.accumulator :=
  loop_visits bytes [] [] 0 0#32 (by decide)

theorem identifier_spells (bytes : List UInt8) : ∃ zeros < 5,
    5 * (identifier bytes).length = 8 * bytes.length + zeros ∧
      weigh 32 ((identifier bytes).map digitOf) = weigh 256 (bytes.map UInt8.toNat) * 2 ^ zeros ∧
      ∀ unit ∈ identifier bytes, unit ∈ base32Alphabet := by
  obtain ⟨last, visits, ended, few, same⟩ := identifier_visits bytes
  have all := visits_bytes visits
  rw [ended, List.append_nil] at all
  have facts := last_written few (visits_awaits visits)
  rw [← same, LoopState.number, all] at facts
  refine ⟨if 0 < last.bits then 5 - last.bits else 0, ?_, facts⟩
  split <;> omega

theorem identifier_decoded (bytes : List UInt8) :
    decodeBase32 (identifier bytes) = bytes.map UInt8.toNat := by
  obtain ⟨zeros, few, sized, spelled, -⟩ := identifier_spells bytes
  have count : (8 * bytes.length + zeros) / 8 = bytes.length := by omega
  have filled : (8 * bytes.length + zeros) % 8 = zeros := by omega
  rw [decodeBase32, sized, count, filled, spelled, Nat.mul_div_cancel _ (Nat.two_pow_pos zeros)]
  exact unweigh_weigh bytes

/-- An identifier has a character of the alphabet for every five bits begun, its bytes can be read
back, and no step of the loops loses a bit that is still to be written. -/
theorem base32_identifiers :
    (∀ bytes, (identifier bytes).length = (8 * bytes.length + 4) / 5 ∧
      (∀ unit ∈ identifier bytes, unit ∈ base32Alphabet) ∧
      decodeBase32 (identifier bytes) = bytes.map UInt8.toNat) ∧
    Function.Injective identifier ∧
    (∀ bytes, ∃ last, Visits bytes last ∧ last.rest = [] ∧ last.bits < 5 ∧
      identifier bytes = last.output ++
        if 0 < last.bits then [base32Unit (last.accumulator <<< (5 - last.bits))] else []) ∧
    ∀ bytes state, Visits bytes state →
      5 * state.output.length + state.bits = 8 * state.read.length ∧
      weigh 32 (state.output.map digitOf) = state.number / 2 ^ state.bits ∧
      state.accumulator.toNat % 2 ^ state.bits = state.number % 2 ^ state.bits := by
  refine ⟨fun bytes => ?_, fun left right same => ?_, identifier_visits, fun bytes state visits => ?_⟩
  · obtain ⟨zeros, few, sized, -, listed⟩ := identifier_spells bytes
    exact ⟨by omega, listed, identifier_decoded bytes⟩
  · have decoded := congrArg decodeBase32 same
    rw [identifier_decoded, identifier_decoded] at decoded
    exact List.map_injective_iff.mpr (fun _ _ => UInt8.toNat.inj) decoded
  · have awaits := visits_awaits visits
    exact ⟨awaits.count, awaits.written, awaits.awaited⟩

end Runs

end Horseness.Base32Bits
