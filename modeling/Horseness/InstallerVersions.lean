import Mathlib.Algebra.Group.Nat.Defs
import Mathlib.Algebra.Order.Monoid.Unbundled.WithTop

/-!
The version strings and journal tokens of the installer, and the numbers it reads off them.
-/

namespace Horseness.InstallerVersions

def labelled (character : Char) : Bool := character.isAlphanum || character == '.' || character == '-'

/-- `/^\d+\.\d+\.\d+(?:-[0-9A-Za-z.-]+)?$/u` -/
def isVersion (text : String) : Bool :=
  match text.toList.span Char.isDigit with
  | (_ :: _, '.' :: rest) => match rest.span Char.isDigit with
      | (_ :: _, '.' :: rest) => match rest.span Char.isDigit with
          | (_ :: _, []) => true
          | (_ :: _, '-' :: label) => !label.isEmpty && label.all labelled
          | _ => false
      | _ => false
  | _ => false

/-- `/^[A-Za-z0-9][A-Za-z0-9._:-]{0,127}$/u` -/
def isToken (text : String) : Bool :=
  match text.toList with
  | [] => false
  | first :: rest => first.isAlphanum && rest.length ≤ 127 &&
      rest.all fun character => labelled character || character == '_' || character == ':'

def nearest (value : Nat) : WithTop Nat :=
  let unit := 2 ^ (value.log2 + 1 - 53)
  let significand := value / unit
  let remainder := value % unit
  let rounded := if 2 * remainder > unit ∨ 2 * remainder = unit ∧ significand % 2 = 1 then
    (significand + 1) * unit else significand * unit
  if rounded < 2 ^ 1024 then rounded else ⊤

def decimal (digits : List Char) : Nat :=
  digits.foldl (fun total digit => total * 10 + (digit.toNat - '0'.toNat)) 0

/-- `Number.parseInt(part, 10)` of a part without blanks and sign; no digits give NaN. -/
def parseInt (part : List Char) : Option (WithTop Nat) :=
  match part.takeWhile Char.isDigit with
  | [] => none
  | digits => some (nearest (decimal digits))

/-- `text.split(".").map(parseInt)[index] ?? 0` -/
def component (text : String) (index : Nat) : Option (WithTop Nat) :=
  ((text.toList.splitOn '.').map parseInt).getD index (some ((0 : Nat) : WithTop Nat))

-- Comparisons with NaN are false.
def lessThan : Option (WithTop Nat) → Option (WithTop Nat) → Bool
  | some left, some right => decide (left < right)
  | _, _ => false

def sameNumber : Option (WithTop Nat) → Option (WithTop Nat) → Bool
  | some left, some right => left == right
  | _, _ => false

/-- The downgrade test of `migrate`. -/
def downgrade (fromVersion toVersion : String) : Bool :=
  let source := component fromVersion
  let target := component toVersion
  lessThan (target 0) (source 0) || sameNumber (target 0) (source 0) &&
    (lessThan (target 1) (source 1) || sameNumber (target 1) (source 1) &&
      lessThan (target 2) (source 2))

example : downgrade "2.0.0" "1.9.9" = true := by decide +kernel

/-- `left.localeCompare(right)`. -/
class Collation where
  localeCompare : String → String → Int

/-- `Number(part)` of a part of digits; the empty part gives zero, any other NaN. -/
def number (part : List Char) : Option (WithTop Nat) :=
  if part = [] then some ((0 : Nat) : WithTop Nat)
  else if part.all Char.isDigit then some (nearest (decimal part)) else none

/-- The sign of `left - right`; nothing for NaN. -/
def difference : Option (WithTop Nat) → Option (WithTop Nat) → Option Ordering
  | some left, some right =>
      if left < right then some .lt
      else if right < left then some .gt
      else if left = ⊤ then none
      else some .eq
  | _, _ => none

/-- The sign of what `compareVersions` returns; nothing for NaN. -/
def compareVersions [Collation] (left right : String) : Option Ordering :=
  let parse := fun value : String =>
    ((value.toList.takeWhile (· ≠ '-')).splitOn '.').map number
  let part := fun value index => (parse value).getD index (some ((0 : Nat) : WithTop Nat))
  match [0, 1, 2].find? fun index => difference (part left index) (part right index) ≠ some .eq with
  | some index => difference (part left index) (part right index)
  | none =>
      let collated := Collation.localeCompare left right
      some (if collated < 0 then .lt else if 0 < collated then .gt else .eq)

end Horseness.InstallerVersions
