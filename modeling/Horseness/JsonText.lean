import Horseness.JsonValues

/-!
JSON text: `JSON.parse`, and the writing of `JSON.stringify` with the members of
an object in name order. Number texts are a parameter; all that is used of them
is that reading undoes writing and which code units occur in them.
-/

namespace Horseness.JsonText

open Records ScriptText JsonValues

def quoteMark : UInt16 := 34
def comma : UInt16 := 44
def colon : UInt16 := 58
def openBracket : UInt16 := 91
def backslash : UInt16 := 92
def closeBracket : UInt16 := 93
def openBrace : UInt16 := 123
def closeBrace : UInt16 := 125

def numberUnit (unit : UInt16) : Bool :=
  digitUnit unit || unit == 43 || unit == 45 || unit == 46 || unit == 69 || unit == 101

/-- The number texts of the engine. -/
class NumberFormat where
  write : Rat → JsString
  read : JsString → Option JsNumber
  read_write : ∀ value, read (write value) = some (.finite value)
  write_units : ∀ value, ∀ unit ∈ write value, numberUnit unit = true
  write_nonempty : ∀ value, write value ≠ []
  write_zero : write 0 = js "0"

section Strings

def hexUnit (digit : Nat) : UInt16 := (if digit < 10 then 48 + digit else 87 + digit).toUInt16

/-- One code unit inside a string literal. Lone surrogates, which would be
written as `\udXXX`, never reach it: the callers refuse them first. -/
def escapeUnit (unit : UInt16) : JsString :=
  if unit = quoteMark then [backslash, quoteMark]
  else if unit = backslash then [backslash, backslash]
  else if unit = 8 then [backslash, 98]
  else if unit = 9 then [backslash, 116]
  else if unit = 10 then [backslash, 110]
  else if unit = 12 then [backslash, 102]
  else if unit = 13 then [backslash, 114]
  else if unit < 0x20 then
    [backslash, 117, 48, 48, hexUnit (unit.toNat / 16), hexUnit (unit.toNat % 16)]
  else [unit]

def quote (text : JsString) : JsString := quoteMark :: (text.flatMap escapeUnit ++ [quoteMark])

def hexDigit (unit : UInt16) : Option Nat :=
  if 48 ≤ unit && unit ≤ 57 then some (unit.toNat - 48)
  else if 97 ≤ unit && unit ≤ 102 then some (unit.toNat - 87)
  else if 65 ≤ unit && unit ≤ 70 then some (unit.toNat - 55)
  else none

def hexFour (first second third fourth : UInt16) : Option UInt16 := do
  let a ← hexDigit first
  let b ← hexDigit second
  let c ← hexDigit third
  let d ← hexDigit fourth
  return (((a * 16 + b) * 16 + c) * 16 + d).toUInt16

def simpleEscape (kind : UInt16) : Option UInt16 :=
  if kind = quoteMark then some quoteMark
  else if kind = backslash then some backslash
  else if kind = 47 then some 47
  else if kind = 98 then some 8
  else if kind = 102 then some 12
  else if kind = 110 then some 10
  else if kind = 114 then some 13
  else if kind = 116 then some 9
  else none

def readString : JsString → Option (JsString × JsString)
  | [] => none
  | unit :: rest =>
      if unit = quoteMark then some ([], rest)
      else if unit = backslash then
        match rest with
        | 117 :: first :: second :: third :: fourth :: tail =>
            (hexFour first second third fourth).bind fun found =>
              (readString tail).map (fun later => (found :: later.1, later.2))
        | kind :: tail =>
            (simpleEscape kind).bind fun found =>
              (readString tail).map (fun later => (found :: later.1, later.2))
        | [] => none
      else if unit < 0x20 then none
      else (readString rest).map (fun later => (unit :: later.1, later.2))

end Strings

def jsonSpace (unit : UInt16) : Bool := unit == 0x20 || unit == 9 || unit == 10 || unit == 13

def skipSpace (text : JsString) : JsString := text.dropWhile jsonSpace

section Reading

variable {Item : Type}

def readItems (item : JsString → Option (Item × JsString)) (close : UInt16) :
    Nat → JsString → Option (List Item × JsString)
  | 0, _ => none
  | fuel + 1, text =>
      (item text).bind fun found =>
        match skipSpace found.2 with
        | [] => none
        | unit :: rest =>
            if unit = comma then
              (readItems item close fuel rest).map (fun later => (found.1 :: later.1, later.2))
            else if unit = close then some ([found.1], rest)
            else none

def readSequence (item : JsString → Option (Item × JsString)) (close : UInt16)
    (text : JsString) : Option (List Item × JsString) :=
  match skipSpace text with
  | [] => none
  | unit :: rest =>
      if unit = close then some ([], rest)
      else readItems item close (unit :: rest).length (unit :: rest)

def readMember (value : JsString → Option (JsValue × JsString)) (text : JsString) :
    Option ((JsString × JsValue) × JsString) :=
  match skipSpace text with
  | [] => none
  | unit :: rest =>
      if unit = quoteMark then
        (readString rest).bind fun name =>
          match skipSpace name.2 with
          | [] => none
          | mark :: tail =>
              if mark = colon then (value tail).map (fun found => ((name.1, found.1), found.2))
              else none
      else none

def readWord (word : JsString) (value : JsValue) (text : JsString) : Option (JsValue × JsString) :=
  if word.isPrefixOf text then some (value, text.drop word.length) else none

variable [NumberFormat]

def readNumber (text : JsString) : Option (JsValue × JsString) :=
  (NumberFormat.read (text.takeWhile numberUnit)).map
    (fun found => (.num found, text.dropWhile numberUnit))

/-- A repeated member name keeps its place and takes the last value. -/
def parseValue : Nat → JsString → Option (JsValue × JsString)
  | 0, _ => none
  | fuel + 1, text =>
      match skipSpace text with
      | [] => none
      | unit :: rest =>
          if unit = quoteMark then (readString rest).map (fun found => (.str found.1, found.2))
          else if unit = openBracket then
            (readSequence (parseValue fuel) closeBracket rest).map
              (fun found => (.arr found.1, found.2))
          else if unit = openBrace then
            (readSequence (readMember (parseValue fuel)) closeBrace rest).map (fun found =>
              (.obj .object (found.1.foldl (fun fields member => writeEntry member.1 member.2 fields) []),
                found.2))
          else if unit = 110 then readWord (js "null") .null (unit :: rest)
          else if unit = 116 then readWord (js "true") (.bool true) (unit :: rest)
          else if unit = 102 then readWord (js "false") (.bool false) (unit :: rest)
          else readNumber (unit :: rest)

def parse (text : JsString) : Option JsValue :=
  (parseValue (text.length + 1) text).bind fun found =>
    if skipSpace found.2 = [] then some found.1 else none

end Reading

section Writing

variable [NumberFormat]

def JsNumber.serialize : JsNumber → JsString
  | .finite value => NumberFormat.write value
  | .negativeZero => js "0"
  | .nan | .infinite _ => js "null"

def writeMember (entry : JsString × JsString) : JsString := quote entry.1 ++ colon :: entry.2

mutual

def serialize : JsValue → JsString
  | .null => js "null"
  | .bool value => if value then js "true" else js "false"
  | .num value => JsNumber.serialize value
  | .str text => quote text
  | .arr items => openBracket :: (join [comma] (serializeItems items) ++ [closeBracket])
  | .obj _ fields =>
      openBrace ::
        (join [comma] ((sortFields (serializeFields fields)).map writeMember) ++ [closeBrace])
termination_by structural value => value

def serializeItems : List JsValue → List JsString
  | [] => []
  | item :: rest => serialize item :: serializeItems rest
termination_by structural items => items

def serializeFields : List (JsString × JsValue) → List (JsString × JsString)
  | [] => []
  | (name, value) :: rest => (name, serialize value) :: serializeFields rest
termination_by structural fields => fields

end

end Writing

end Horseness.JsonText
