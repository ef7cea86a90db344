import Horseness.JsonRoundTrip

/-!
The script engine as the domain code uses it. What its standard library computes
from large tables (digests, collation, calendars, normal forms) is a parameter;
encodings of bytes are written out.
-/

namespace Horseness.ScriptEngine

open ScriptText JsonText

/-- `createHash("sha256")` in hexadecimal over the UTF-8 bytes of a text,
`localeCompare`, `Date.parse` (nothing for `NaN`), `toISOString` and
`normalize("NFC")`. -/
class Engine extends NumberFormat where
  sha256Hex : JsString → JsString
  localeCompare : JsString → JsString → Int
  dateParse : JsString → Option Int
  toISOString : Int → JsString
  normalizeNFC : JsString → JsString

def utf8 : JsString → List Nat
  | [] => []
  | unit :: rest =>
      if unit < 0x80 then unit.toNat :: utf8 rest
      else if unit < 0x800 then
        (0xC0 + unit.toNat / 64) :: (0x80 + unit.toNat % 64) :: utf8 rest
      else if highSurrogate unit then
        match rest with
        | [] => [0xEF, 0xBF, 0xBD]
        | next :: tail =>
            if lowSurrogate next then
              let point := 0x10000 + (unit.toNat - 0xD800) * 0x400 + (next.toNat - 0xDC00)
              (0xF0 + point / 262144) :: (0x80 + point / 4096 % 64) ::
                (0x80 + point / 64 % 64) :: (0x80 + point % 64) :: utf8 tail
            else 0xEF :: 0xBF :: 0xBD :: utf8 (next :: tail)
      else if lowSurrogate unit then 0xEF :: 0xBF :: 0xBD :: utf8 rest
      else
        (0xE0 + unit.toNat / 4096) :: (0x80 + unit.toNat / 64 % 64) ::
          (0x80 + unit.toNat % 64) :: utf8 rest

def byteLength (text : JsString) : Nat := (utf8 text).length

def base64Unit (sextet : Nat) : UInt16 :=
  (if sextet < 26 then 65 + sextet
  else if sextet < 52 then 71 + sextet
  else if sextet < 62 then sextet - 4
  else if sextet = 62 then 43
  else 47).toUInt16

def base64 : List Nat → JsString
  | first :: second :: third :: rest =>
      base64Unit (first / 4) :: base64Unit (first % 4 * 16 + second / 16) ::
        base64Unit (second % 16 * 4 + third / 64) :: base64Unit (third % 64) :: base64 rest
  | [first, second] =>
      [base64Unit (first / 4), base64Unit (first % 4 * 16 + second / 16),
        base64Unit (second % 16 * 4), 61]
  | [first] => [base64Unit (first / 4), base64Unit (first % 4 * 16), 61, 61]
  | [] => []

/-- `Buffer.from(text, "hex")`: pairs up to the first that is not hexadecimal. -/
def hexBytes : JsString → List Nat
  | high :: low :: rest =>
      match hexDigit high, hexDigit low with
      | some first, some second => (first * 16 + second) :: hexBytes rest
      | _, _ => []
  | _ => []

/-- `text.replace(pattern, replacement)` for a string pattern: the first occurrence. -/
def replaceFirst (pattern replacement : JsString) : JsString → JsString
  | [] => if pattern = [] then replacement else []
  | unit :: rest =>
      if pattern.isPrefixOf (unit :: rest) then
        replacement ++ (unit :: rest).drop pattern.length
      else unit :: replaceFirst pattern replacement rest

def timestampShape (text : JsString) : Bool :=
  let digits (part : JsString) : Bool := part.all digitUnit
  let seconds := digits (text.take 4) && (text.drop 4).head? == some 45 &&
    digits ((text.drop 5).take 2) && (text.drop 7).head? == some 45 &&
    digits ((text.drop 8).take 2) && (text.drop 10).head? == some 84 &&
    digits ((text.drop 11).take 2) && (text.drop 13).head? == some 58 &&
    digits ((text.drop 14).take 2) && (text.drop 16).head? == some 58 &&
    digits ((text.drop 17).take 2)
  seconds && (text.length == 20 && (text.drop 19).head? == some 90 ||
    text.length == 24 && (text.drop 19).head? == some 46 && digits ((text.drop 20).take 3) &&
      (text.drop 23).head? == some 90)

/-- A timestamp in the one spelling that parsing and printing keep, with or
without zero milliseconds. -/
def canonicalTimestamp [Engine] (text : JsString) : Bool :=
  timestampShape text &&
    match Engine.dateParse text with
    | none => false
    | some time =>
        let iso := Engine.toISOString time
        text == iso || text == replaceFirst (js ".000Z") (js "Z") iso

end Horseness.ScriptEngine
