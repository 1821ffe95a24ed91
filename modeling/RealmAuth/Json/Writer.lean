import RealmAuth.Json.Basic
import RealmAuth.Number.Shortest

namespace RealmAuth
namespace Json

/-!
Writing a data value as text of ASCII characters alone: every other character
is written as its one or two UTF-16 units.
-/

/-- The lower case hexadecimal digits of a number, padded with zeros to a width. -/
def hexDigits (width n : Nat) : List Char :=
  Double.padZeros width (Nat.toDigits 16 n)

def escapeUnit (n : Nat) : List Char :=
  '\x5c' :: 'u' :: hexDigits 4 n

def writeChar (c : Char) : List Char :=
  let n := c.toNat
  if c = '\x22' ∨ c = '\x5c' then ['\x5c', c]
  else if 0x20 ≤ n ∧ n < 0x7F then [c]
  else if n < 0x10000 then escapeUnit n
  else escapeUnit (0xD800 + (n - 0x10000) / 1024) ++ escapeUnit (0xDC00 + (n - 0x10000) % 1024)

def writePoint : CodePoint → List Char
  | .char c => writeChar c
  | .half half => escapeUnit half.number

def writeString (text : Text) : String :=
  String.ofList ('\x22' :: (text.points.flatMap writePoint ++ ['\x22']))

mutual

def write : Json → String
  | null => "null"
  | bool value => if value then "true" else "false"
  | int value => toString value
  | double value => value.text Double.claimLayout
  | string value => writeString value
  | array items => "[" ++ ",".intercalate (writeItems items) ++ "]"
  | object fields => "\x7b" ++ ",".intercalate (writeFields fields) ++ "\x7d"

def writeItems : List Json → List String
  | [] => []
  | item :: items => write item :: writeItems items

def writeFields : List (Text × Json) → List String
  | [] => []
  | (name, value) :: fields => (writeString name ++ ":" ++ write value) :: writeFields fields

end

end Json
end RealmAuth
