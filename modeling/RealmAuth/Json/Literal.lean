import RealmAuth.Json.Writer
import RealmAuth.Text.Printable

namespace RealmAuth
namespace Json

/-!
Values as they are shown inside messages.  A text is shown between quotes, with
everything escaped that is not printable; the single quote is taken unless the
text holds a single quote and no double one.  Half of a pair is not printable.
-/

def literalQuote (points : List CodePoint) : Char :=
  if points.contains (.char '\x27') ∧ ¬ points.contains (.char '\x22') then '\x22' else '\x27'

/-- A character of a text that is shown between `quote` marks. -/
def literalChar (quote c : Char) : List Char :=
  let n := c.toNat
  if c = quote ∨ c = '\x5c' then ['\x5c', c]
  else if c = '\n' then ['\x5c', 'n']
  else if c = '\r' then ['\x5c', 'r']
  else if c = '\t' then ['\x5c', 't']
  else if Text.isPrintable c then [c]
  else if n < 0x100 then '\x5c' :: 'x' :: hexDigits 2 n
  else if n < 0x10000 then '\x5c' :: 'u' :: hexDigits 4 n
  else '\x5c' :: 'U' :: hexDigits 8 n

def literalPoint (quote : Char) : CodePoint → List Char
  | .char c => literalChar quote c
  | .half half => escapeUnit half.number

def literalString (text : Text) : String :=
  let quote := literalQuote text.points
  String.ofList (quote :: (text.points.flatMap (literalPoint quote) ++ [quote]))

mutual

def literal : Json → String
  | null => "None"
  | bool value => if value then "True" else "False"
  | int value => toString value
  | double value => value.text Double.claimLayout
  | string value => literalString value
  | array items => "[" ++ ", ".intercalate (literalItems items) ++ "]"
  | object fields => "\x7b" ++ ", ".intercalate (literalFields fields) ++ "\x7d"

def literalItems : List Json → List String
  | [] => []
  | item :: items => literal item :: literalItems items

def literalFields : List (Text × Json) → List String
  | [] => []
  | (name, value) :: fields =>
      (literalString name ++ ": " ++ literal value) :: literalFields fields

end

/-- A value as plain text: a text stands for itself, other values for their literals. -/
def display : Json → Text
  | string value => value
  | value => .plain value.literal

end Json
end RealmAuth
