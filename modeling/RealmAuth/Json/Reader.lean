import RealmAuth.Json.Basic
import RealmAuth.Number.Numeral
import RealmAuth.Platform
import RealmAuth.Text.Encoding

namespace RealmAuth
namespace Json
namespace Reader

/-!
Reading a data value from its text.

The grammar is the usual one, with three words more: `NaN`, `Infinity` and
`-Infinity` are doubles.  A number with a fraction or an exponent is a double
and every other number an integer, of any size unless the platform bounds its
digits.  A field that is given twice keeps its first place and its last value.
Every reading step returns what is left of the text; the count that bounds the
steps is the length of the text, of which each step takes at least one character.
-/

def isSpace : CodePoint → Bool
  | .char c => c == ' ' || c == '\t' || c == '\n' || c == '\r'
  | .half _ => false

def skip (points : List CodePoint) : List CodePoint :=
  points.dropWhile isSpace

def quoteMark : Char := '\x22'

def escapeMark : Char := '\x5c'

def hexValue? : CodePoint → Option Nat
  | .char c =>
      let n := c.toNat
      if 48 ≤ n ∧ n ≤ 57 then some (n - 48)
      else if 65 ≤ n ∧ n ≤ 70 then some (n - 55)
      else if 97 ≤ n ∧ n ≤ 102 then some (n - 87)
      else none
  | .half _ => none

def hexUnit? : List CodePoint → Option (Nat × List CodePoint)
  | a :: b :: c :: d :: rest => do
      let a ← hexValue? a
      let b ← hexValue? b
      let c ← hexValue? c
      let d ← hexValue? d
      return (((a * 16 + b) * 16 + c) * 16 + d, rest)
  | _ => none

/-- The number of a numbered escape, if a text starts with one. -/
def escaped? : List CodePoint → Option (Nat × List CodePoint)
  | .char mark :: .char 'u' :: rest => if mark = escapeMark then hexUnit? rest else none
  | _ => none

/--
The code point of a numbered escape.  Two escapes make one character where their numbers
are the halves of a pair; half of a pair stands alone otherwise.
-/
def numbered? (points : List CodePoint) : Option (CodePoint × List CodePoint) := do
  let (unit, rest) ← hexUnit? points
  let pair := (escaped? rest).bind fun next => (Text.paired? unit next.1).map (·, next.2)
  let (number, rest) := pair.getD (unit, rest)
  (Text.point? number).map (·, rest)

/-- The character that a single letter after the escape mark stands for. -/
def shortEscape? (c : Char) : Option Char :=
  if c = quoteMark ∨ c = escapeMark ∨ c = '/' then some c
  else if c = 'b' then some '\x08'
  else if c = 'f' then some '\x0c'
  else if c = 'n' then some '\n'
  else if c = 'r' then some '\r'
  else if c = 't' then some '\t'
  else none

/-- The next code point of a string, or its end. -/
def piece? : List CodePoint → Option (Option CodePoint × List CodePoint)
  | [] => none
  | .half half :: rest => some (some (.half half), rest)
  | .char c :: rest =>
      if c = quoteMark then some (none, rest)
      else if c = escapeMark then
        match rest with
        | .char 'u' :: rest => (numbered? rest).map fun found => (some found.1, found.2)
        | .char e :: rest => (shortEscape? e).map fun found => (some (.char found), rest)
        | _ => none
      else if c.toNat < 0x20 then none
      else some (some (.char c), rest)

def stringRest? : Nat → List CodePoint → List CodePoint → Option (Text × List CodePoint)
  | 0, _, _ => none
  | steps + 1, seen, points =>
      match piece? points with
      | none => none
      | some (none, rest) => some (Text.ofPoints seen.reverse, rest)
      | some (some point, rest) => stringRest? steps (point :: seen) rest

def digit? : CodePoint → Option Nat
  | .char c => if 48 ≤ c.toNat ∧ c.toNat ≤ 57 then some (c.toNat - 48) else none
  | .half _ => none

/-- The digits at the start of a text, and what is left of it. -/
def digits : List CodePoint → List Nat × List CodePoint
  | [] => ([], [])
  | point :: rest =>
      match digit? point with
      | some digit =>
          let found := digits rest
          (digit :: found.1, found.2)
      | none => ([], point :: rest)

/-- The digits before the point: one zero, or a run that does not start with one. -/
def wholeDigits? : List CodePoint → Option (List Nat × List CodePoint)
  | .char '0' :: rest => some ([0], rest)
  | points =>
      let found := digits points
      if found.1.isEmpty then none else some found

/-- The digits after a point; without a digit the point is not part of the number. -/
def fraction : List CodePoint → List Nat × List CodePoint
  | .char '.' :: rest =>
      let found := digits rest
      if found.1.isEmpty then ([], .char '.' :: rest) else found
  | points => ([], points)

/-- The sign of an exponent, and what is left of the text. -/
def exponentSign : List CodePoint → Bool × List CodePoint
  | .char '-' :: rest => (true, rest)
  | .char '+' :: rest => (false, rest)
  | points => (false, points)

/-- An exponent; without a digit its mark is not part of the number. -/
def exponent : List CodePoint → Option Int × List CodePoint
  | .char mark :: rest =>
      if mark = 'e' ∨ mark = 'E' then
        let (negative, signed) := exponentSign rest
        let found := digits signed
        if found.1.isEmpty then (none, .char mark :: rest)
        else
          let size : Int := Numeral.ofDigits found.1
          (some (if negative then -size else size), found.2)
      else (none, .char mark :: rest)
  | points => (none, points)

section

variable [Platform]

/-- A number behind its sign; an integer has no more digits than the platform admits. -/
def unsigned? (negative : Bool) (points : List CodePoint) : Option (Json × List CodePoint) := do
  let (whole, rest) ← wholeDigits? points
  let (tail, rest) := fraction rest
  let (power, rest) := exponent rest
  if tail.isEmpty ∧ power = none then
    let size : Int := Numeral.ofDigits whole
    if Platform.admits whole.length then return (.int (if negative then -size else size), rest)
    else none
  else
    let scale : Int := power.getD 0 - tail.length
    return (.double (Double.ofDecimal negative (Numeral.ofDigits (whole ++ tail)) scale), rest)

def afterWord? (word : String) (points : List CodePoint) : Option (List CodePoint) :=
  if (word.toList.map CodePoint.char).isPrefixOf points then some (points.drop word.length)
  else none

def words : List (String × Json) :=
  [("null", .null), ("true", .bool true), ("false", .bool false),
    ("NaN", .double .nan), ("Infinity", .double (.infinite false)),
    ("-Infinity", .double (.infinite true))]

def plain? (points : List CodePoint) : Option (Json × List CodePoint) :=
  match words.findSome? fun entry => (afterWord? entry.1 points).map (entry.2, ·) with
  | some found => some found
  | none =>
      match points with
      | .char '-' :: rest => unsigned? true rest
      | points => unsigned? false points

mutual

def value? : Nat → List CodePoint → Option (Json × List CodePoint)
  | 0, _ => none
  | steps + 1, points =>
      match points with
      | .char '[' :: rest =>
          match skip rest with
          | .char ']' :: rest => some (.array [], rest)
          | rest => items? steps [] rest
      | .char '\x7b' :: rest =>
          match skip rest with
          | .char '\x7d' :: rest => some (.object [], rest)
          | rest => fields? steps [] rest
      | .char '\x22' :: rest =>
          (stringRest? (rest.length + 1) [] rest).map fun found => (.string found.1, found.2)
      | points => plain? points

/-- The items of an array, up to its end; `seen` holds the earlier ones in reverse. -/
def items? : Nat → List Json → List CodePoint → Option (Json × List CodePoint)
  | 0, _, _ => none
  | steps + 1, seen, points =>
      match value? steps points with
      | none => none
      | some (item, rest) =>
          match skip rest with
          | .char ',' :: rest => items? steps (item :: seen) (skip rest)
          | .char ']' :: rest => some (.array (item :: seen).reverse, rest)
          | _ => none

/-- The fields of an object, up to its end; `seen` holds the earlier ones. -/
def fields? : Nat → Fields → List CodePoint → Option (Json × List CodePoint)
  | 0, _, _ => none
  | steps + 1, seen, points =>
      match points with
      | .char '\x22' :: rest =>
          match stringRest? (rest.length + 1) [] rest with
          | none => none
          | some (name, rest) =>
              match skip rest with
              | .char ':' :: rest =>
                  match value? steps (skip rest) with
                  | none => none
                  | some (value, rest) =>
                      match skip rest with
                      | .char ',' :: rest => fields? steps (seen.put name value) (skip rest)
                      | .char '\x7d' :: rest => some (.object (seen.put name value), rest)
                      | _ => none
              | _ => none
      | _ => none

end

end

end Reader

variable [Platform]

/-- The value that a text writes, if it writes one and nothing else. -/
def read? (points : List CodePoint) : Option Json :=
  match Reader.value? (points.length + 1) (Reader.skip points) with
  | some (value, rest) => if (Reader.skip rest).isEmpty then some value else none
  | none => none

/-- The value written by octets in any of the Unicode forms. -/
def readOctets? (octets : List UInt8) : Option Json :=
  (Text.Encoding.decodeAny octets).bind read?

end Json
end RealmAuth
