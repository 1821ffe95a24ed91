import RealmAuth.Platform
import RealmAuth.Text.Blank
import RealmAuth.Text.Digit

namespace RealmAuth
namespace Numeral

/-!
Integers written as text: white space around, an optional sign, then decimal
digits of any script, single underscores allowed between two digits, and no more
digits than the platform admits.
-/

def ofDigits (digits : List Nat) : Nat :=
  digits.foldl (fun value digit => 10 * value + digit) 0

/-- Digit values after a digit: further digits, each perhaps behind one underscore. -/
def digitsAfter? : List Char → Option (List Nat)
  | [] => some []
  | '_' :: c :: rest => do
      let digit ← Text.digitValue? c
      let digits ← digitsAfter? rest
      return digit :: digits
  | c :: rest => do
      let digit ← Text.digitValue? c
      let digits ← digitsAfter? rest
      return digit :: digits

def digits? : List Char → Option (List Nat)
  | [] => none
  | c :: rest => do
      let digit ← Text.digitValue? c
      let digits ← digitsAfter? rest
      return digit :: digits

section

variable [Platform]

def unsigned? (cs : List Char) : Option Nat :=
  ((digits? cs).filter fun digits => Platform.admits digits.length).map ofDigits

def read? (cs : List Char) : Option Int :=
  match Text.trimEnd Text.isWhiteSpace (Text.trimStart Text.isWhiteSpace cs) with
  | '+' :: rest => (unsigned? rest).map fun n => (n : Int)
  | '-' :: rest => (unsigned? rest).map fun n => -(n : Int)
  | rest => (unsigned? rest).map fun n => (n : Int)

end

end Numeral
end RealmAuth
