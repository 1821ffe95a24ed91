import RealmAuth.Json.Basic
import RealmAuth.Octets

namespace RealmAuth

/-!
What this library leaves to the ones that it stands on.  How long an integer may be
is for the reader of numbers to say, and a fault that another library finds is told
in the words of that library, which messages repeat.
-/

/-- Something that a library underneath finds fault with. -/
inductive Foreign where
  /-- Octets that write no data value. -/
  | octets (octets : Octets)
  /-- A text that no octets write, since half of a pair stands alone in it. -/
  | text (text : Text)
  /-- A key document that is locked, or does not have the form of a key. -/
  | document (text : List Char)
  /-- A key entry, or a part of one, that makes no key. -/
  | entry (value : Json)
  /-- A value whose items are asked for, but which has none. -/
  | items (value : Json)
  /-- A leeway that is no number. -/
  | leeway
  /-- A key that has no room for the digests of its algorithm. -/
  | room

/-- The libraries underneath. -/
class Platform where
  /-- The most digits that an integer may have, if there is a bound. -/
  digitLimit : Option Nat
  /-- What is said of a fault. -/
  words : Foreign → String
  /-- The kinds of keys that a family of algorithms takes. -/
  kinds : String → String
  /-- What a report shows of an input beside a fault, given by its place and its code. -/
  excerpt : Json → List String → String → String
  /-- What a report adds about a fault of some code. -/
  hint : String → String

/-- Whether an integer may have so many digits. -/
def Platform.admits [Platform] (digits : Nat) : Bool :=
  match digitLimit with
  | some most => digits ≤ most
  | none => true

end RealmAuth
