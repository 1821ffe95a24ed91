import RealmAuth.Json.Literal
import RealmAuth.Text.Blank

namespace RealmAuth

/-!
Role values.  An application reads the role names of a token as values of its own,
which it compares and writes as it likes.  A value that is a text stands for a role
name wherever a role is asked for, and is then read again.
-/

/-- What the library needs to know of an application's role values. -/
class RoleValue (R : Type) where
  /-- Equality of roles. -/
  same : R → R → Bool
  /-- The text of a role. -/
  text : R → Text
  /-- The role name that a textual value is. -/
  name? : R → Option Text

/-- A role value: data compared as such, or a name compared without regard to ASCII case. -/
inductive AppRole where
  | data (value : Json)
  | caseless (name : Text)

namespace AppRole

/-- Equality of role values; data and caseless names are never equal. -/
def same : AppRole → AppRole → Bool
  | data a, data b => a.same b
  | caseless a, caseless b => a.mapChars Text.lowerAscii == b.mapChars Text.lowerAscii
  | _, _ => false

def text : AppRole → Text
  | data value => value.display
  | caseless name => name

def name? : AppRole → Option Text
  | data (.string name) => some name
  | _ => none

instance : RoleValue AppRole where
  same := same
  text := text
  name? := name?

end AppRole

instance : RoleValue Text where
  same := (· == ·)
  text := id
  name? := some

/--
Role values among which there are those that an application may configure.  Such a value
is given as data; it is a role name where the data is a text, and shows as the data does.
-/
class ConfiguredRole (R : Type) extends RoleValue R where
  ofData : Json → R
  name?_ofData : ∀ value, name? (ofData value) = value.text?
  text_ofData : ∀ value, text (ofData value) = value.display

instance : ConfiguredRole AppRole where
  ofData := .data
  name?_ofData value := by cases value <;> rfl
  text_ofData _ := rfl

end RealmAuth
