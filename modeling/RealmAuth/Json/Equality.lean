import RealmAuth.Json.Basic

namespace RealmAuth
namespace Json

/-!
Whether two data values are one and the same.  Unlike `Json.same`, which follows
the numbers behind values, this tells `1` from `1.0` and one order of fields from
another, and nothing equals a value but itself.
-/

mutual

def equal : Json → Json → Bool
  | null, null => true
  | bool a, bool b => a == b
  | int a, int b => a == b
  | double a, double b => decide (a = b)
  | string a, string b => a == b
  | array as, array bs => equalItems as bs
  | object as, object bs => equalFields as bs
  | _, _ => false

def equalItems : List Json → List Json → Bool
  | [], [] => true
  | a :: as, b :: bs => equal a b && equalItems as bs
  | _, _ => false

def equalFields : List (Text × Json) → List (Text × Json) → Bool
  | [], [] => true
  | (name, a) :: as, (other, b) :: bs => name == other && equal a b && equalFields as bs
  | _, _ => false

end

mutual

theorem equal_iff (a b : Json) : equal a b = true ↔ a = b := by
  cases a with
  | array as => cases b <;> simp [equal, equalItems_iff as]
  | object as => cases b <;> simp [equal, equalFields_iff as]
  | _ => cases b <;> simp [equal]

theorem equalItems_iff (as bs : List Json) : equalItems as bs = true ↔ as = bs := by
  cases as with
  | nil => cases bs <;> simp [equalItems]
  | cons a as => cases bs <;> simp [equalItems, equal_iff a, equalItems_iff as]

theorem equalFields_iff (as bs : List (Text × Json)) : equalFields as bs = true ↔ as = bs := by
  cases as with
  | nil => cases bs <;> simp [equalFields]
  | cons field as =>
      rcases field with ⟨name, a⟩
      cases bs <;> simp [equalFields, equal_iff a, equalFields_iff as, Prod.ext_iff]

end

instance : DecidableEq Json := fun a b => decidable_of_iff (equal a b = true) (equal_iff a b)

end Json
end RealmAuth
