import RealmAuth.Number.Double
import RealmAuth.Text.Basic

namespace RealmAuth

/-!
Data values.  Integers and doubles are kept apart, and the fields of an object
keep their order; an object built by `put` names each field once.
-/

/-- A data value. -/
inductive Json where
  | null
  | bool (value : Bool)
  | int (value : Int)
  | double (value : Double)
  | string (value : Text)
  | array (items : List Json)
  | object (fields : List (Text × Json))

namespace Json

/-- The fields of an object. -/
abbrev Fields := List (Text × Json)

namespace Fields

def get? (fields : Fields) (name : Text) : Option Json :=
  List.lookup name fields

def has (fields : Fields) (name : Text) : Bool :=
  (fields.get? name).isSome

/-- A field set to a value: in its old place if it was there, else at the end. -/
def put : Fields → Text → Json → Fields
  | [], name, value => [(name, value)]
  | (other, old) :: rest, name, value =>
      if other = name then (other, value) :: rest else (other, old) :: put rest name value

def names (fields : Fields) : List Text :=
  fields.map Prod.fst

theorem names_put (fields : Fields) (name : Text) (value : Json) :
    (fields.put name value).names =
      if name ∈ fields.names then fields.names else fields.names ++ [name] := by
  induction fields with
  | nil => simp [put, names]
  | cons field rest ih =>
      rcases field with ⟨other, old⟩
      by_cases same : other = name
      · simp [put, names, same]
      · have different : ¬ name = other := fun h => same h.symm
        simp only [names] at ih
        simp only [put, same, if_false, names, List.map_cons, List.mem_cons, different,
          false_or, ih]
        by_cases present : name ∈ List.map Prod.fst rest <;> simp [present]

/-- Setting a field twice leaves one field of that name. -/
theorem nodup_names_put {fields : Fields} (h : fields.names.Nodup) (name : Text)
    (value : Json) : (fields.put name value).names.Nodup := by
  rw [names_put]
  split
  · exact h
  · rename_i absent
    rw [List.nodup_append]
    refine ⟨h, by simp, ?_⟩
    intro a ha b hb
    simp only [List.mem_singleton] at hb
    subst hb
    exact fun same => absent (same ▸ ha)

end Fields

/--
Whether a value counts as given.  Empty texts and containers, zeros, `false` and
`null` do not.
-/
def truthy : Json → Bool
  | null => false
  | bool value => value
  | int value => value != 0
  | double value => !value.isZero
  | string value => !value.isEmpty
  | array items => !items.isEmpty
  | object fields => !fields.isEmpty

/--
The items that a value offers one after the other: those of an array, the
code points of a text, the names of an object's fields.  Other values offer none
at all, not even an empty list.
-/
def items? : Json → Option (List Json)
  | array items => some items
  | string value => some (value.singles.map string)
  | object fields => some (fields.map fun field => string field.1)
  | _ => none

def text? : Json → Option Text
  | string value => some value
  | _ => none

def sameNumber : Int ⊕ Double → Json → Bool
  | .inl a, bool b => a == if b then 1 else 0
  | .inl a, int b => a == b
  | .inl a, double b => b.sameInt a
  | .inr a, bool b => a.sameInt (if b then 1 else 0)
  | .inr a, int b => a.sameInt b
  | .inr a, double b => a.same b
  | _, _ => false

mutual

/--
Equality of values.  Numbers and truth values compare by their number, arrays
item by item, objects field by field in any order.
-/
def same : Json → Json → Bool
  | null, null => true
  | bool a, b => sameNumber (.inl (if a then 1 else 0)) b
  | int a, b => sameNumber (.inl a) b
  | double a, b => sameNumber (.inr a) b
  | string a, string b => a == b
  | array as, array bs => sameItems as bs
  | object as, object bs => as.length == bs.length && sameFields as bs
  | _, _ => false

def sameItems : List Json → List Json → Bool
  | [], [] => true
  | a :: as, b :: bs => same a b && sameItems as bs
  | _, _ => false

/-- Whether every field of the first object has an equal one in the second. -/
def sameFields : List (Text × Json) → List (Text × Json) → Bool
  | [], _ => true
  | (name, a) :: as, bs =>
      (match List.lookup name bs with
        | some b => same a b
        | none => false) && sameFields as bs

end

mutual

/-- Whether a value can be written as octets: no half of a pair stands alone in a text of it. -/
def isWhole : Json → Bool
  | string value => value.isWhole
  | array items => areWhole items
  | object fields => fieldsWhole fields
  | _ => true

def areWhole : List Json → Bool
  | [] => true
  | item :: items => isWhole item && areWhole items

/-- Whether the names and the values of some fields can be written. -/
def fieldsWhole : List (Text × Json) → Bool
  | [] => true
  | (name, value) :: fields => name.isWhole && isWhole value && fieldsWhole fields

end

end Json
end RealmAuth
