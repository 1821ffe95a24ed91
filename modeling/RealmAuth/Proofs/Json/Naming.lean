import RealmAuth.Json.Reader

namespace RealmAuth
namespace Json

/-!
Values that are read from text.  A text may name a field of an object twice, and the
object that is read has it once: the later value stands in the earlier place.  So in a
value that was read every object, however deep inside, names each of its fields once.
-/

/-- Every object of a value, the value itself included, names each field once. -/
inductive NamesOnce : Json → Prop where
  | null : NamesOnce .null
  | bool (value : Bool) : NamesOnce (.bool value)
  | int (value : Int) : NamesOnce (.int value)
  | double (value : Double) : NamesOnce (.double value)
  | string (value : Text) : NamesOnce (.string value)
  | array {items : List Json} (each : ∀ item ∈ items, NamesOnce item) : NamesOnce (.array items)
  | object {fields : Fields} (distinct : fields.names.Nodup)
      (each : ∀ field ∈ fields, NamesOnce field.2) : NamesOnce (.object fields)

theorem NamesOnce.emptyArray : NamesOnce (.array []) :=
  .array fun _ member => absurd member List.not_mem_nil

theorem NamesOnce.emptyObject : NamesOnce (.object []) :=
  .object List.nodup_nil fun _ member => absurd member List.not_mem_nil

theorem NamesOnce.distinct {fields : Fields} (once : NamesOnce (.object fields)) :
    fields.names.Nodup := by
  cases once with
  | object distinct _ => exact distinct

theorem NamesOnce.of_get? {fields : Fields} {name : Text} {value : Json}
    (once : NamesOnce (.object fields)) (found : fields.get? name = some value) :
    NamesOnce value := by
  rcases List.lookup_eq_some_iff.1 found with ⟨before, after, split, _⟩
  cases once with
  | object _ each => exact each (name, value) (by simp [split])

theorem mem_put {fields : Fields} {name : Text} {value : Json} {field : Text × Json}
    (member : field ∈ fields.put name value) : field ∈ fields ∨ field.2 = value := by
  induction fields with
  | nil =>
      rw [Fields.put, List.mem_singleton] at member
      exact Or.inr (congrArg Prod.snd member)
  | cons first fields ih =>
      rcases first with ⟨other, old⟩
      rw [Fields.put] at member
      split at member
      · rcases List.mem_cons.1 member with here | later
        · exact Or.inr (congrArg Prod.snd here)
        · exact Or.inl (.tail _ later)
      · rcases List.mem_cons.1 member with here | later
        · exact Or.inl (here ▸ List.mem_cons_self)
        · exact (ih later).imp_left (.tail _)

/-- Fields that name each other field once still do when one is set. -/
theorem NamesOnce.put {fields : Fields} {value : Json} (objects : NamesOnce (.object fields))
    (once : NamesOnce value) (name : Text) : NamesOnce (.object (fields.put name value)) := by
  cases objects with
  | object distinct each =>
      refine .object (Fields.nodup_names_put distinct name value) ?_
      intro field member
      rcases mem_put member with earlier | same
      · exact each field earlier
      · exact same ▸ once

namespace Reader

theorem namesOnce_words {entry : String × Json} (member : entry ∈ words) : NamesOnce entry.2 := by
  simp only [words, List.mem_cons, List.not_mem_nil, or_false] at member
  rcases member with rfl | rfl | rfl | rfl | rfl | rfl <;> constructor

section

variable [Platform]

theorem namesOnce_unsigned? {negative : Bool} {points rest : List CodePoint} {value : Json}
    (read : unsigned? negative points = some (value, rest)) : NamesOnce value := by
  rw [unsigned?, Option.bind_eq_bind, Option.bind_eq_some_iff] at read
  rcases read with ⟨⟨whole, left⟩, _, number⟩
  dsimp only at number
  split at number
  · split at number <;> cases number
    exact .int _
  · cases number
    exact .double _

theorem namesOnce_plain? {points rest : List CodePoint} {value : Json}
    (read : plain? points = some (value, rest)) : NamesOnce value := by
  unfold plain? at read
  split at read
  · rename_i found word
    rcases List.exists_of_findSome?_eq_some word with ⟨entry, member, taken⟩
    rcases Option.map_eq_some_iff.1 taken with ⟨left, _, same⟩
    cases read
    cases same
    exact namesOnce_words member
  · split at read <;> exact namesOnce_unsigned? read

/-- Within some steps all readers give values that name each field once. -/
structure ReadsOnce (steps : Nat) : Prop where
  value : ∀ {points rest value}, value? steps points = some (value, rest) → NamesOnce value
  items : ∀ {seen points rest value}, NamesOnce (.array seen) →
    items? steps seen points = some (value, rest) → NamesOnce value
  fields : ∀ {seen points rest value}, NamesOnce (.object seen) →
    fields? steps seen points = some (value, rest) → NamesOnce value

namespace ReadsOnce

variable {steps : Nat} {points rest : List CodePoint} {value : Json}

theorem value_succ (once : ReadsOnce steps) (read : value? (steps + 1) points = some (value, rest)) :
    NamesOnce value := by
  unfold value? at read
  split at read
  · split at read
    · cases read
      exact .emptyArray
    · exact once.items .emptyArray read
  · split at read
    · cases read
      exact .emptyObject
    · exact once.fields .emptyObject read
  · rcases Option.map_eq_some_iff.1 read with ⟨text, _, same⟩
    cases same
    exact .string _
  · exact namesOnce_plain? read

theorem items_succ (once : ReadsOnce steps) {seen : List Json} (earlier : NamesOnce (.array seen))
    (read : items? (steps + 1) seen points = some (value, rest)) : NamesOnce value := by
  unfold items? at read
  split at read
  · cases read
  · rename_i item left first
    cases earlier with
    | array each =>
        have all : ∀ other ∈ item :: seen, NamesOnce other :=
          List.forall_mem_cons.2 ⟨once.value first, each⟩
        split at read
        · exact once.items (.array all) read
        · cases read
          exact .array fun other member => all other (List.mem_reverse.1 member)
        · cases read

theorem fields_succ (once : ReadsOnce steps) {seen : Fields} (earlier : NamesOnce (.object seen))
    (read : fields? (steps + 1) seen points = some (value, rest)) : NamesOnce value := by
  unfold fields? at read
  split at read
  · split at read
    · cases read
    · split at read
      · split at read
        · cases read
        · rename_i given left first
          have now := earlier.put (once.value first)
          split at read
          · exact once.fields (now _) read
          · cases read
            exact now _
          · cases read
      · cases read
  · cases read

end ReadsOnce

theorem readsOnce (steps : Nat) : ReadsOnce steps := by
  induction steps with
  | zero =>
      constructor
      · intro points rest value read
        cases read
      · intro seen points rest value _ read
        cases read
      · intro seen points rest value _ read
        cases read
  | succ steps ih => exact ⟨ih.value_succ, ih.items_succ, ih.fields_succ⟩

end

end Reader

/-- A value that was read from a text names each field once. -/
theorem namesOnce_of_read? [Platform] {points : List CodePoint} {value : Json}
    (read : read? points = some value) : NamesOnce value := by
  unfold read? at read
  split at read
  · rename_i found rest first
    split at read
    · cases read
      exact (Reader.readsOnce _).value first
    · cases read
  · cases read

end Json
end RealmAuth
