import RealmAuth.Proofs.Claims.Agreement
import RealmAuth.Proofs.Claims.Locality

namespace RealmAuth

/-!
Which values are claims.  They are the objects that follow the grammar, and such an
object is read as it is written.  All other values are refused as a whole.  Names that
the grammar does not know may stand in an object, in an access object and beside the
roles of a client; without them a value is read, or refused, in the very same way.
-/

namespace Json.Fields

/-- The fields of some names, each with its value changed. -/
def kept (keep : Text → Option (Json → Json)) (fields : Fields) : Fields :=
  fields.filterMap fun field => (keep field.1).map fun change => (field.1, change field.2)

theorem get?_kept (keep : Text → Option (Json → Json)) (fields : Fields) (name : Text) :
    (kept keep fields).get? name = (keep name).bind fun change => (fields.get? name).map change := by
  unfold kept get?
  induction fields with
  | nil => cases keep name <;> rfl
  | cons field fields ih =>
      rcases field with ⟨other, value⟩
      rw [List.filterMap_cons]
      by_cases same : name = other
      · subst same
        cases kept : keep name with
        | none => simpa [kept] using ih
        | some change => simp
      · have differs : (name == other) = false := by simpa using same
        cases keep other <;> simp [List.lookup_cons, differs, ih]

end Json.Fields

namespace Claims

open Outcome

/-! ## Without other names -/

/-- An access object with its roles only. -/
def prunedAccess : Json → Json
  | .object fields =>
      .object (Json.Fields.kept (fun name => if name = "roles" then some id else none) fields)
  | value => value

/-- A value of a shape without the names that the shape does not know. -/
def Shape.pruned : Shape → Json → Json
  | realmAccess, value => prunedAccess value
  | resourceAccess, .object fields =>
      .object (fields.map fun client => (client.1, prunedAccess client.2))
  | _, value => value

def prunedFields (fields : Json.Fields) : Json.Fields :=
  fields.kept fun name =>
    (grammar.find? fun rule => .plain rule.name == name).map fun rule => rule.shape.pruned

/-- A value without the names that the grammar does not know. -/
def pruned : Json → Json
  | .object fields => .object (prunedFields fields)
  | value => value

theorem get?_prunedFields {rule : Rule} (member : rule ∈ grammar) (fields : Json.Fields) :
    (prunedFields fields).get? rule.name = (fields.get? rule.name).map rule.shape.pruned := by
  have found : ∀ rule ∈ grammar,
      grammar.find? (fun other => Text.plain other.name == rule.name) = some rule := by
    decide
  rw [prunedFields, Json.Fields.get?_kept, found rule member]
  rfl

variable {α : Type} {shape : Shape} {read : Json → Checked α}

/-- A reading takes no notice of names that a shape does not know. -/
def Overlooks (read : Json → Checked α) (shape : Shape) : Prop :=
  ∀ value, read (shape.pruned value) = read value

theorem roleNames_prunedAccess (kind : String) (value : Json) :
    roleNames kind (prunedAccess value) = roleNames kind value := by
  cases value with
  | object fields =>
      apply required_congr
      rw [Json.Fields.get?_kept, if_pos rfl, Option.bind_some, Option.map_id, id]
  | _ => rfl

theorem overlooks_realmAccess : Overlooks realmAccess .realmAccess := by
  intro value
  rw [Shape.pruned, realmAccess, roleNames_prunedAccess, realmAccess]

theorem clientRoles_map_prunedAccess (fields : List (Text × Json)) :
    clientRoles (fields.map fun client => (client.1, prunedAccess client.2)) =
      clientRoles fields := by
  induction fields with
  | nil => rfl
  | cons client fields ih =>
      rw [List.map_cons, clientRoles, clientRoles, roleNames_prunedAccess, ih]

theorem overlooks_resourceAccess : Overlooks resourceAccess .resourceAccess := by
  intro value
  cases value with
  | object fields =>
      rw [Shape.pruned, resourceAccess, clientRoles_map_prunedAccess, resourceAccess]
  | _ => rfl

/-- A value becomes `null` only if it was. -/
theorem Shape.pruned_eq_null_iff {value : Json} : shape.pruned value = .null ↔ value = .null := by
  cases shape <;> cases value <;> simp [pruned, prunedAccess]

theorem required_prunedFields (overlooks : Overlooks read shape) {name : String}
    (member : Rule.mk name shape false ∈ grammar) (fields : Json.Fields) :
    required (prunedFields fields) name read = required fields name read := by
  unfold required
  rw [get?_prunedFields member]
  cases fields.get? name with
  | none => rfl
  | some value => simp only [Option.map_some, overlooks value]

theorem optional_of_given {fields : Json.Fields} {name : String} {value : Json}
    (given : fields.get? name = some value) (counts : value ≠ .null) :
    optional fields name read = some <$> (read value).within name := by
  unfold optional
  rw [given]
  split
  · contradiction
  · rename_i null
    cases null
    exact absurd rfl counts
  · rename_i same
    cases same
    rfl

theorem optional_prunedFields (overlooks : Overlooks read shape) {name : String}
    (member : Rule.mk name shape true ∈ grammar) (fields : Json.Fields) :
    optional (prunedFields fields) name read = optional fields name read := by
  have lookup : (prunedFields fields).get? name = (fields.get? name).map shape.pruned :=
    get?_prunedFields member fields
  cases given : fields.get? name with
  | none =>
      apply optional_congr
      rw [lookup, given]
      rfl
  | some value =>
      rw [given, Option.map_some] at lookup
      by_cases null : value = .null
      · apply optional_congr
        rw [lookup, given, null, Shape.pruned_eq_null_iff.2 rfl]
      · have counts : shape.pruned value ≠ .null := mt Shape.pruned_eq_null_iff.1 null
        rw [optional_of_given lookup counts, optional_of_given given null, overlooks value]

/-- Names that the grammar does not know have no part in what is read, nor in what is reported. -/
theorem check_pruned (value : Json) : check (pruned value) = check value := by
  have overlooks_time : Overlooks time .time := fun _ => rfl
  have overlooks_text : Overlooks text .text := fun _ => rfl
  have overlooks_truth : Overlooks truth .truth := fun _ => rfl
  have overlooks_audience : Overlooks audience .audience := fun _ => rfl
  cases value with
  | object fields =>
      change ofFields (prunedFields fields) = ofFields fields
      unfold ofFields
      simp (disch := decide) only [required_prunedFields overlooks_time,
        required_prunedFields overlooks_text, required_prunedFields overlooks_truth,
        required_prunedFields overlooks_audience, optional_prunedFields overlooks_realmAccess,
        optional_prunedFields overlooks_resourceAccess]
  | _ => rfl

/-! ## Values that are read -/

theorem RefusedFor.ok_iff {details : List Detail} {value : Json}
    (refused : RefusedFor details value) :
    (∃ claims, standardClaims value = .ok claims) ↔ details = [] := by
  unfold RefusedFor at refused
  cases outcome : standardClaims value with
  | ok claims =>
      have none : details = [] := by
        by_contra some
        cases outcome.symm.trans ((refused _).2 ⟨some, rfl⟩)
      exact iff_of_true ⟨claims, rfl⟩ none
  | error failure => simp [((refused failure).1 outcome).1]

/-- A value is read exactly when it follows the grammar. -/
theorem standardClaims_ok_iff {value : Json} :
    (∃ claims, standardClaims value = .ok claims) ↔ Follows value := by
  cases value with
  | object fields => exact (refusedFor_faults fields).ok_iff.trans faults_eq_nil_iff
  | _ => simp [standardClaims, read, check, Checked.fault, Checked.result, Follows]

/-- What is not read is refused, with a report. -/
theorem standardClaims_refused_iff {value : Json} :
    (∃ report, standardClaims value = refuse (.claimsParse (.claims report))) ↔
      ¬ Follows value := by
  rw [← standardClaims_ok_iff]
  unfold standardClaims
  cases read value <;> simp [refuse]

/-- Claims are read exactly as they are written in an object. -/
theorem standardClaims_eq_ok_iff_written {value : Json} {claims : StandardClaims} :
    standardClaims value = .ok claims ↔
      ∃ fields, value = .object fields ∧ WrittenIn claims fields := by
  cases value with
  | object fields => simp [standardClaims_eq_ok_iff]
  | _ => simp [standardClaims, read, check, Checked.fault, Checked.result]

/--
The grammar of claims.  A value is read exactly when it follows the grammar, and then
each claim is what is written under its name: the audience in its shape, the clients in
their order, and all role names in their order and as often as they stand there.  A
value that does not follow the grammar is refused with a report and with nothing else.
Names that the grammar does not know, at whatever depth, make no difference to what is
read, nor to the entries of a report.
-/
theorem claims_of_grammar (value : Json) :
    ((∃ claims, standardClaims value = .ok claims) ↔ Follows value) ∧
    (∀ claims, standardClaims value = .ok claims ↔
      ∃ fields, value = .object fields ∧ WrittenIn claims fields) ∧
    ((∃ report, standardClaims value = refuse (.claimsParse (.claims report))) ↔
      ¬ Follows value) ∧
    standardClaims (pruned value) = Outcome.about (pruned value) (standardClaims value) := by
  refine ⟨standardClaims_ok_iff, fun claims => standardClaims_eq_ok_iff_written,
    standardClaims_refused_iff, ?_⟩
  have checked : check (pruned value) = id <$> check value := by
    rw [check_pruned]
    cases check value <;> rfl
  unfold standardClaims
  rw [read_of_check checked]
  cases read value <;> rfl

end Claims
end RealmAuth
