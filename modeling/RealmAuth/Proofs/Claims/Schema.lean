import RealmAuth.Claims.Standard
import RealmAuth.Json.Equality

namespace RealmAuth
namespace Claims

/-!
The grammar of the standard claims.  A claim has a name and a shape, and some claims may
be left out.  Which values a shape admits is said here without any reading of them, and
so is the list of all that is wrong with a value; this list is empty for the admitted
values and for no others.  What the reading of claims reports is then put together from
such lists, one for each claim, and each of them is about the value of its claim alone.
-/

/-! ## Shapes of values -/

/-- A list of texts. -/
def IsTexts (value : Json) : Prop :=
  ∃ names : List Text, value = .array (names.map .string)

/-- An object that lists role names. -/
def IsAccess (value : Json) : Prop :=
  ∃ fields : Json.Fields, value = .object fields ∧
    ∃ listed, fields.get? "roles" = some listed ∧ IsTexts listed

/-- The shapes of the standard claims. -/
inductive Shape where
  | time
  | text
  | truth
  | audience
  | realmAccess
  | resourceAccess
  deriving DecidableEq

/-- The values that a shape admits; none of them is converted from another one. -/
def Shape.Admits : Shape → Json → Prop
  | time, value => ∃ seconds : Int, value = .int seconds ∧ -2 ^ 63 ≤ seconds ∧ seconds ≤ 2 ^ 63 - 1
  | text, value => ∃ name, value = .string name
  | truth, value => ∃ holds, value = .bool holds
  | audience, value => (∃ name, value = .string name) ∨ IsTexts value
  | realmAccess, value => IsAccess value
  | resourceAccess, value =>
      ∃ fields : Json.Fields, value = .object fields ∧ ∀ client ∈ fields, IsAccess client.2

def textFaults : Json → List Detail
  | .string _ => []
  | _ => [⟨[], .notText⟩]

def truthFaults : Json → List Detail
  | .bool _ => []
  | _ => [⟨[], .notTruth⟩]

def timeFaults : Json → List Detail
  | .int seconds =>
      if seconds < -2 ^ 63 then [⟨[], .belowRange⟩]
      else if 2 ^ 63 - 1 < seconds then [⟨[], .aboveRange⟩]
      else []
  | _ => [⟨[], .notInteger⟩]

/-- The positions of the items that are no texts, in order. -/
def strangers (items : List Json) : List Nat :=
  (List.range items.length).filter fun position => (items[position]?.bind Json.text?).isNone

/-- Of a list each item that is no text is at fault, at its position. -/
def textsFaults : Json → List Detail
  | .array items => (strangers items).map fun position => ⟨[toString position], .notText⟩
  | _ => [⟨[], .notList⟩]

/-- A faulty audience is at fault as a text, and then as a list. -/
def audienceFaults : Json → List Detail
  | .string _ => []
  | value =>
      if textsFaults value = [] then []
      else ⟨["str"], .notText⟩ :: (textsFaults value).map (.within "list[str]")

def accessFaults (kind : String) : Json → List Detail
  | .object fields =>
      match Json.Fields.get? fields "roles" with
      | none => [⟨["roles"], .missing⟩]
      | some listed => (textsFaults listed).map (.within "roles")
  | _ => [⟨[], .notObject kind⟩]

/-- Of an object of clients each client has its own faults, in the order of the clients. -/
def clientsFaults : Json → List Detail
  | .object fields =>
      fields.flatMap fun client => (accessFaults "Access" client.2).map (.within client.1.shown)
  | _ => [⟨[], .notDictionary⟩]

/-- All that is wrong with a value of a shape. -/
def Shape.faults : Shape → Json → List Detail
  | time => timeFaults
  | text => textFaults
  | truth => truthFaults
  | audience => audienceFaults
  | realmAccess => accessFaults "RealmAccess"
  | resourceAccess => clientsFaults

/-! ## Claims -/

/-- A claim: its name and its shape, and whether it may be left out. -/
structure Rule where
  name : String
  shape : Shape
  optional : Bool
  deriving DecidableEq

namespace Rule

/-- What may stand in the place of a claim; `null` may, where nothing may. -/
def Admits (rule : Rule) : Option Json → Prop
  | none => rule.optional = true
  | some value => (rule.optional = true ∧ value = .null) ∨ rule.shape.Admits value

/-- All that is wrong with what stands in the place of a claim. -/
def faults (rule : Rule) : Option Json → List Detail
  | none => if rule.optional then [] else [⟨[rule.name], .missing⟩]
  | some value =>
      if rule.optional ∧ value = .null then [] else (rule.shape.faults value).map (.within rule.name)

end Rule

/-- The standard claims, in the order in which their faults are reported. -/
def grammar : List Rule :=
  [
    ⟨"exp", .time, false⟩,
    ⟨"iat", .time, false⟩,
    ⟨"jti", .text, false⟩,
    ⟨"iss", .text, false⟩,
    ⟨"aud", .audience, false⟩,
    ⟨"sub", .text, false⟩,
    ⟨"typ", .text, false⟩,
    ⟨"azp", .text, false⟩,
    ⟨"realm_access", .realmAccess, true⟩,
    ⟨"resource_access", .resourceAccess, true⟩,
    ⟨"given_name", .text, false⟩,
    ⟨"family_name", .text, false⟩,
    ⟨"name", .text, false⟩,
    ⟨"preferred_username", .text, false⟩,
    ⟨"email", .text, false⟩,
    ⟨"email_verified", .truth, false⟩
  ]

/-- A value follows the grammar: it is an object in which every claim is as it may be. -/
def Follows (value : Json) : Prop :=
  ∃ fields : Json.Fields, value = .object fields ∧
    ∀ rule ∈ grammar, rule.Admits (fields.get? rule.name)

/-- All that is wrong with fields, claim by claim. -/
def faults (fields : Json.Fields) : List Detail :=
  grammar.flatMap fun rule => rule.faults (fields.get? rule.name)

/-! ## Without faults -/

theorem textFaults_eq_nil_iff {value : Json} :
    textFaults value = [] ↔ ∃ name, value = .string name := by
  cases value <;> simp [textFaults]

theorem isTexts_array_iff {items : List Json} :
    IsTexts (.array items) ↔ ∀ item ∈ items, ∃ name, item = .string name := by
  unfold IsTexts
  simp only [Json.array.injEq]
  induction items with
  | nil => exact iff_of_true ⟨[], rfl⟩ (by simp)
  | cons item items ih =>
      rw [List.forall_mem_cons, ← ih]
      constructor
      · intro given
        rcases given with ⟨names, same⟩
        cases names with
        | nil => cases same
        | cons name names =>
            cases same
            exact ⟨⟨name, rfl⟩, names, rfl⟩
      · intro given
        rcases given with ⟨⟨name, rfl⟩, names, rfl⟩
        exact ⟨name :: names, rfl⟩

theorem strangers_eq_nil_iff {items : List Json} :
    strangers items = [] ↔ ∀ item ∈ items, ∃ name, item = .string name := by
  unfold strangers
  simp only [List.filter_eq_nil_iff, List.mem_range, List.forall_mem_iff_forall_getElem]
  apply forall₂_congr
  intro position inside
  rw [List.getElem?_eq_getElem inside, Option.bind_some]
  cases items[position] <;> simp [Json.text?]

theorem textsFaults_eq_nil_iff {value : Json} : textsFaults value = [] ↔ IsTexts value := by
  cases value with
  | array items =>
      rw [textsFaults, List.map_eq_nil_iff, strangers_eq_nil_iff, isTexts_array_iff]
  | _ => simp [textsFaults, IsTexts]

theorem audienceFaults_of_not_text {value : Json} (list : ∀ name, value ≠ .string name) :
    audienceFaults value = if textsFaults value = [] then []
      else ⟨["str"], .notText⟩ :: (textsFaults value).map (.within "list[str]") := by
  unfold audienceFaults
  split
  · rename_i name
    exact absurd rfl (list name)
  · rfl

theorem audienceFaults_eq_nil_iff {value : Json} :
    audienceFaults value = [] ↔ Shape.audience.Admits value := by
  by_cases one : ∃ name, value = .string name
  · rcases one with ⟨name, rfl⟩
    exact iff_of_true rfl (Or.inl ⟨name, rfl⟩)
  · rw [audienceFaults_of_not_text (not_exists.1 one), Shape.Admits, or_iff_right one,
      ← textsFaults_eq_nil_iff]
    split
    · rename_i texts
      exact iff_of_true rfl texts
    · rename_i others
      simp [others]

theorem accessFaults_eq_nil_iff {kind : String} {value : Json} :
    accessFaults kind value = [] ↔ IsAccess value := by
  unfold IsAccess
  cases value with
  | object fields =>
      simp only [accessFaults, Json.object.injEq, exists_eq_left']
      cases Json.Fields.get? fields "roles" with
      | none => simp
      | some listed => simp [textsFaults_eq_nil_iff]
  | _ => simp [accessFaults]

theorem clientsFaults_eq_nil_iff {value : Json} :
    clientsFaults value = [] ↔ Shape.resourceAccess.Admits value := by
  unfold Shape.Admits
  cases value with
  | object fields =>
      simp [clientsFaults, List.flatMap_eq_nil_iff, accessFaults_eq_nil_iff]
  | _ => simp [clientsFaults]

theorem timeFaults_eq_nil_iff {value : Json} : timeFaults value = [] ↔ Shape.time.Admits value := by
  unfold Shape.Admits
  cases value with
  | int seconds =>
      simp only [timeFaults, Json.int.injEq, exists_eq_left']
      split
      · simp only [reduceCtorEq, false_iff]
        omega
      · split
        · simp only [reduceCtorEq, false_iff]
          omega
        · simp only [true_iff]
          omega
  | _ => simp [timeFaults]

/-- A shape admits exactly the values with which nothing is wrong. -/
theorem Shape.faults_eq_nil_iff (shape : Shape) {value : Json} :
    shape.faults value = [] ↔ shape.Admits value := by
  cases shape with
  | time => exact timeFaults_eq_nil_iff
  | text => exact textFaults_eq_nil_iff
  | truth => cases value <;> simp [faults, truthFaults, Admits]
  | audience => exact audienceFaults_eq_nil_iff
  | realmAccess => exact accessFaults_eq_nil_iff
  | resourceAccess => exact clientsFaults_eq_nil_iff

theorem Rule.faults_eq_nil_iff (rule : Rule) {given : Option Json} :
    rule.faults given = [] ↔ rule.Admits given := by
  cases given with
  | none => simp [faults, Admits]
  | some value =>
      simp only [faults, Admits]
      by_cases excused : rule.optional = true ∧ value = .null
      · exact iff_of_true (if_pos excused) (Or.inl excused)
      · rw [if_neg excused, List.map_eq_nil_iff, rule.shape.faults_eq_nil_iff,
          or_iff_right excused]

/-- Fields follow the grammar exactly when nothing is wrong with them. -/
theorem faults_eq_nil_iff {fields : Json.Fields} :
    faults fields = [] ↔ Follows (.object fields) := by
  unfold faults Follows
  simp only [List.flatMap_eq_nil_iff, Rule.faults_eq_nil_iff, Json.object.injEq, exists_eq_left']

/-! ## What is reported -/

variable {α : Type}

/-- A reading reports all that is wrong with a value of a shape. -/
def Reports (read : Json → Checked α) (shape : Shape) : Prop :=
  ∀ value, (read value).details = shape.faults value

theorem reports_time : Reports time .time := by
  intro value
  unfold time Shape.faults timeFaults leastTime greatestTime
  cases value with
  | int seconds =>
      simp only
      split
      · rfl
      · split <;> rfl
  | _ => rfl

theorem reports_text : Reports text .text := by
  intro value
  cases value <;> rfl

theorem reports_truth : Reports truth .truth := by
  intro value
  cases value <;> rfl

/-- Behind a first item the positions of the others are counted on. -/
theorem strangers_cons (item : Json) (items : List Json) :
    strangers (item :: items) =
      (if item.text?.isNone then [0] else []) ++ (strangers items).map Nat.succ := by
  unfold strangers
  rw [List.length_cons, List.range_succ_eq_map, List.filter_cons, List.filter_map]
  simp only [List.getElem?_cons_zero, Option.bind_some]
  split <;> rfl

theorem details_textsFrom (position : Nat) (items : List Json) :
    (textsFrom position items).details =
      (strangers items).map fun offset => ⟨[toString (position + offset)], .notText⟩ := by
  induction items generalizing position with
  | nil => rfl
  | cons item items ih =>
      rw [textsFrom, Checked.details_seq, Checked.details_map, Checked.details_within, ih,
        strangers_cons, List.map_append, List.map_map]
      congr 1
      · cases item <;> rfl
      · apply List.map_congr_left
        intro offset _
        rw [Function.comp_apply, Nat.succ_eq_one_add, ← Nat.add_assoc]

theorem details_texts (value : Json) : (texts value).details = textsFaults value := by
  cases value with
  | array items =>
      rw [texts, details_textsFrom, textsFaults]
      simp only [Nat.zero_add]
  | _ => rfl

theorem reports_audience : Reports audience .audience := by
  intro value
  change (audience value).details = audienceFaults value
  unfold audience
  split
  · rfl
  · rename_i other
    rw [audienceFaults_of_not_text other, ← details_texts]
    cases texts value with
    | good names => rfl
    | faulty first others => rfl

theorem details_required {read : Json → Checked α} {shape : Shape} (reports : Reports read shape)
    (fields : Json.Fields) (name : String) :
    (required fields name read).details = (Rule.mk name shape false).faults (fields.get? name) := by
  unfold required Rule.faults
  cases fields.get? name with
  | none => rfl
  | some value => simp [Checked.details_within, reports value]

theorem details_optional {read : Json → Checked α} {shape : Shape} (reports : Reports read shape)
    (fields : Json.Fields) (name : String) :
    (optional fields name read).details = (Rule.mk name shape true).faults (fields.get? name) := by
  unfold optional Rule.faults
  split
  · rename_i absent
    simp [absent, Checked.details]
  · rename_i null
    simp [null, Checked.details]
  · rename_i value counts given
    have there : value ≠ .null := counts
    simp [given, there, Checked.details_within, reports value]

theorem details_roleNames (kind : String) (value : Json) :
    (roleNames kind value).details = accessFaults kind value := by
  cases value with
  | object fields =>
      simp only [roleNames, required, accessFaults]
      cases Json.Fields.get? fields "roles" with
      | none => rfl
      | some listed => rw [Checked.details_within, details_texts]
  | _ => rfl

theorem reports_realmAccess : Reports realmAccess .realmAccess := by
  intro value
  rw [realmAccess, Checked.details_map, details_roleNames, Shape.faults]

theorem details_clientRoles (fields : List (Text × Json)) :
    (clientRoles fields).details =
      fields.flatMap fun client =>
        (accessFaults "Access" client.2).map (.within client.1.shown) := by
  induction fields with
  | nil => rfl
  | cons field fields ih =>
      rw [clientRoles, Checked.details_seq, Checked.details_map, Checked.details_within,
        details_roleNames, ih, List.flatMap_cons]

theorem reports_resourceAccess : Reports resourceAccess .resourceAccess := by
  intro value
  cases value with
  | object fields =>
      rw [resourceAccess, Checked.details_map, details_clientRoles]
      rfl
  | _ => rfl

/-- Reading claims reports what is wrong with each of them, in the order of the grammar. -/
theorem details_ofFields (fields : Json.Fields) : (ofFields fields).details = faults fields := by
  unfold ofFields faults grammar
  simp only [Checked.details_seq, Checked.details_map, details_required reports_time,
    details_required reports_text, details_required reports_truth,
    details_required reports_audience, details_optional reports_realmAccess,
    details_optional reports_resourceAccess, List.flatMap_cons, List.flatMap_nil,
    List.append_assoc, List.append_nil]

end Claims
end RealmAuth
