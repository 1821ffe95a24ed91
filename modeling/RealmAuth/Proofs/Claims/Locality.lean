import Mathlib.Data.List.Nodup
import RealmAuth.Proofs.Claims.Schema
import RealmAuth.Proofs.Outcome
import RealmAuth.Realm

namespace RealmAuth

/-!
What a refusal of claims says of each claim.  The faults of a claim lie under its name,
so they can be picked out of the report on all claims, and what is picked out is the
list of this claim alone.  A claim that is put right takes its own entries out of the
report and leaves all others as they are.  The access objects are reported on alike
when they are read on their own, where their entries lie under no name.
-/

/-- A detail lies under a name. -/
def Detail.under (name : String) (detail : Detail) : Bool :=
  detail.location.head? == some name

theorem Detail.within_injective (step : String) : Function.Injective (Detail.within step) := by
  rintro ⟨first, fault⟩ ⟨second, other⟩ same
  simpa [Detail.within] using same

/-- A faulty value is reported on with all its details, and there is one at least. -/
theorem Checked.result_eq_error_iff {α : Type} {kind : String} {input : Json} {x : Checked α}
    {report : Report} :
    x.result kind input = .error report ↔ x.details ≠ [] ∧ report = ⟨kind, input, x.details⟩ := by
  cases x with
  | good value => simp [result, details]
  | faulty first others => simp [result, details, eq_comm]

namespace Claims

open Outcome

/-! ## The entries of one claim -/

theorem under_of_mem_faults {rule : Rule} {given : Option Json} {detail : Detail}
    (member : detail ∈ rule.faults given) (name : String) :
    detail.under name = (rule.name == name) := by
  cases given with
  | none =>
      simp only [Rule.faults] at member
      split at member
      · cases member
      · rw [List.mem_singleton] at member
        subst member
        simp [Detail.under]
  | some value =>
      simp only [Rule.faults] at member
      split at member
      · cases member
      · rcases List.mem_map.1 member with ⟨inner, _, rfl⟩
        simp [Detail.under, Detail.within]

/-- Of the entries of a claim all lie under its name, and none under another one. -/
theorem filter_under_faults (rule : Rule) (given : Option Json) (name : String) :
    (rule.faults given).filter (Detail.under name) =
      if rule.name = name then rule.faults given else [] := by
  split
  · rename_i same
    apply List.filter_eq_self.2
    intro detail member
    rw [under_of_mem_faults member, same, beq_self_eq_true]
  · rename_i different
    apply List.filter_eq_nil_iff.2
    intro detail member
    rw [under_of_mem_faults member, beq_iff_eq]
    exact different

theorem filter_not_under_faults (rule : Rule) (given : Option Json) (name : String) :
    ((rule.faults given).filter fun detail => !detail.under name) =
      if rule.name = name then [] else rule.faults given := by
  split
  · rename_i same
    apply List.filter_eq_nil_iff.2
    intro detail member
    simp [under_of_mem_faults member, same]
  · rename_i different
    apply List.filter_eq_self.2
    intro detail member
    simp [under_of_mem_faults member, different]

/-- No two claims have one name. -/
theorem nodup_names : (grammar.map Rule.name).Nodup := by
  decide

/-- Where names are different, only the lists of one rule remain of those under its name. -/
theorem flatMap_named {rules : List Rule} (distinct : (rules.map Rule.name).Nodup) {rule : Rule}
    (member : rule ∈ rules) (lists : Rule → List Detail) :
    (rules.flatMap fun other => if other.name = rule.name then lists other else []) =
      lists rule := by
  induction rules with
  | nil => cases member
  | cons first rules ih =>
      rw [List.map_cons, List.nodup_cons] at distinct
      rw [List.flatMap_cons]
      rcases List.mem_cons.1 member with rfl | later
      · have others : (rules.flatMap fun other =>
            if other.name = rule.name then lists other else []) = [] := by
          apply List.flatMap_eq_nil_iff.2
          intro other among
          apply if_neg
          intro same
          exact distinct.1 (same ▸ List.mem_map_of_mem among)
        rw [others, if_pos rfl, List.append_nil]
      · have different : first.name ≠ rule.name := by
          intro same
          exact distinct.1 (same ▸ List.mem_map_of_mem later)
        rw [if_neg different, List.nil_append, ih distinct.2 later]

/-- The entries under the name of a claim are its own. -/
theorem filter_under {rule : Rule} (member : rule ∈ grammar) (fields : Json.Fields) :
    (faults fields).filter (Detail.under rule.name) = rule.faults (fields.get? rule.name) := by
  rw [faults, List.filter_flatMap]
  simp only [filter_under_faults]
  exact flatMap_named nodup_names member fun other => other.faults (fields.get? other.name)

/-- A claim that is put right takes its entries out of the report. -/
theorem faults_of_corrected {rule : Rule} (member : rule ∈ grammar) {fields corrected : Json.Fields}
    (right : rule.Admits (corrected.get? rule.name))
    (others : ∀ other ∈ grammar, other.name ≠ rule.name →
      corrected.get? other.name = fields.get? other.name) :
    faults corrected = (faults fields).filter fun detail => !detail.under rule.name := by
  rw [faults, faults, List.filter_flatMap]
  apply List.flatMap_congr
  intro other among
  rw [filter_not_under_faults]
  split
  · rename_i same
    have one : other = rule := List.inj_on_of_nodup_map nodup_names among member same
    rw [one]
    exact rule.faults_eq_nil_iff.2 right
  · rename_i different
    rw [others other among different]

/-! ## The report on all claims -/

/-- A value is refused for some details, with a report on it, or read if there are none. -/
def RefusedFor (details : List Detail) (value : Json) : Prop :=
  ∀ failure, standardClaims value = .error failure ↔
    details ≠ [] ∧ failure = .refused (.claimsParse (.claims ⟨"StandardClaims", value, details⟩))

/-- Claims are refused for all that is wrong with them. -/
theorem refusedFor_faults (fields : Json.Fields) :
    RefusedFor (faults fields) (.object fields) := by
  intro failure
  have checked : read (.object fields) =
      (ofFields fields).result "StandardClaims" (.object fields) := rfl
  rw [standardClaims, checked, mapError_eq_error_iff]
  simp only [Checked.result_eq_error_iff, details_ofFields]
  constructor
  · intro given
    rcases given with ⟨_, ⟨some, rfl⟩, rfl⟩
    exact ⟨some, rfl⟩
  · intro given
    rcases given with ⟨some, rfl⟩
    exact ⟨_, ⟨some, rfl⟩, rfl⟩

/-- A claim that is there is reported on as its value is on its own, but under its name. -/
theorem result_eq_error_iff_under {α : Type} {read : Json → Checked α} {shape : Shape}
    (reports : Reports read shape) (kind name : String) {value : Json} (given : value ≠ .null)
    (report : Report) :
    (read value).result kind value = .error report ↔
      report.kind = kind ∧ report.input = value ∧ report.details ≠ [] ∧
        (Rule.mk name shape true).faults (some value) = report.details.map (.within name) := by
  have listed : (Rule.mk name shape true).faults (some value) =
      (shape.faults value).map (.within name) := by
    simp [Rule.faults, given]
  have same (details : List Detail) :
      (shape.faults value).map (Detail.within name) = details.map (.within name) ↔
        shape.faults value = details :=
    (List.map_injective_iff.2 (Detail.within_injective name)).eq_iff
  rcases report with ⟨told, input, details⟩
  rw [Checked.result_eq_error_iff, reports value, listed, same]
  constructor
  · rintro ⟨some, same⟩
    cases same
    exact ⟨rfl, rfl, some, rfl⟩
  · rintro ⟨rfl, rfl, some, found⟩
    exact ⟨found ▸ some, by rw [found]⟩

/--
The report on an object of claims.  It lists all that is wrong with each claim, in the
order of the grammar; what it lists under the name of a claim is told by the value of
this claim alone, and it is nothing exactly when this value is as it may be.  When a
claim is put right and the others stay as they are, the report loses the entries of this
claim and no others.  An access object that is read on its own is reported on in the
same way, its entries being those of its claim without the claim's name.
-/
theorem report_by_claim (fields : Json.Fields) :
    RefusedFor (grammar.flatMap fun rule => rule.faults (fields.get? rule.name))
      (.object fields) ∧
    (∀ rule ∈ grammar,
      (faults fields).filter (Detail.under rule.name) = rule.faults (fields.get? rule.name) ∧
      (rule.faults (fields.get? rule.name) = [] ↔ rule.Admits (fields.get? rule.name))) ∧
    (∀ rule ∈ grammar, ∀ corrected : Json.Fields, rule.Admits (corrected.get? rule.name) →
      (∀ other ∈ grammar, other.name ≠ rule.name →
        corrected.get? other.name = fields.get? other.name) →
      RefusedFor ((faults fields).filter fun detail => !detail.under rule.name)
        (.object corrected)) ∧
    ∀ value, value ≠ .null → ∀ report,
      (readRealmAccess value = .error report ↔
        report.kind = "RealmAccess" ∧ report.input = value ∧ report.details ≠ [] ∧
          (Rule.mk "realm_access" .realmAccess true).faults (some value) =
            report.details.map (.within "realm_access")) ∧
      (readResourceAccess value = .error report ↔
        report.kind = "ResourceAccess" ∧ report.input = value ∧ report.details ≠ [] ∧
          (Rule.mk "resource_access" .resourceAccess true).faults (some value) =
            report.details.map (.within "resource_access")) := by
  refine ⟨refusedFor_faults fields, ?_, ?_, ?_⟩
  · intro rule member
    exact ⟨filter_under member fields, rule.faults_eq_nil_iff⟩
  · intro rule member corrected right others
    rw [← faults_of_corrected member right others]
    exact refusedFor_faults corrected
  · intro value given report
    exact ⟨result_eq_error_iff_under reports_realmAccess _ _ given report,
      result_eq_error_iff_under reports_resourceAccess _ _ given report⟩

/-- Clients of which one lists two roles that are no texts. -/
def faultyClients : Json :=
  .object [("app", .object [("roles", .array [.null, .string "r", .int 2])])]

/-- Claims of which five are faulty in various ways. -/
def faultyFields : Json.Fields :=
  [("exp", .int (2 ^ 63)), ("iat", .bool true), ("jti", .string "token"), ("iss", .string "realm"),
    ("aud", .array [.string "service", .int 1]), ("typ", .string "Bearer"),
    ("azp", .string "app"), ("realm_access", .null),
    ("resource_access", faultyClients),
    ("given_name", .string "given"), ("family_name", .string "family"), ("name", .string "full"),
    ("preferred_username", .string "login"), ("email", .string "mail"),
    ("email_verified", .bool true)]

/--
What is wrong with these claims, what stays wrong when their audience is put right, and
what is wrong with their clients alone.
-/
theorem report_by_claim_faultyFields :
    RefusedFor
      [⟨["exp"], .aboveRange⟩, ⟨["iat"], .notInteger⟩, ⟨["aud", "str"], .notText⟩,
        ⟨["aud", "list[str]", "1"], .notText⟩, ⟨["sub"], .missing⟩,
        ⟨["resource_access", "app", "roles", "0"], .notText⟩,
        ⟨["resource_access", "app", "roles", "2"], .notText⟩]
      (.object faultyFields) ∧
    RefusedFor
      [⟨["exp"], .aboveRange⟩, ⟨["iat"], .notInteger⟩, ⟨["sub"], .missing⟩,
        ⟨["resource_access", "app", "roles", "0"], .notText⟩,
        ⟨["resource_access", "app", "roles", "2"], .notText⟩]
      (.object (faultyFields.put "aud" (.string "service"))) ∧
    readResourceAccess faultyClients = .error ⟨"ResourceAccess", faultyClients,
      [⟨["app", "roles", "0"], .notText⟩, ⟨["app", "roles", "2"], .notText⟩]⟩ := by
  rcases report_by_claim faultyFields with ⟨all, _, putRight, alone⟩
  have right : (Rule.mk "aud" .audience false).Admits
      ((faultyFields.put "aud" (.string "service")).get? "aud") :=
    Or.inr (Or.inl ⟨"service", rfl⟩)
  have others : ∀ other ∈ grammar, other.name ≠ "aud" →
      (faultyFields.put "aud" (.string "service")).get? other.name =
        faultyFields.get? other.name := by
    decide
  exact ⟨all, putRight _ (by decide) _ right others,
    (alone _ (by decide) _).2.2 ⟨rfl, rfl, by decide, rfl⟩⟩

end Claims
end RealmAuth
