import RealmAuth.Proofs.Role.Walk

namespace RealmAuth

/-!
What the checks of roles refuse for.  A check that looks for roles names one that it
did not find, and a check that excludes roles names none; this is so for every role
parser, unless the parser itself refuses to read a role.  With a parser that reads
every name each check is known by its fault alone: the first role that is lacking where
all are required, the last one where one of them is, and no role at all where none is
allowed.  These faults depend on a token through the role values that it holds.
-/

open Outcome

variable {R : Type} [RoleValue R]

namespace Token

/-! ## Any role parser -/

variable {token : Token R}

/-- A missing role, as it was read: the values that a token carries do not include it. -/
def Misses (token : Token R) (roles : List R) (error : AuthError) : Prop :=
  ∃ role ∈ roles, ∃ value, (token.wanted role).result = .ok value ∧
    token.carries value = false ∧ error = .roleMissing (RoleValue.text value)

/-- The role parser itself refuses to read one of some roles. -/
def Declines (token : Token R) (roles : List R) (error : AuthError) : Prop :=
  ∃ role ∈ roles, (token.wanted role).result = refuse error

theorem Misses.tail {role : R} {roles : List R} {error : AuthError}
    (misses : token.Misses roles error) : token.Misses (role :: roles) error := by
  rcases misses with ⟨other, member, rest⟩
  exact ⟨other, List.mem_cons_of_mem _ member, rest⟩

theorem Declines.tail {role : R} {roles : List R} {error : AuthError}
    (declines : token.Declines roles error) : token.Declines (role :: roles) error := by
  rcases declines with ⟨other, member, refused⟩
  exact ⟨other, List.mem_cons_of_mem _ member, refused⟩

/-- A chain that starts with reading a role is refused by what follows, if the role is read. -/
theorem refused_of_wanted {α : Type} {role : R} {roles : List R} {next : R → Traced α}
    {error : AuthError} (own : ¬ token.Declines (role :: roles) error)
    (refused : (token.wanted role >>= next).result = refuse error) :
    ∃ value, (token.wanted role).result = .ok value ∧ (next value).result = refuse error := by
  rw [Traced.result_bind] at refused
  rcases bind_eq_error_iff.1 refused with declined | later
  · exact absurd ⟨role, List.mem_cons_self, declined⟩ own
  · exact later

theorem misses_of_expectRoles {roles : List R} {error : AuthError}
    (own : ¬ token.Declines roles error)
    (refused : (token.expectRoles roles).result = refuse error) : token.Misses roles error := by
  induction roles with
  | nil => cases refused
  | cons role roles ih =>
      rcases refused_of_wanted own refused with ⟨value, read, later⟩
      split at later
      · exact (ih (fun declines => own declines.tail) later).tail
      · rename_i absent
        cases later
        exact ⟨role, List.mem_cons_self, value, read, by simpa using absent, rfl⟩

/-- Behind a role that was read and not found, some role of the whole list is reported. -/
theorem misses_of_containedAfter (before roles : List R) (missing : Option R) {error : AuthError}
    (reported : ∀ value, missing = some value →
      token.Misses before (.roleMissing (RoleValue.text value)))
    (own : ¬ token.Declines roles error)
    (refused : (token.containedAfter missing roles).result = refuse error) :
    token.Misses (before ++ roles) error := by
  induction roles generalizing before missing with
  | nil =>
      cases missing with
      | none => cases refused
      | some value =>
          cases refused
          rw [List.append_nil]
          exact reported value rfl
  | cons role roles ih =>
      rcases refused_of_wanted own refused with ⟨value, read, later⟩
      split at later
      · cases later
      · rename_i absent
        have next := ih (before ++ [role]) (some value) ?_ (fun declines => own declines.tail) later
        · simpa using next
        · rintro _ ⟨rfl⟩
          exact ⟨role, by simp, value, read, by simpa using absent, rfl⟩

theorem misses_of_containedRoles {roles : List R} {error : AuthError}
    (own : ¬ token.Declines roles error)
    (refused : (token.containedRoles roles).result = refuse error) : token.Misses roles error := by
  have reported : ∀ value, (none : Option R) = some value →
      token.Misses [] (.roleMissing (RoleValue.text value)) := by
    intro value impossible
    cases impossible
  exact misses_of_containedAfter [] roles none reported own refused

theorem unexpected_of_notExpectRoles {roles : List R} {error : AuthError}
    (own : ¬ token.Declines roles error)
    (refused : (token.notExpectRoles roles).result = refuse error) : error = .roleUnexpected := by
  induction roles with
  | nil => cases refused
  | cons role roles ih =>
      unfold notExpectRoles hasRole at refused
      rw [bind_assoc] at refused
      rcases refused_of_wanted own refused with ⟨value, _, later⟩
      simp only [pure_bind] at later
      split at later
      · cases later
        rfl
      · exact ih (fun declines => own declines.tail) later

end Token

/-! ## A parser that reads every name -/

namespace Roles

variable (held : List R)

/-- No held value is the one that is asked for. -/
def lacks (value : R) : Bool :=
  !held.any fun other => RoleValue.same other value

/-- Where all values are required, the first one that is lacking is named. -/
def allFault? (values : List R) : Option AuthError :=
  (values.find? (lacks held)).map missing

/-- Where one value is required and all are lacking, the last one is named. -/
def anyFault? (values : List R) : Option AuthError :=
  if values.all (lacks held) then values.getLast?.map missing else none

/-- Where no value is allowed, one that is held is a fault. -/
def noneFault? (values : List R) : Option AuthError :=
  if values.all (lacks held) then none else some .roleUnexpected

/-- The fault of a requirement: of its three parts the first one that has any. -/
def fault? (requirement : Requirement R) : Option AuthError :=
  (allFault? held requirement.allOf).or <|
    (anyFault? held requirement.anyOf).or (noneFault? held requirement.noneOf)

variable {held} {error : AuthError}

theorem missing_of_allFault? {values : List R} (fault : allFault? held values = some error) :
    ∃ role, error = .roleMissing role := by
  rcases Option.map_eq_some_iff.1 fault with ⟨value, _, rfl⟩
  exact ⟨_, rfl⟩

theorem missing_of_anyFault? {values : List R} (fault : anyFault? held values = some error) :
    ∃ role, error = .roleMissing role := by
  unfold anyFault? at fault
  split at fault
  · rcases Option.map_eq_some_iff.1 fault with ⟨value, _, rfl⟩
    exact ⟨_, rfl⟩
  · cases fault

theorem unexpected_of_noneFault? {values : List R} (fault : noneFault? held values = some error) :
    error = .roleUnexpected := by
  unfold noneFault? at fault
  split at fault
  · cases fault
  · cases fault
    rfl

/-- The fault of a requirement is a missing role or an unexpected one. -/
theorem forRole_of_fault? {requirement : Requirement R}
    (fault : fault? held requirement = some error) : Token.ForRole error := by
  rcases Option.or_eq_some_iff.1 fault with all | ⟨_, later⟩
  · exact Or.inl (missing_of_allFault? all)
  · rcases Option.or_eq_some_iff.1 later with any | ⟨_, none⟩
    · exact Or.inl (missing_of_anyFault? any)
    · exact Or.inr (unexpected_of_noneFault? none)

/-! ## What has no fault -/

/-- One of the held values is the one that is asked for. -/
def Includes (held : List R) (value : R) : Prop :=
  ∃ other ∈ held, RoleValue.same other value = true

/-- Held values are enough for a requirement. -/
structure Suffices (held : List R) (needed : Requirement R) : Prop where
  allOf : ∀ value ∈ needed.allOf, Includes held value
  anyOf : needed.anyOf = [] ∨ ∃ value ∈ needed.anyOf, Includes held value
  noneOf : ∀ value ∈ needed.noneOf, ¬ Includes held value

theorem lacks_iff {value : R} : lacks held value = true ↔ ¬ Includes held value := by
  simp [lacks, Includes]

theorem allFault?_eq_none_iff {values : List R} :
    allFault? held values = none ↔ ∀ value ∈ values, Includes held value := by
  simp only [allFault?, Option.map_eq_none_iff, List.find?_eq_none, lacks_iff, not_not]

theorem noneFault?_eq_none_iff {values : List R} :
    noneFault? held values = none ↔ ∀ value ∈ values, ¬ Includes held value := by
  simp only [noneFault?, ite_eq_left_iff, reduceCtorEq, imp_false, not_not, List.all_eq_true,
    lacks_iff]

/-- No value at all is asked for, or one of them is held. -/
theorem anyFault?_eq_none_iff {values : List R} :
    anyFault? held values = none ↔ values = [] ∨ ∃ value ∈ values, Includes held value := by
  unfold anyFault?
  split
  · rename_i lacking
    simp only [List.all_eq_true, lacks_iff] at lacking
    simpa using fun value member included => absurd included (lacking value member)
  · rename_i found
    simp only [List.all_eq_true, lacks_iff, not_forall, not_not, exists_prop] at found
    simp [found]

theorem fault?_eq_none_iff {needed : Requirement R} :
    fault? held needed = none ↔ Suffices held needed := by
  simp only [fault?, Option.or_eq_none_iff, allFault?_eq_none_iff, anyFault?_eq_none_iff,
    noneFault?_eq_none_iff]
  constructor
  · intro given
    exact ⟨given.1, given.2.1, given.2.2⟩
  · intro given
    exact ⟨given.allOf, given.anyOf, given.noneOf⟩

end Roles

/-- The same requirement on other values. -/
def Requirement.map {R S : Type} (f : R → S) (requirement : Requirement R) : Requirement S :=
  ⟨requirement.allOf.map f, requirement.anyOf.map f, requirement.noneOf.map f⟩

namespace Token

open Roles

variable {token : Token R} {reading : Text → R}

/-- The role values of a token. -/
def values (token : Token R) : List R :=
  token.roles.map Grant.role

theorem not_declines (total : token.roleParser = .total reading) (roles : List R)
    (error : AuthError) : ¬ token.Declines roles error := by
  rintro ⟨role, _, refused⟩
  rw [wanted_eq total] at refused
  cases refused

theorem carries_eq (value : R) : token.carries value = !lacks token.values value := by
  rw [lacks, Bool.not_not, values, List.any_map]
  rfl

theorem result_expectRoles_cons (total : token.roleParser = .total reading) (role : R)
    (roles : List R) :
    (token.expectRoles (role :: roles)).result =
      if token.carries (meant reading role) then (token.expectRoles roles).result
      else refuse (.roleMissing (RoleValue.text (meant reading role))) := by
  rw [expectRoles, wanted_eq total, Traced.bind_ok]
  split <;> rfl

theorem result_expectRoles (total : token.roleParser = .total reading) (roles : List R) :
    (token.expectRoles roles).result =
      stoppedBy (allFault? token.values (roles.map (meant reading))) := by
  induction roles with
  | nil => rfl
  | cons role roles ih =>
      rw [result_expectRoles_cons total, ih, carries_eq, allFault?, allFault?, List.map_cons,
        List.find?_cons]
      cases lacks token.values (meant reading role) <;> rfl

theorem result_containedAfter_cons (total : token.roleParser = .total reading)
    (missing : Option R) (role : R) (roles : List R) :
    (token.containedAfter missing (role :: roles)).result =
      if token.carries (meant reading role) then .ok ()
      else (token.containedAfter (some (meant reading role)) roles).result := by
  rw [containedAfter, wanted_eq total, Traced.bind_ok]
  split <;> rfl

/-- Behind a value that was found missing, one of the others is required. -/
theorem result_containedAfter (total : token.roleParser = .total reading) (last : Option R)
    (roles : List R) :
    (token.containedAfter last roles).result =
      stoppedBy (if (roles.map (meant reading)).all (lacks token.values) then
        ((roles.map (meant reading)).getLast?.or last).map missing else none) := by
  induction roles generalizing last with
  | nil => cases last <;> rfl
  | cons role roles ih =>
      rw [result_containedAfter_cons total, ih, carries_eq, List.map_cons, List.all_cons,
        List.getLast?_cons]
      cases lacks token.values (meant reading role) with
      | false => rfl
      | true => cases (roles.map (meant reading)).getLast? <;> rfl

theorem result_containedRoles (total : token.roleParser = .total reading) (roles : List R) :
    (token.containedRoles roles).result =
      stoppedBy (anyFault? token.values (roles.map (meant reading))) := by
  rw [containedRoles, result_containedAfter total, Option.or_none, anyFault?]

theorem result_notExpectRoles_cons (total : token.roleParser = .total reading) (role : R)
    (roles : List R) :
    (token.notExpectRoles (role :: roles)).result =
      if token.carries (meant reading role) then refuse .roleUnexpected
      else (token.notExpectRoles roles).result := by
  rw [notExpectRoles, hasRole_eq total, Traced.bind_ok]
  split <;> rfl

theorem result_notExpectRoles (total : token.roleParser = .total reading) (roles : List R) :
    (token.notExpectRoles roles).result =
      stoppedBy (noneFault? token.values (roles.map (meant reading))) := by
  induction roles with
  | nil => rfl
  | cons role roles ih =>
      rw [result_notExpectRoles_cons total, ih, carries_eq, noneFault?, noneFault?, List.map_cons,
        List.all_cons]
      cases lacks token.values (meant reading role) <;> rfl

/-- A requirement is refused for its fault, and met where it has none. -/
theorem result_meets (total : token.roleParser = .total reading) (requirement : Requirement R) :
    (token.meets requirement).result =
      stoppedBy (fault? token.values (requirement.map (meant reading))) := by
  rw [meets, Traced.result_bind, result_expectRoles total]
  simp only [Traced.result_bind, result_containedRoles total, result_notExpectRoles total,
    stoppedBy_bind]
  rfl

end Token
end RealmAuth
