import RealmAuth.Proofs.Role.Total

namespace RealmAuth

/-!
How a check goes through the roles that it is asked for.  It takes them in order, has the
names among them read, and stops at the first one that decides: the first that is
lacking where all are required, the first that is held where one is required or none is
allowed.  What lies behind is not read.  So the place where a check stops tells its
outcome as a whole, the names that were read included.  Of the token it sees no more
than how names are read and which roles are carried.
-/

open Outcome

/-- Where not all items are as they should be, there is a first one that is not. -/
theorem exists_first {α : Type} {holds : α → Prop} {items : List α}
    (failing : ¬ ∀ item ∈ items, holds item) :
    ∃ before item after, items = before ++ item :: after ∧
      (∀ earlier ∈ before, holds earlier) ∧ ¬ holds item := by
  induction items with
  | nil => simp at failing
  | cons item items ih =>
      by_cases first : holds item
      · have later : ¬ ∀ other ∈ items, holds other := fun all =>
          failing (List.forall_mem_cons.2 ⟨first, all⟩)
        rcases ih later with ⟨before, other, after, rfl, earlier, lacking⟩
        exact ⟨item :: before, other, after, rfl, List.forall_mem_cons.2 ⟨first, earlier⟩, lacking⟩
      · exact ⟨[], item, items, rfl, by simp, first⟩

variable {R : Type} [RoleValue R]

/-- The refusal for a role that was found missing. -/
def Roles.missing (value : R) : AuthError :=
  .roleMissing (RoleValue.text value)

namespace Token

open Roles

variable {token : Token R} {reading : Text → R} {before after roles : List R} {role : R}

/-! ## All roles -/

/-- To require roles in two lists is to require them one list after the other. -/
theorem expectRoles_append (token : Token R) (first second : List R) :
    token.expectRoles (first ++ second) =
      token.expectRoles first >>= fun _ => token.expectRoles second := by
  induction first with
  | nil => exact (pure_bind () fun _ => token.expectRoles second).symm
  | cons role roles ih =>
      rw [List.cons_append, expectRoles, expectRoles, bind_assoc]
      congr 1
      funext value
      split
      · exact ih
      · rfl

theorem expectRoles_of_held (total : token.roleParser = .total reading)
    (held : ∀ role ∈ roles, token.Holds reading role) :
    token.expectRoles roles = ⟨names roles, .ok ()⟩ := by
  induction roles with
  | nil => rfl
  | cons role roles ih =>
      rw [List.forall_mem_cons] at held
      rw [expectRoles, wanted_eq total, Traced.bind_ok, if_pos (carries_meant_iff.2 held.1),
        ih held.2, ← names_append]
      rfl

theorem expectRoles_of_first (total : token.roleParser = .total reading)
    (held : ∀ earlier ∈ before, token.Holds reading earlier)
    (lacking : ¬ token.Holds reading role) :
    token.expectRoles (before ++ role :: after) =
      ⟨names (before ++ [role]), refuse (missing (meant reading role))⟩ := by
  have stops : token.expectRoles (role :: after) =
      ⟨names [role], refuse (missing (meant reading role))⟩ := by
    rw [expectRoles, wanted_eq total, Traced.bind_ok, if_neg (mt carries_meant_iff.1 lacking)]
    simp [Traced.refuse, Traced.lift, refuse, missing]
  rw [expectRoles_append, expectRoles_of_held total held, Traced.bind_ok, stops, names_append]

/-! ## No role -/

/-- To exclude roles in two lists is to exclude them one list after the other. -/
theorem notExpectRoles_append (token : Token R) (first second : List R) :
    token.notExpectRoles (first ++ second) =
      token.notExpectRoles first >>= fun _ => token.notExpectRoles second := by
  induction first with
  | nil => exact (pure_bind () fun _ => token.notExpectRoles second).symm
  | cons role roles ih =>
      rw [List.cons_append, notExpectRoles, notExpectRoles, bind_assoc]
      congr 1
      funext held
      cases held with
      | true => rfl
      | false => exact ih

theorem notExpectRoles_of_lacking (total : token.roleParser = .total reading)
    (lacking : ∀ role ∈ roles, ¬ token.Holds reading role) :
    token.notExpectRoles roles = ⟨names roles, .ok ()⟩ := by
  induction roles with
  | nil => rfl
  | cons role roles ih =>
      rw [List.forall_mem_cons, ← carries_meant_iff] at lacking
      rw [notExpectRoles, hasRole_eq total, Traced.bind_ok, if_neg lacking.1, ih lacking.2,
        ← names_append]
      rfl

theorem notExpectRoles_of_first (total : token.roleParser = .total reading)
    (lacking : ∀ earlier ∈ before, ¬ token.Holds reading earlier)
    (held : token.Holds reading role) :
    token.notExpectRoles (before ++ role :: after) =
      ⟨names (before ++ [role]), refuse .roleUnexpected⟩ := by
  have stops : token.notExpectRoles (role :: after) = ⟨names [role], refuse .roleUnexpected⟩ := by
    rw [notExpectRoles, hasRole_eq total, Traced.bind_ok, if_pos (carries_meant_iff.2 held)]
    simp [Traced.refuse, Traced.lift, refuse]
  rw [notExpectRoles_append, notExpectRoles_of_lacking total lacking, Traced.bind_ok, stops,
    names_append]

/-! ## One role -/

theorem containedAfter_of_held (total : token.roleParser = .total reading) (last : Option R)
    (held : token.Holds reading role) :
    token.containedAfter last (role :: after) = ⟨names [role], .ok ()⟩ := by
  rw [containedAfter, wanted_eq total, Traced.bind_ok, if_pos (carries_meant_iff.2 held)]
  simp

/-- Roles that are lacking are read, and the last of them is kept in mind. -/
theorem containedAfter_of_lacking (total : token.roleParser = .total reading) (last : Option R)
    (lacking : ∀ earlier ∈ before, ¬ token.Holds reading earlier) (after : List R) :
    token.containedAfter last (before ++ after) =
      (⟨names before, .ok ()⟩ : Traced Unit) >>= fun _ =>
        token.containedAfter ((before.getLast?.map (meant reading)).or last) after := by
  induction before generalizing last with
  | nil => exact (pure_bind () fun _ => token.containedAfter last after).symm
  | cons role roles ih =>
      rw [List.forall_mem_cons, ← carries_meant_iff] at lacking
      have kept : ((roles.getLast?.map (meant reading)).or (some (meant reading role))) =
          (((role :: roles).getLast?.map (meant reading)).or last) := by
        rw [List.getLast?_cons]
        cases roles.getLast? <;> rfl
      rw [List.cons_append, containedAfter, wanted_eq total, Traced.bind_ok, if_neg lacking.1,
        ih _ lacking.2, kept, Traced.bind_ok, Traced.bind_ok, ← List.append_assoc, ← names_append]
      rfl

/-- The search for one role ends well at the first role that is held. -/
theorem containedRoles_of_first (total : token.roleParser = .total reading)
    (lacking : ∀ earlier ∈ before, ¬ token.Holds reading earlier)
    (held : token.Holds reading role) :
    token.containedRoles (before ++ role :: after) = ⟨names (before ++ [role]), .ok ()⟩ := by
  rw [containedRoles, containedAfter_of_lacking total none lacking, Traced.bind_ok,
    containedAfter_of_held total _ held, names_append]

/-- Where all roles are lacking, the last one is reported. -/
theorem containedRoles_of_lacking (total : token.roleParser = .total reading)
    (lacking : ∀ other ∈ before ++ [role], ¬ token.Holds reading other) :
    token.containedRoles (before ++ [role]) =
      ⟨names (before ++ [role]), refuse (missing (meant reading role))⟩ := by
  have walked := containedAfter_of_lacking total none lacking []
  rw [List.append_nil, List.getLast?_concat] at walked
  rw [containedRoles, walked]
  simp [containedAfter, Traced.refuse, Traced.lift, refuse, missing]

/-! ## Endings -/

section Endings

variable (held : R → Prop) (reading : Text → R)

/-- How the check ends that all roles are held. -/
inductive EndsAll : List R → Traced Unit → Prop where
  | passed {roles : List R} (all : ∀ role ∈ roles, held role) : EndsAll roles ⟨names roles, .ok ()⟩
  /-- The first role that is not held is reported. -/
  | stopped {before after : List R} {role : R} (earlier : ∀ other ∈ before, held other)
      (lacking : ¬ held role) :
      EndsAll (before ++ role :: after)
        ⟨names (before ++ [role]), refuse (missing (meant reading role))⟩

/-- How the check ends that one of some roles is held, if there are any. -/
inductive EndsAny : List R → Traced Unit → Prop where
  | empty : EndsAny [] ⟨[], .ok ()⟩
  | found {before after : List R} {role : R} (earlier : ∀ other ∈ before, ¬ held other)
      (present : held role) : EndsAny (before ++ role :: after) ⟨names (before ++ [role]), .ok ()⟩
  /-- Where no role is held, the last one is reported. -/
  | exhausted {before : List R} {last : R} (lacking : ∀ other ∈ before ++ [last], ¬ held other) :
      EndsAny (before ++ [last])
        ⟨names (before ++ [last]), refuse (missing (meant reading last))⟩

/-- How the check ends that no role is held. -/
inductive EndsNone : List R → Traced Unit → Prop where
  | passed {roles : List R} (lacking : ∀ role ∈ roles, ¬ held role) :
      EndsNone roles ⟨names roles, .ok ()⟩
  /-- The first role that is held stops the check; it is not reported. -/
  | stopped {before after : List R} {role : R} (earlier : ∀ other ∈ before, ¬ held other)
      (present : held role) :
      EndsNone (before ++ role :: after) ⟨names (before ++ [role]), refuse .roleUnexpected⟩

end Endings

theorem endsAll_expectRoles (total : token.roleParser = .total reading) (roles : List R) :
    EndsAll (token.Holds reading) reading roles (token.expectRoles roles) := by
  by_cases all : ∀ role ∈ roles, token.Holds reading role
  · rw [expectRoles_of_held total all]
    exact .passed all
  · rcases exists_first all with ⟨before, role, after, rfl, earlier, lacking⟩
    rw [expectRoles_of_first total earlier lacking]
    exact .stopped earlier lacking

/-- Where not all roles are lacking, there is a first one that is held. -/
theorem exists_first_held {token : Token R} {roles : List R}
    (some : ¬ ∀ role ∈ roles, ¬ token.Holds reading role) :
    ∃ before role after, roles = before ++ role :: after ∧
      (∀ earlier ∈ before, ¬ token.Holds reading earlier) ∧ token.Holds reading role := by
  rcases exists_first some with ⟨before, role, after, split, earlier, present⟩
  exact ⟨before, role, after, split, earlier, Classical.not_not.1 present⟩

theorem endsAny_containedRoles (total : token.roleParser = .total reading) (roles : List R) :
    EndsAny (token.Holds reading) reading roles (token.containedRoles roles) := by
  by_cases none : ∀ role ∈ roles, ¬ token.Holds reading role
  · rcases List.eq_nil_or_concat roles with rfl | ⟨before, last, rfl⟩
    · exact .empty
    · rw [List.concat_eq_append] at none ⊢
      rw [containedRoles_of_lacking total none]
      exact .exhausted none
  · rcases exists_first_held none with ⟨before, role, after, rfl, earlier, present⟩
    rw [containedRoles_of_first total earlier present]
    exact .found earlier present

theorem endsNone_notExpectRoles (total : token.roleParser = .total reading) (roles : List R) :
    EndsNone (token.Holds reading) roles (token.notExpectRoles roles) := by
  by_cases none : ∀ role ∈ roles, ¬ token.Holds reading role
  · rw [notExpectRoles_of_lacking total none]
    exact .passed none
  · rcases exists_first_held none with ⟨before, role, after, rfl, earlier, present⟩
    rw [notExpectRoles_of_first total earlier present]
    exact .stopped earlier present

/-! ## What a check finds -/

section Finds

variable {held : R → Prop} {outcome : Traced Unit}

theorem EndsAll.ok_iff (ends : EndsAll held reading roles outcome) :
    outcome.result = .ok () ↔ ∀ role ∈ roles, held role := by
  cases ends with
  | passed all => exact iff_of_true rfl all
  | stopped _ lacking => exact iff_of_false refuse_ne_ok fun all => lacking (all _ (by simp))

theorem EndsAll.refuses (ends : EndsAll held reading roles outcome) :
    Refuses (fun error => ∃ role, error = .roleMissing role) outcome.result := by
  cases ends with
  | passed _ => trivial
  | stopped _ _ => exact ⟨_, rfl⟩

theorem EndsAny.ok_iff (ends : EndsAny held reading roles outcome) :
    outcome.result = .ok () ↔ roles = [] ∨ ∃ role ∈ roles, held role := by
  cases ends with
  | empty => exact iff_of_true rfl (Or.inl rfl)
  | found _ present => exact iff_of_true rfl (Or.inr ⟨_, by simp, present⟩)
  | exhausted lacking =>
      apply iff_of_false refuse_ne_ok
      rintro (none | ⟨role, member, present⟩)
      · simp at none
      · exact lacking role member present

theorem EndsAny.refuses (ends : EndsAny held reading roles outcome) :
    Refuses ForRole outcome.result := by
  cases ends with
  | empty => trivial
  | found _ _ => trivial
  | exhausted _ => exact Or.inl ⟨_, rfl⟩

theorem EndsNone.ok_iff (ends : EndsNone held roles outcome) :
    outcome.result = .ok () ↔ ∀ role ∈ roles, ¬ held role := by
  cases ends with
  | passed lacking => exact iff_of_true rfl lacking
  | stopped _ present =>
      exact iff_of_false refuse_ne_ok fun lacking => lacking _ (by simp) present

theorem EndsNone.refuses (ends : EndsNone held roles outcome) :
    Refuses ForRole outcome.result := by
  cases ends with
  | passed _ => trivial
  | stopped _ _ => exact Or.inr rfl

end Finds

theorem expectRoles_ok_iff (total : token.roleParser = .total reading) :
    (token.expectRoles roles).result = .ok () ↔ ∀ role ∈ roles, token.Holds reading role :=
  (endsAll_expectRoles total roles).ok_iff

theorem containedRoles_ok_iff (total : token.roleParser = .total reading) :
    (token.containedRoles roles).result = .ok () ↔
      roles = [] ∨ ∃ role ∈ roles, token.Holds reading role :=
  (endsAny_containedRoles total roles).ok_iff

theorem notExpectRoles_ok_iff (total : token.roleParser = .total reading) :
    (token.notExpectRoles roles).result = .ok () ↔ ∀ role ∈ roles, ¬ token.Holds reading role :=
  (endsNone_notExpectRoles total roles).ok_iff

/-- Where all roles are required, a check fails for the first that is lacking. -/
theorem expectRoles_error_iff (total : token.roleParser = .total reading) {failure : Failure} :
    (token.expectRoles roles).result = .error failure ↔
      ∃ before role after, roles = before ++ role :: after ∧
        (∀ earlier ∈ before, token.Holds reading earlier) ∧ ¬ token.Holds reading role ∧
          failure = .refused (missing (meant reading role)) := by
  constructor
  · intro stopped
    have ends := endsAll_expectRoles total roles
    generalize token.expectRoles roles = outcome at ends stopped
    cases ends with
    | passed _ => cases stopped
    | stopped earlier lacking =>
        cases stopped
        exact ⟨_, _, _, rfl, earlier, lacking, rfl⟩
  · intro given
    rcases given with ⟨before, role, after, rfl, held, lacking, rfl⟩
    rw [expectRoles_of_first total held lacking]
    rfl

/-- Where one of some roles is required, a check fails for the last, if none is held. -/
theorem containedRoles_error_iff (total : token.roleParser = .total reading) {failure : Failure} :
    (token.containedRoles roles).result = .error failure ↔
      ∃ before last, roles = before ++ [last] ∧ (∀ role ∈ roles, ¬ token.Holds reading role) ∧
        failure = .refused (missing (meant reading last)) := by
  constructor
  · intro stopped
    have ends := endsAny_containedRoles total roles
    generalize token.containedRoles roles = outcome at ends stopped
    cases ends with
    | empty => cases stopped
    | found _ _ => cases stopped
    | exhausted lacking =>
        cases stopped
        exact ⟨_, _, rfl, lacking, rfl⟩
  · intro given
    rcases given with ⟨before, last, rfl, lacking, rfl⟩
    rw [containedRoles_of_lacking total lacking]
    rfl

/-- Where no role is allowed, a check fails if one is held, whichever it is. -/
theorem notExpectRoles_error_iff (total : token.roleParser = .total reading) {failure : Failure} :
    (token.notExpectRoles roles).result = .error failure ↔
      (∃ role ∈ roles, token.Holds reading role) ∧ failure = .refused .roleUnexpected := by
  constructor
  · intro stopped
    have ends := endsNone_notExpectRoles total roles
    generalize token.notExpectRoles roles = outcome at ends stopped
    cases ends with
    | passed _ => cases stopped
    | stopped _ present =>
        cases stopped
        exact ⟨⟨_, by simp, present⟩, rfl⟩
  · intro given
    rcases given with ⟨⟨role, member, held⟩, rfl⟩
    have some : ¬ ∀ role ∈ roles, ¬ token.Holds reading role := fun none => none role member held
    rcases exists_first_held some with ⟨before, first, after, rfl, earlier, present⟩
    rw [notExpectRoles_of_first total earlier present]
    rfl

/-! ## Requirements -/

theorem meets_ok_iff (total : token.roleParser = .total reading) {requirement : Requirement R} :
    (token.meets requirement).result = .ok () ↔ token.Meets reading requirement := by
  unfold meets
  simp only [Traced.result_bind, bind_eq_ok_iff, expectRoles_ok_iff total,
    containedRoles_ok_iff total, notExpectRoles_ok_iff total]
  constructor
  · intro given
    rcases given with ⟨_, all, _, any, none⟩
    exact ⟨all, any, none⟩
  · intro given
    rcases given with ⟨all, any, none⟩
    exact ⟨(), all, (), any, none⟩

theorem refuses_meets (total : token.roleParser = .total reading) (requirement : Requirement R) :
    Refuses ForRole (token.meets requirement).result := by
  unfold meets
  simp only [Traced.result_bind]
  have required : Refuses ForRole (token.expectRoles requirement.allOf).result :=
    (endsAll_expectRoles total requirement.allOf).refuses.mono fun _ => Or.inl
  apply required.bind
  intro _ _
  apply (endsAny_containedRoles total requirement.anyOf).refuses.bind
  intro _ _
  exact (endsNone_notExpectRoles total requirement.noneOf).refuses

/-- A token that meets all requirements is handed on as it is. -/
theorem authorize_ok_iff (total : token.roleParser = .total reading)
    {requirements : List (Requirement R)} {other : Token R} :
    (token.authorize requirements).result = .ok other ↔
      (∀ requirement ∈ requirements, token.Meets reading requirement) ∧ token = other := by
  induction requirements with
  | nil => simp [authorize]
  | cons requirement requirements ih =>
      rw [authorize, Traced.result_bind, bind_eq_ok_iff, List.forall_mem_cons, and_assoc,
        ← ih, ← meets_ok_iff total]
      constructor
      · intro given
        rcases given with ⟨_, met, rest⟩
        exact ⟨met, rest⟩
      · intro given
        exact ⟨(), given⟩

theorem refuses_authorize (total : token.roleParser = .total reading)
    (requirements : List (Requirement R)) :
    Refuses ForRole (token.authorize requirements).result := by
  induction requirements with
  | nil => trivial
  | cons requirement requirements ih =>
      rw [authorize, Traced.result_bind]
      exact (refuses_meets total requirement).bind fun _ _ => ih

/-! ## Tokens that are alike for all checks -/

/-- Tokens that read names in the same way and carry the same roles. -/
structure Alike (token other : Token R) : Prop where
  roleParser : other.roleParser = token.roleParser
  carries : ∀ role, other.carries role = token.carries role

namespace Alike

variable {other : Token R} (alike : token.Alike other)

include alike

theorem wanted (role : R) : other.wanted role = token.wanted role := by
  unfold Token.wanted
  rw [alike.roleParser]

theorem expectRoles (roles : List R) : other.expectRoles roles = token.expectRoles roles := by
  induction roles with
  | nil => rfl
  | cons role roles ih =>
      unfold Token.expectRoles
      simp only [alike.wanted, alike.carries, ih]

theorem containedRoles (roles : List R) :
    other.containedRoles roles = token.containedRoles roles := by
  unfold Token.containedRoles
  generalize (none : Option R) = last
  induction roles generalizing last with
  | nil => rfl
  | cons role roles ih =>
      unfold Token.containedAfter
      simp only [alike.wanted, alike.carries, ih]

theorem notExpectRoles (roles : List R) :
    other.notExpectRoles roles = token.notExpectRoles roles := by
  induction roles with
  | nil => rfl
  | cons role roles ih =>
      unfold Token.notExpectRoles hasRole
      simp only [alike.wanted, alike.carries, ih]

theorem meets (requirement : Requirement R) :
    other.meets requirement = token.meets requirement := by
  unfold Token.meets
  rw [alike.expectRoles, alike.containedRoles, alike.notExpectRoles]

end Alike

end Token
end RealmAuth
