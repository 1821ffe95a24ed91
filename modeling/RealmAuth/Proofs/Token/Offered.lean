import RealmAuth.Proofs.Token.Authorization

namespace RealmAuth

/-!
Requirements that are made of offers.  Roles that are listed are taken as they are, in their
order and as often as they are listed, so a requirement is made again from its own lists.
A text is one role, and to offer it is to list this role alone.  The empty text is the
exception: it counts as absent before it can be taken for a role, and what is made of it
requires nothing.
-/

open Outcome

namespace Offer

variable {R : Type} (ofText : Text → R)

theorem roles_listed (roles : List R) : (listed roles).roles ofText = roles := by
  cases roles <;> rfl

theorem roles_text {name : Text} (given : name ≠ "") :
    (text name).roles ofText = [ofText name] := by
  have full : (text name : Offer R).isEmpty = false := by
    simpa [isEmpty] using given
  rw [roles, full]
  rfl

theorem roles_text_empty : (text "").roles ofText = [] :=
  rfl

/-- A text is offered as the one role that it is, unless it is empty. -/
theorem roles_text_eq_iff {name : Text} :
    (text name).roles ofText = (listed [ofText name]).roles ofText ↔ name ≠ "" := by
  rw [roles_listed]
  constructor
  · rintro same rfl
    rw [roles_text_empty] at same
    cases same
  · exact roles_text ofText

/-- The items of an array are offered as they are, one that has no items included. -/
theorem ofValue_array {ε : Type} (items : List Json) :
    (ofValue (.array items) : Except (Halt ε) (Offer AppRole)) = .ok (listed (items.map .data)) := by
  cases items <;> rfl

end Offer

namespace Requirement

variable {R : Type} (ofText : Text → R)

/-- What is wanted of one kind alone, with nothing offered for the other two. -/
theorem ofOffers_alone (offer : Offer R) :
    ofOffers ofText offer .nothing .nothing = .requireAll (offer.roles ofText) ∧
      ofOffers ofText .nothing offer .nothing = .requireAny (offer.roles ofText) ∧
      ofOffers ofText .nothing .nothing offer = .forbid (offer.roles ofText) :=
  ⟨rfl, rfl, rfl⟩

theorem ofOffers_listed (requirement : Requirement R) :
    ofOffers ofText (.listed requirement.allOf) (.listed requirement.anyOf)
      (.listed requirement.noneOf) = requirement := by
  simp only [ofOffers, Offer.roles_listed]

theorem ofOffers_text_iff (name : Text) (allOf anyOf noneOf : Offer R) :
    (ofOffers ofText (.text name) anyOf noneOf =
        ofOffers ofText (.listed [ofText name]) anyOf noneOf ↔ name ≠ "") ∧
      (ofOffers ofText allOf (.text name) noneOf =
        ofOffers ofText allOf (.listed [ofText name]) noneOf ↔ name ≠ "") ∧
      (ofOffers ofText allOf anyOf (.text name) =
        ofOffers ofText allOf anyOf (.listed [ofText name]) ↔ name ≠ "") := by
  simp only [ofOffers, Requirement.mk.injEq, Offer.roles_text_eq_iff, and_true, true_and, and_self]

/-- The requirement that requires nothing. -/
def free : Requirement R := ⟨[], [], []⟩

end Requirement

namespace Token

open Requirement

variable {R : Type} [RoleValue R]

/-- To require one kind of roles alone is to run its check. -/
theorem authorize_alone (token : Token R) (roles : List R) :
    token.authorize [.requireAll roles] = (fun _ => token) <$> token.expectRoles roles ∧
      token.authorize [.requireAny roles] = (fun _ => token) <$> token.containedRoles roles ∧
      token.authorize [.forbid roles] = (fun _ => token) <$> token.notExpectRoles roles := by
  have one : ∀ requirement, token.authorize [requirement] =
      (fun _ => token) <$> token.meets requirement := by
    intro requirement
    exact (map_eq_pure_bind _ _).symm
  simp only [one, meets_requireAll, meets_requireAny, meets_forbid, and_self]

/-- A token is handed on by a requirement that requires nothing, and reads no name for it. -/
theorem authorize_free (token : Token R) : token.authorize [free] = pure token :=
  rfl

/--
The requirements that offers make.  A text makes the same requirement as a list of the one
role that it is exactly if it is not empty, in each of the three places and whatever is
offered for the other two.  Such a text, offered alone, is required as by the requirement
of its kind, and a token is checked for it as by the check of this kind, with the same
outcome and the same names read.  The empty text requires nothing, of any token.  Listed
roles are taken as they are, and a requirement is made again of its own lists.  Of the
values of an application, a text is offered as a text and an array by its items.
-/
theorem requirements_of_offers (ofText : Text → R) :
    (∀ name allOf anyOf noneOf,
      (ofOffers ofText (.text name) anyOf noneOf =
          ofOffers ofText (.listed [ofText name]) anyOf noneOf ↔ name ≠ "") ∧
        (ofOffers ofText allOf (.text name) noneOf =
          ofOffers ofText allOf (.listed [ofText name]) noneOf ↔ name ≠ "") ∧
        (ofOffers ofText allOf anyOf (.text name) =
          ofOffers ofText allOf anyOf (.listed [ofText name]) ↔ name ≠ "")) ∧
    (∀ name : Text, name ≠ "" →
      ofOffers ofText (.text name) .nothing .nothing = .requireAll [ofText name] ∧
      ofOffers ofText .nothing (.text name) .nothing = .requireAny [ofText name] ∧
      ofOffers ofText .nothing .nothing (.text name) = .forbid [ofText name] ∧
      ∀ token : Token R,
        token.authorize [ofOffers ofText (.text name) .nothing .nothing] =
            (fun _ => token) <$> token.expectRoles [ofText name] ∧
          token.authorize [ofOffers ofText .nothing (.text name) .nothing] =
            (fun _ => token) <$> token.containedRoles [ofText name] ∧
          token.authorize [ofOffers ofText .nothing .nothing (.text name)] =
            (fun _ => token) <$> token.notExpectRoles [ofText name]) ∧
    (ofOffers ofText (.text "") .nothing .nothing = free ∧
      ofOffers ofText .nothing (.text "") .nothing = free ∧
      ofOffers ofText .nothing .nothing (.text "") = free ∧
      ∀ token : Token R, token.authorize [free] = pure token) ∧
    (∀ roles : List R,
      ofOffers ofText (.listed roles) .nothing .nothing = .requireAll roles ∧
        ofOffers ofText .nothing (.listed roles) .nothing = .requireAny roles ∧
        ofOffers ofText .nothing .nothing (.listed roles) = .forbid roles) ∧
    (∀ allOf anyOf noneOf : List R,
      ofOffers ofText (.listed allOf) (.listed anyOf) (.listed noneOf) = ⟨allOf, anyOf, noneOf⟩) ∧
    (∀ requirement : Requirement R,
      ofOffers ofText (.listed requirement.allOf) (.listed requirement.anyOf)
        (.listed requirement.noneOf) = requirement) ∧
    (∀ name items,
      (Offer.ofValue (.string name) : Except Failure (Offer AppRole)) = .ok (.text name) ∧
        (Offer.ofValue (.array items) : Except Failure (Offer AppRole)) =
          .ok (.listed (items.map .data))) := by
  refine ⟨ofOffers_text_iff ofText, ?_, ?_, ?_, ?_, ofOffers_listed ofText, ?_⟩
  · intro name given
    rcases ofOffers_alone ofText (.text name) with ⟨all, any, none⟩
    rw [Offer.roles_text ofText given] at all any none
    rw [all, any, none]
    exact ⟨rfl, rfl, rfl, fun token => token.authorize_alone [ofText name]⟩
  · exact ⟨rfl, rfl, rfl, authorize_free⟩
  · intro roles
    rcases ofOffers_alone ofText (.listed roles) with ⟨all, any, none⟩
    rw [all, any, none, Offer.roles_listed]
    exact ⟨rfl, rfl, rfl⟩
  · intro allOf anyOf noneOf
    exact ofOffers_listed ofText ⟨allOf, anyOf, noneOf⟩
  · intro name items
    exact ⟨rfl, Offer.ofValue_array items⟩

/-- An editor is checked for a role that is offered as a text, and reads its name once. -/
theorem requirements_of_offers_editor :
    Text.plain "Editor" ≠ "" ∧
      ofOffers id (.text "Editor") .nothing .nothing = .requireAll ["Editor"] ∧
      (editor.authorize [ofOffers id (.text "Editor") .nothing .nothing]).result = .ok editor ∧
      (editor.authorize [ofOffers id .nothing .nothing (.text "Editor")]).result =
        refuse .roleUnexpected := by
  have given : Text.plain "Editor" ≠ "" := by decide
  rcases requirements_of_offers (id : Text → Text) with ⟨_, texts, _⟩
  rcases texts "Editor" given with ⟨all, _, _, checks⟩
  rcases checks editor with ⟨required, _, forbidden⟩
  refine ⟨given, all, ?_, ?_⟩
  · rw [required]
    rfl
  · rw [forbidden]
    rfl

/--
The empty text and the list of it are different offers.  The one is a requirement that every
token meets; the other is refused where no role of this name is held.
-/
theorem empty_text_requires_nothing :
    let token : Token AppRole := issued AppRole.ofText editorClaims
    let listed : Requirement AppRole := .requireAll [AppRole.ofText ""]
    (ofValues (.string "") .null .null : Except Failure (Requirement AppRole)) = .ok free ∧
      (ofValues (.array [.string ""]) .null .null : Except Failure (Requirement AppRole)) =
        .ok listed ∧
      Requirement.same free listed = false ∧
      (token.authorize [free]).result = .ok token ∧
      (token.expectRoles [AppRole.ofText ""]).result = refuse (.roleMissing "") ∧
      (token.authorize [listed]).result = refuse (.roleMissing "") := by
  refine ⟨rfl, rfl, rfl, rfl, ?_, ?_⟩
  · rfl
  · rfl

end Token
end RealmAuth
