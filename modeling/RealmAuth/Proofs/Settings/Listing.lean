import Mathlib.Data.List.Forall2
import RealmAuth.Proofs.Outcome
import RealmAuth.Proofs.Text.Trim
import RealmAuth.Settings

namespace RealmAuth
namespace Settings

/-!
Settings that an environment lists.  How a text lists items is said here without reading
it: pieces stand between commas, and a piece is an item with blanks around it, or blanks
alone.  Such a text lists the items of its pieces in order, and the reading of comma lists
finds exactly these.  The settings of an environment are then a matter of three variables,
two of which have to give something.
-/

/-- An item of a comma list: something without a comma, and without blanks at its ends. -/
structure IsItem (item : List Char) : Prop where
  something : item ≠ []
  whole : ',' ∉ item
  trimmed : Text.Trimmed item

/-- What a piece between commas holds. -/
inductive Holds : List Char → List (List Char) → Prop where
  | blanks {piece : List Char} (blank : Text.Blank piece) : Holds piece []
  | item {before item after : List Char} (blankBefore : Text.Blank before) (isItem : IsItem item)
      (blankAfter : Text.Blank after) : Holds (before ++ item ++ after) [item]

/-- A text lists items, piece by piece. -/
inductive Lists : List Char → List (List Char) → Prop where
  | last {piece : List Char} {held : List (List Char)} (holds : Holds piece held) :
      Lists piece held
  | more {piece rest : List Char} {held others : List (List Char)} (holds : Holds piece held)
      (further : Lists rest others) : Lists (piece ++ ',' :: rest) (held ++ others)

/-! ## Pieces -/

theorem comma_not_mem_of_blank {cs : List Char} (blank : Text.Blank cs) : ',' ∉ cs := by
  intro member
  have comma := blank ',' member
  revert comma
  decide

theorem Holds.comma_not_mem {piece : List Char} {held : List (List Char)}
    (holds : Holds piece held) : ',' ∉ piece := by
  cases holds with
  | blanks blank => exact comma_not_mem_of_blank blank
  | item blankBefore isItem blankAfter =>
      simp only [List.mem_append, not_or]
      exact ⟨⟨comma_not_mem_of_blank blankBefore, isItem.whole⟩, comma_not_mem_of_blank blankAfter⟩

theorem Holds.items {piece : List Char} {held : List (List Char)} (holds : Holds piece held) :
    [Text.strip piece].filter (fun item => !item.isEmpty) = held := by
  cases holds with
  | blanks blank =>
      rw [Text.strip_of_blank blank]
      rfl
  | @item before item after blankBefore isItem blankAfter =>
      rw [Text.strip_padded blankBefore isItem.trimmed blankAfter]
      cases item with
      | nil => exact absurd rfl isItem.something
      | cons c item => rfl

/-- Between two commas there are blanks alone, or blanks around an item. -/
theorem exists_holds {piece : List Char} (clean : ',' ∉ piece) :
    ∃ held, Holds piece held := by
  rcases Text.exists_strip_padded piece with ⟨before, after, blankBefore, blankAfter, shape⟩
  by_cases empty : Text.strip piece = []
  · rw [empty, List.append_nil] at shape
    rw [shape]
    exact ⟨[], .blanks (List.forall_mem_append.2 ⟨blankBefore, blankAfter⟩)⟩
  · rw [shape] at clean ⊢
    simp only [List.mem_append, not_or] at clean
    exact ⟨_, .item blankBefore ⟨empty, clean.1.2, Text.trimmed_strip piece⟩ blankAfter⟩

/-! ## Lists -/

/-- What a text lists is what is read from it. -/
theorem Lists.items_eq {cs : List Char} {held : List (List Char)} (lists : Lists cs held) :
    items cs = held := by
  induction lists with
  | last holds =>
      rw [items, Text.pieces_of_clean holds.comma_not_mem]
      exact holds.items
  | more holds _ ih =>
      rw [items] at ih
      rw [items, Text.pieces_append holds.comma_not_mem, ← List.singleton_append, List.map_append,
        List.filter_append, ih, ← holds.items]
      rfl

/-- Pieces that are joined list what they hold, whatever blanks they were given. -/
theorem lists_join {parts : List (List Char)} {held : List (List (List Char))} (some : parts ≠ [])
    (holds : List.Forall₂ Holds parts held) : Lists (Text.join ',' parts) held.flatten := by
  induction holds with
  | nil => exact absurd rfl some
  | @cons part first parts others holds further ih =>
      cases further with
      | nil =>
          rw [List.flatten_cons, List.flatten_nil, List.append_nil]
          exact .last holds
      | cons next further => exact .more holds (ih (List.cons_ne_nil _ _))

theorem exists_forall₂_holds {parts : List (List Char)} (clean : ∀ part ∈ parts, ',' ∉ part) :
    ∃ held, List.Forall₂ Holds parts held := by
  induction parts with
  | nil => exact ⟨[], .nil⟩
  | cons part parts ih =>
      rw [List.forall_mem_cons] at clean
      rcases exists_holds clean.1 with ⟨held, holds⟩
      rcases ih clean.2 with ⟨others, further⟩
      exact ⟨held :: others, .cons holds further⟩

/-- Every text lists something. -/
theorem exists_lists (cs : List Char) : ∃ held, Lists cs held := by
  have clean : ∀ part ∈ Text.pieces ',' cs, ',' ∉ part := fun _ member =>
    Text.separator_not_mem_pieces member
  rcases exists_forall₂_holds clean with ⟨held, holds⟩
  have lists := lists_join (Text.pieces_ne_nil ',' cs) holds
  rw [Text.join_pieces] at lists
  exact ⟨held.flatten, lists⟩

/-- Reading a comma list finds what the text lists, and nothing else. -/
theorem items_eq_iff {cs : List Char} {held : List (List Char)} :
    items cs = held ↔ Lists cs held := by
  constructor
  · rintro rfl
    rcases exists_lists cs with ⟨held, lists⟩
    rwa [lists.items_eq]
  · exact Lists.items_eq

theorem Lists.isItem {cs : List Char} {held : List (List Char)} (lists : Lists cs held) :
    ∀ item ∈ held, IsItem item := by
  have single : ∀ {piece : List Char} {held : List (List Char)}, Holds piece held →
      ∀ item ∈ held, IsItem item := by
    intro piece held holds
    cases holds with
    | blanks blank => simp
    | item _ isItem _ => simpa using isItem
  induction lists with
  | last holds => exact single holds
  | more holds _ ih => exact List.forall_mem_append.2 ⟨single holds, ih⟩

/-! ## Environments -/

/-- What a variable of an environment lists; one that is not set lists nothing. -/
inductive ListedBy (environment : Environment) (variableName : String) : List String → Prop where
  | unset (absent : environment.lookup variableName = none) : ListedBy environment variableName []
  | set {text : String} {listed : List String} (given : environment.lookup variableName = some text)
      (lists : Lists text.toList (listed.map String.toList)) :
      ListedBy environment variableName listed

/-- The environment gives a key of the realm, which is some text. -/
def GivesKey (environment : Environment) (key : String) : Prop :=
  environment.lookup keyVariable = some key ∧ key ≠ ""

/-- The required variables that give nothing, in their order. -/
inductive Missing (environment : Environment) : List String → Prop where
  | key {audiences : List String} (keyless : ∀ key, ¬ GivesKey environment key)
      (listed : ListedBy environment audiencesVariable audiences) (some : audiences ≠ []) :
      Missing environment [keyVariable]
  | audiences {key : String} (given : GivesKey environment key)
      (none : ListedBy environment audiencesVariable []) : Missing environment [audiencesVariable]
  | both (keyless : ∀ key, ¬ GivesKey environment key)
      (none : ListedBy environment audiencesVariable []) :
      Missing environment [keyVariable, audiencesVariable]

/-- What the settings of an environment are, or why there are none. -/
inductive GivenBy {ε : Type} (environment : Environment) : Except (Halt ε) Settings → Prop where
  | missing {names : List String} (missing : Missing environment names) :
      GivenBy environment
        (escape (.missingSettings ("Missing Keycloak auth settings: " ++ ", ".intercalate names)))
  | settings {key : String} {audiences roles : List String} (given : GivesKey environment key)
      (expected : ListedBy environment audiencesVariable audiences) (some : audiences ≠ [])
      (required : ListedBy environment rolesVariable roles) :
      GivenBy environment (.ok {
        realmPublicKey := .string key
        expectedAudiences := .array (audiences.map fun audience => .string (.plain audience))
        requiredRoles := .array (roles.map fun role => .string (.plain role))
        debug := .bool (flagOf environment debugVariable) })

variable {environment : Environment} {variableName : String}

theorem ListedBy.itemsOf_eq {listed : List String}
    (lists : ListedBy environment variableName listed) :
    itemsOf environment variableName = listed := by
  unfold itemsOf
  cases lists with
  | unset absent => rw [absent]
  | set given lists =>
      simp only [given, lists.items_eq, List.map_map]
      exact List.map_id'' (fun _ => String.ofList_toList) listed

theorem listedBy_itemsOf (environment : Environment) (variableName : String) :
    ListedBy environment variableName (itemsOf environment variableName) := by
  unfold itemsOf
  cases given : environment.lookup variableName with
  | none => exact .unset given
  | some text =>
      apply ListedBy.set given
      rw [List.map_map, ← items_eq_iff]
      exact (List.map_id'' (fun _ => String.toList_ofList) _).symm

theorem key_isEmpty_iff : ((environment.lookup keyVariable).getD "").isEmpty = true ↔
    ∀ key, ¬ GivesKey environment key := by
  unfold GivesKey
  cases environment.lookup keyVariable with
  | none => simp
  | some text => simp

theorem GivesKey.key_isEmpty {key : String} (given : GivesKey environment key) :
    ((environment.lookup keyVariable).getD "").isEmpty = false := by
  rw [Bool.eq_false_iff]
  exact fun empty => key_isEmpty_iff.1 empty key given

/-- The names that the message lists are those of the required variables that give nothing. -/
theorem Missing.names_eq {names : List String} (missing : Missing environment names) :
    (if ((environment.lookup keyVariable).getD "").isEmpty then [keyVariable] else []) ++
      (if (itemsOf environment audiencesVariable).isEmpty then [audiencesVariable] else []) =
        names := by
  cases missing with
  | key keyless listed some =>
      rw [key_isEmpty_iff.2 keyless, listed.itemsOf_eq, List.isEmpty_eq_false_iff.2 some]
      rfl
  | audiences given none =>
      rw [given.key_isEmpty, none.itemsOf_eq]
      rfl
  | both keyless none =>
      rw [key_isEmpty_iff.2 keyless, none.itemsOf_eq]
      rfl

theorem GivenBy.ofEnvironment_eq {ε : Type} {outcome : Except (Halt ε) Settings}
    (given : GivenBy environment outcome) : ofEnvironment environment = outcome := by
  unfold ofEnvironment
  cases given with
  | missing missing =>
      simp only [missing.names_eq]
      cases missing <;> rfl
  | @settings key audiences roles given expected some required =>
      have keyed := given.key_isEmpty
      rw [given.1, Option.getD_some] at keyed
      simp only [given.1, Option.getD_some, keyed, expected.itemsOf_eq, required.itemsOf_eq,
        List.isEmpty_eq_false_iff.2 some]
      rfl

/-- Every environment gives settings, or lacks what is required of it. -/
theorem exists_givenBy {ε : Type} (environment : Environment) :
    ∃ outcome : Except (Halt ε) Settings, GivenBy environment outcome := by
  have expected := listedBy_itemsOf environment audiencesVariable
  by_cases keyed : ∃ key, GivesKey environment key
  · rcases keyed with ⟨key, given⟩
    by_cases none : itemsOf environment audiencesVariable = []
    · rw [none] at expected
      exact ⟨_, .missing (.audiences given expected)⟩
    · exact ⟨_, .settings given expected none (listedBy_itemsOf environment rolesVariable)⟩
  · have keyless : ∀ key, ¬ GivesKey environment key := fun key given => keyed ⟨key, given⟩
    by_cases none : itemsOf environment audiencesVariable = []
    · rw [none] at expected
      exact ⟨_, .missing (.both keyless expected)⟩
    · exact ⟨_, .missing (.key keyless expected none)⟩

theorem ListedBy.isItem {listed : List String} (lists : ListedBy environment variableName listed) :
    ∀ item ∈ listed, IsItem item.toList := by
  cases lists with
  | unset absent => simp
  | set given lists => exact List.forall_mem_map.1 lists.isItem

/--
The settings of an environment.  They are missing exactly when the key of the realm is not
set or empty, or the audiences list nothing, and the message names the variables at fault,
the key first; otherwise the key is the text that is set, and the audiences, at least one,
and the required roles are what their variables list.  What is listed has no blanks at its
ends, holds no comma and is not empty.  And whatever blanks stand around the items, and
however many blank pieces between them, joined by commas they list the items again.
-/
theorem ofEnvironment_by_variables {ε : Type} (environment : Environment) :
    (∀ outcome : Except (Halt ε) Settings,
      ofEnvironment environment = outcome ↔ GivenBy environment outcome) ∧
    (∀ (variableName : String) (listed : List String),
      ListedBy environment variableName listed → ∀ item ∈ listed, IsItem item.toList) ∧
    (∀ (variableName : String) (parts : List (List Char)) (held : List (List (List Char))),
      parts ≠ [] → List.Forall₂ Holds parts held →
      environment.lookup variableName = some (String.ofList (Text.join ',' parts)) →
      ∀ listed, ListedBy environment variableName listed ↔
        listed.map String.toList = held.flatten) := by
  refine ⟨?_, fun _ _ lists => lists.isItem, ?_⟩
  · intro outcome
    constructor
    · rintro rfl
      rcases exists_givenBy (ε := ε) environment with ⟨outcome, given⟩
      rwa [given.ofEnvironment_eq]
    · exact GivenBy.ofEnvironment_eq
  · intro variableName parts held some holds given listed
    have lists := lists_join some holds
    constructor
    · intro found
      cases found with
      | unset absent => rw [absent] at given; cases given
      | set given' found =>
          rw [given, Option.some.injEq] at given'
          rw [← given', String.toList_ofList] at found
          rw [← found.items_eq, lists.items_eq]
    · intro same
      apply ListedBy.set given
      rwa [String.toList_ofList, same]

/-- The pieces of a list of audiences: items between blanks, one of them twice, and blanks. -/
def audienceParts : List (List Char) :=
  [['\u2003', 'a', 'p', 'i', '\u00a0'], [], ['w', 'e', 'b', ' '], ['\x1c'], ['a', 'p', 'i']]

def spacedEnvironment : Environment :=
  [(keyVariable, "key"), (audiencesVariable, String.ofList (Text.join ',' audienceParts))]

/-- The items come back in their order, with no role required where none is set. -/
theorem ofEnvironment_by_variables_spaced :
    audienceParts ≠ [] ∧ spacedEnvironment.lookup audiencesVariable =
        some (String.ofList (Text.join ',' audienceParts)) ∧
      (ofEnvironment spacedEnvironment : Except (Halt AuthError) Settings) = .ok {
        realmPublicKey := .string "key"
        expectedAudiences := .array [.string "api", .string "web", .string "api"]
        requiredRoles := .array []
        debug := .bool false } := by
  have some : audienceParts ≠ [] := by decide
  have given : spacedEnvironment.lookup audiencesVariable =
      Option.some (String.ofList (Text.join ',' audienceParts)) := by decide
  have api : IsItem ['a', 'p', 'i'] := ⟨by decide, by decide, by decide⟩
  have web : IsItem ['w', 'e', 'b'] := ⟨by decide, by decide, by decide⟩
  have holds : List.Forall₂ Holds audienceParts
      [[['a', 'p', 'i']], [], [['w', 'e', 'b']], [], [['a', 'p', 'i']]] := by
    refine .cons ?_ (.cons (.blanks (by decide)) (.cons ?_ (.cons (.blanks (by decide))
      (.cons ?_ .nil))))
    · exact @Holds.item ['\u2003'] _ ['\u00a0'] (by decide) api (by decide)
    · exact @Holds.item [] _ [' '] (by decide) web (by decide)
    · exact @Holds.item [] _ [] (by decide) api (by decide)
  rcases ofEnvironment_by_variables (ε := AuthError) spacedEnvironment with ⟨outcomes, _, listing⟩
  have expected : ListedBy spacedEnvironment audiencesVariable ["api", "web", "api"] :=
    (listing audiencesVariable audienceParts _ some holds given _).2 (by decide)
  refine ⟨some, given, (outcomes _).2 ?_⟩
  exact .settings ⟨by decide, by decide⟩ expected (by decide) (.unset (by decide))

end Settings
end RealmAuth
