import Mathlib.Data.List.Forall2
import RealmAuth.Proofs.Http.Value

namespace RealmAuth
namespace Headers

/-!
Which header is the authorization header.  Names are compared without their letter
case, so that several entries can match, and the first of them is meant.  Headers in
the order of a request are searched in this way alone.  Named headers are asked for the
exact name first, and it is here that the two can differ: an entry under the exact name
is taken even where another spelling stands before it.  So named headers follow the
first match exactly where an entry under the exact name has the value of the first
match, and only there are they the same headers as those of the request.
-/

open Outcome

/-- Header values under names that differ from each other. -/
structure IsMapping (entries : List (String × HeaderValue)) : Prop where
  distinct : (entries.map Prod.fst).Nodup
  written : ∀ entry ∈ entries, ∃ codes, entry.2.codes? = some codes

/-- The value of the first entry whose name is the wanted one in some case. -/
def FirstMatch (entries : List (String × HeaderValue)) (value : HeaderValue) : Prop :=
  ∃ before other after, entries = before ++ (other, value) :: after ∧ isName other = true ∧
    ∀ entry ∈ before, isName entry.1 = false

def Unmatched (entries : List (String × HeaderValue)) : Prop :=
  ∀ entry ∈ entries, isName entry.1 = false

/-- No entry under the exact name hides another value that stands before it. -/
def ExactLeads (entries : List (String × HeaderValue)) : Prop :=
  ∀ value exact, FirstMatch entries value → (name, exact) ∈ entries → exact = value

/-- One entry is another with the letters of its name in another case. -/
def Respelled (entry other : String × HeaderValue) : Prop :=
  Text.lowerAscii entry.1.toList = Text.lowerAscii other.1.toList ∧ entry.2 = other.2

/-- What is found in a value: its text is read, and then the token behind the start. -/
def extracted (value : HeaderValue) : Except Failure String :=
  valueText value >>= tokenOf

variable {entries others : List (String × HeaderValue)} {value : HeaderValue}

/-! ## Finding a value -/

theorem findFolded_eq_some_iff : findFolded entries = some value ↔ FirstMatch entries value := by
  simp only [findFolded, Option.map_eq_some_iff, List.find?_eq_some_iff_append, FirstMatch]
  constructor
  · rintro ⟨⟨other, _⟩, ⟨named, before, after, split, earlier⟩, rfl⟩
    refine ⟨before, other, after, split, named, ?_⟩
    intro entry member
    simpa using earlier entry member
  · rintro ⟨before, other, after, split, named, earlier⟩
    refine ⟨(other, value), ⟨named, before, after, split, ?_⟩, rfl⟩
    intro entry member
    simp [earlier entry member]

theorem findFolded_eq_none_iff : findFolded entries = none ↔ Unmatched entries := by
  simp [findFolded, Unmatched]

theorem FirstMatch.mem (first : FirstMatch entries value) :
    ∃ other, (other, value) ∈ entries := by
  rcases first with ⟨before, other, after, split, _⟩
  exact ⟨other, by simp [split]⟩

theorem isName_name : isName name = true := by
  simp [isName]

namespace IsMapping

theorem lookup_eq_some_iff (mapping : IsMapping entries) {exact : HeaderValue} :
    entries.lookup name = some exact ↔ (name, exact) ∈ entries := by
  rw [List.lookup_eq_some_iff]
  constructor
  · rintro ⟨before, after, split, _⟩
    simp [split]
  · intro member
    rcases List.append_of_mem member with ⟨before, after, split⟩
    refine ⟨before, after, split, ?_⟩
    intro entry earlier
    have distinct := mapping.distinct
    rw [split, List.map_append, List.nodup_append] at distinct
    have different := distinct.2.2 entry.1 (List.mem_map_of_mem earlier) name (by simp)
    simpa [bne_iff_ne] using different.symm

theorem lookup_eq_none_iff (mapping : IsMapping entries) :
    entries.lookup name = none ↔ ∀ exact, (name, exact) ∉ entries := by
  simp only [Option.eq_none_iff_forall_ne_some, ne_eq, mapping.lookup_eq_some_iff]

theorem given?_eq (mapping : IsMapping entries) {entry : String × HeaderValue}
    (member : entry ∈ entries) : given? entry.2 = some entry.2 := by
  rcases mapping.written entry member with ⟨codes, written⟩
  cases shape : entry.2 with
  | foreign data =>
      rw [shape] at written
      cases written
  | text _ | octets _ => rfl

theorem find?_sent (mapping : IsMapping entries) :
    (sent entries).find? = (findFolded entries).map delivered := by
  rw [find?]
  cases found : findFolded entries with
  | none => rfl
  | some value =>
      rcases (findFolded_eq_some_iff.1 found).mem with ⟨other, member⟩
      rw [Option.bind_some, mapping.given?_eq member]

theorem find?_named (mapping : IsMapping entries) :
    (named entries).find? = (entries.lookup name).or (findFolded entries) := by
  rw [find?]
  cases exactly : entries.lookup name with
  | some exact =>
      rw [Option.bind_some, mapping.given?_eq (mapping.lookup_eq_some_iff.1 exactly)]
      rfl
  | none =>
      cases found : findFolded entries with
      | none => rfl
      | some value =>
          rcases (findFolded_eq_some_iff.1 found).mem with ⟨other, member⟩
          simp [mapping.given?_eq member]

/-- Named headers have the value of the first match where no exact name hides it, and only there. -/
theorem find?_named_eq_some_iff (mapping : IsMapping entries) (first : FirstMatch entries value) :
    (named entries).find? = some value ↔ ExactLeads entries := by
  have found := findFolded_eq_some_iff.2 first
  rw [mapping.find?_named, found]
  constructor
  · intro chosen other exact leading member
    cases findFolded_eq_some_iff.2 leading ▸ found
    rw [mapping.lookup_eq_some_iff.2 member] at chosen
    exact Option.some.inj chosen
  · intro leads
    cases exactly : entries.lookup name with
    | none => rfl
    | some exact =>
        rw [leads value exact first (mapping.lookup_eq_some_iff.1 exactly)]
        rfl

theorem find?_sent_eq_none_iff (mapping : IsMapping entries) :
    (sent entries).find? = none ↔ Unmatched entries := by
  rw [mapping.find?_sent, Option.map_eq_none_iff, findFolded_eq_none_iff]

/-- The exact name is one of the matches, so there is none of it where nothing matches. -/
theorem find?_named_eq_none_iff (mapping : IsMapping entries) :
    (named entries).find? = none ↔ Unmatched entries := by
  rw [mapping.find?_named, Option.or_eq_none_iff, findFolded_eq_none_iff,
    mapping.lookup_eq_none_iff]
  constructor
  · exact And.right
  · intro unmatched
    refine ⟨?_, unmatched⟩
    intro exact member
    exact absurd isName_name (by simpa using unmatched (name, exact) member)

end IsMapping

/-! ## The outcome of a request -/

theorem bearerToken_of_find? {headers : Headers} (found : headers.find? = some value) :
    headers.bearerToken = extracted value := by
  rw [bearerToken, found, extracted]

theorem extracted_delivered (value : HeaderValue) :
    extracted (delivered value) = extracted value := by
  rw [extracted, valueText_delivered, extracted]

namespace IsMapping

theorem bearerToken_sent (mapping : IsMapping entries) (first : FirstMatch entries value) :
    (sent entries).bearerToken = extracted value := by
  have found : (sent entries).find? = some (delivered value) := by
    rw [mapping.find?_sent, findFolded_eq_some_iff.2 first, Option.map_some]
  rw [bearerToken_of_find? found, extracted_delivered]

theorem bearerToken_named (mapping : IsMapping entries) (first : FirstMatch entries value)
    (leads : ExactLeads entries) : (named entries).bearerToken = extracted value :=
  bearerToken_of_find? ((mapping.find?_named_eq_some_iff first).2 leads)

theorem bearerToken_exact (mapping : IsMapping entries) {exact : HeaderValue}
    (member : (name, exact) ∈ entries) : (named entries).bearerToken = extracted exact := by
  apply bearerToken_of_find?
  rw [mapping.find?_named, mapping.lookup_eq_some_iff.2 member]
  rfl

end IsMapping

/-- Entries match nowhere, or one of them is the first match. -/
theorem unmatched_or_exists_firstMatch (entries : List (String × HeaderValue)) :
    Unmatched entries ∨ ∃ value, FirstMatch entries value := by
  cases found : findFolded entries with
  | none => exact Or.inl (findFolded_eq_none_iff.1 found)
  | some value => exact Or.inr ⟨value, findFolded_eq_some_iff.1 found⟩

/-- Names whose letters differ in their case alone are the wanted name together. -/
theorem findFolded_of_respelled (respelled : List.Forall₂ Respelled entries others) :
    findFolded others = findFolded entries := by
  induction respelled with
  | nil => rfl
  | @cons entry other entries others same _ ih =>
      rcases same with ⟨spelling, value⟩
      have named : isName other.1 = isName entry.1 := by rw [isName, isName, spelling]
      unfold findFolded at ih ⊢
      rw [List.find?_cons, List.find?_cons, named]
      cases isName entry.1 with
      | true => simp [value]
      | false => exact ih

theorem sent_respelled (respelled : List.Forall₂ Respelled entries others) :
    (sent others).bearerToken = (sent entries).bearerToken := by
  rw [bearerToken, bearerToken, find?, find?, findFolded_of_respelled respelled]

theorem IsMapping.named_eq_sent (mapping : IsMapping entries) (leads : ExactLeads entries) :
    (named entries).bearerToken = (sent entries).bearerToken := by
  rcases unmatched_or_exists_firstMatch entries with unmatched | ⟨value, first⟩
  · rw [bearerToken_eq_headerMissing_iff.2 (mapping.find?_named_eq_none_iff.2 unmatched),
      bearerToken_eq_headerMissing_iff.2 (mapping.find?_sent_eq_none_iff.2 unmatched)]
  · rw [mapping.bearerToken_named first leads, mapping.bearerToken_sent first]

/--
The token of a request is looked for in the first entry whose name matches in any letter
case, and the header is missing exactly when there is none.  The headers of a request
always keep to this.  Named headers keep to it exactly where no entry under the exact name
hides another value before it; otherwise they take the entry under the exact name.  So
names in another letter case change nothing for the headers of a request, and the two kinds
of headers agree, and named headers stand a change of letter case, where none is hidden.
-/
theorem bearerToken_by_first_match (mapping : IsMapping entries) :
    (∀ value, FirstMatch entries value →
      (sent entries).bearerToken = extracted value ∧
      ((named entries).find? = some value ↔ ExactLeads entries) ∧
      (ExactLeads entries → (named entries).bearerToken = extracted value)) ∧
    (∀ exact, (name, exact) ∈ entries → (named entries).bearerToken = extracted exact) ∧
    ((sent entries).bearerToken = refuse .headerMissing ↔ Unmatched entries) ∧
    ((named entries).bearerToken = refuse .headerMissing ↔ Unmatched entries) ∧
    (ExactLeads entries → (named entries).bearerToken = (sent entries).bearerToken) ∧
    ∀ others, List.Forall₂ Respelled entries others →
      (sent others).bearerToken = (sent entries).bearerToken ∧
      (IsMapping others → ExactLeads entries → ExactLeads others →
        (named others).bearerToken = (named entries).bearerToken) := by
  refine ⟨?_, ?_, ?_, ?_, ?_, ?_⟩
  · intro value first
    exact ⟨mapping.bearerToken_sent first, mapping.find?_named_eq_some_iff first,
      mapping.bearerToken_named first⟩
  · intro exact member
    exact mapping.bearerToken_exact member
  · rw [bearerToken_eq_headerMissing_iff, mapping.find?_sent_eq_none_iff]
  · rw [bearerToken_eq_headerMissing_iff, mapping.find?_named_eq_none_iff]
  · exact mapping.named_eq_sent
  · intro others respelled
    refine ⟨sent_respelled respelled, ?_⟩
    intro other leads otherLeads
    rw [mapping.named_eq_sent leads, other.named_eq_sent otherLeads, sent_respelled respelled]

/-! ## The exact name behind another spelling -/

/-- Two entries whose names may be two spellings of one. -/
def spelled (first second : String) : List (String × HeaderValue) :=
  [(first, .text "Bearer a"), (second, .text "Bearer b")]

theorem isMapping_spelled {first second : String} (different : first ≠ second) :
    IsMapping (spelled first second) := by
  constructor
  · simpa [spelled] using different
  · intro entry member
    rcases List.mem_pair.1 member with rfl | rfl <;> exact ⟨_, rfl⟩

theorem respelled_spelled {first second other another : String}
    (leading : Text.lowerAscii first.toList = Text.lowerAscii other.toList)
    (following : Text.lowerAscii second.toList = Text.lowerAscii another.toList) :
    List.Forall₂ Respelled (spelled first second) (spelled other another) :=
  .cons ⟨leading, rfl⟩ (.cons ⟨following, rfl⟩ .nil)

/--
An entry under the exact name hides the first match, which stands before it: named headers
give the token of the second entry.  The headers of a request give that of the first one,
and so do named headers after the letters of both names have been put in another case.
-/
theorem first_match_hidden :
    IsMapping (spelled "authorization" name) ∧
      FirstMatch (spelled "authorization" name) (.text "Bearer a") ∧
      (named (spelled "authorization" name)).bearerToken = .ok "b" ∧
      (sent (spelled "authorization" name)).bearerToken = .ok "a" ∧
      List.Forall₂ Respelled (spelled "authorization" name)
        (spelled "AUTHORIZATION" "authorization") ∧
      (named (spelled "AUTHORIZATION" "authorization")).bearerToken = .ok "a" :=
  ⟨isMapping_spelled (by decide), findFolded_eq_some_iff.1 rfl, rfl, rfl,
    respelled_spelled (by decide +kernel) (by decide +kernel), rfl⟩

/-- The exact name before another spelling hides nothing, and its value is taken everywhere. -/
theorem bearerToken_by_first_match_leading :
    IsMapping (spelled name "authorization") ∧ ExactLeads (spelled name "authorization") ∧
      (named (spelled name "authorization")).bearerToken = .ok "a" ∧
      (sent (spelled name "authorization")).bearerToken = .ok "a" ∧
      (named (spelled "AUTHORIZATION" "authorization")).bearerToken = .ok "a" := by
  have mapping : IsMapping (spelled name "authorization") := isMapping_spelled (by decide)
  have first : FirstMatch (spelled name "authorization") (.text "Bearer a") :=
    findFolded_eq_some_iff.1 rfl
  have rules := bearerToken_by_first_match mapping
  have leads : ExactLeads (spelled name "authorization") := (rules.1 _ first).2.1.1 rfl
  have otherLeads : ExactLeads (spelled "AUTHORIZATION" "authorization") := by
    intro value exact _ member
    simp [spelled, name] at member
  have respelled := rules.2.2.2.2.2 (spelled "AUTHORIZATION" "authorization")
    (respelled_spelled (by decide +kernel) (by decide +kernel))
  have token : extracted (.text "Bearer a") = .ok "a" := rfl
  have taken : (named (spelled name "authorization")).bearerToken = .ok "a" := by
    rw [(rules.1 _ first).2.2 leads, token]
  refine ⟨mapping, leads, taken, ?_, ?_⟩
  · rw [(rules.1 _ first).1, token]
  · rw [respelled.2 (isMapping_spelled (by decide)) leads otherLeads, taken]

end Headers
end RealmAuth
