import RealmAuth.Jws.Header
import RealmAuth.Proofs.Base64.Canonical
import RealmAuth.Proofs.Outcome

namespace RealmAuth
namespace Jws

/-!
What a token text has to look like for its parts to be read.  The segments are
found without looking at their content, so they are described first; then each
part is described by its own segment, and the header by what it chooses.  The
checks run one after the other, but none of these descriptions depends on the
order, and together they say exactly which texts have which parts.
-/

/-- A text is made of segments: nothing is lost, and the outer ones hold no dot. -/
def Segments.Of (segments : Segments) (token : List Char) : Prop :=
  token = segments.signed ++ '.' :: segments.signature ∧
    '.' ∉ segments.header ∧ '.' ∉ segments.signature

/-- Cutting finds the last separator: the part behind holds none, and nothing is lost. -/
theorem cutLast?_eq_some_iff {separator : Char} {cs before after : List Char} :
    Text.cutLast? separator cs = some (before, after) ↔
      cs = before ++ separator :: after ∧ separator ∉ after := by
  rw [Text.cutLast?, Option.map_eq_some_iff]
  constructor
  · intro given
    rcases given with ⟨⟨first, rest⟩, found, equal⟩
    simp only [Prod.mk.injEq] at equal
    rcases equal with ⟨rfl, rfl⟩
    rcases Text.cut?_eq_some_iff.1 found with ⟨split, clean⟩
    constructor
    · rw [← List.reverse_reverse cs, split]
      simp
    · rw [List.mem_reverse]
      exact clean
  · intro given
    rcases given with ⟨rfl, clean⟩
    refine ⟨(after.reverse, before.reverse), ?_, by simp⟩
    apply Text.cut?_eq_some_iff.2
    exact ⟨by simp, by simpa using clean⟩

/-- The segments that are found are the ones that the text is made of. -/
theorem Segments.ofText?_eq_some_iff {token : List Char} {segments : Segments} :
    Segments.ofText? token = some segments ↔ segments.Of token := by
  rcases segments with ⟨header, payload, signature⟩
  unfold Segments.ofText? Segments.Of Segments.signed
  simp only [Option.bind_eq_bind, Option.bind_eq_some_iff, Option.pure_def, Option.some.injEq,
    Segments.mk.injEq]
  constructor
  · intro given
    rcases given with ⟨⟨signed, last⟩, outer, ⟨first, middle⟩, inner, rfl, rfl, rfl⟩
    rcases cutLast?_eq_some_iff.1 outer with ⟨whole, lastClean⟩
    rcases Text.cut?_eq_some_iff.1 inner with ⟨start, firstClean⟩
    simp only at whole lastClean start
    exact ⟨by rw [whole, start], firstClean, lastClean⟩
  · intro given
    rcases given with ⟨whole, firstClean, lastClean⟩
    refine ⟨(header ++ '.' :: payload, signature), ?_, (header, payload), ?_, rfl, rfl, rfl⟩
    · exact cutLast?_eq_some_iff.2 ⟨whole, lastClean⟩
    · exact Text.cut?_eq_some_iff.2 ⟨rfl, firstClean⟩

/-- A header that can be used, and the algorithm that it chooses. -/
structure Chooses (header : Json.Fields) (algorithm : Algorithm) : Prop where
  /-- A key is identified by a text, if at all. -/
  keyId : ∀ value, header.get? "kid" = some value → ∃ identifier, value = .string identifier
  /-- Only one extension can be critical; it is listed at least once, and it is in use. -/
  critical : ∀ value, header.get? "crit" = some value →
    ∃ extensions, value = .array extensions ∧ extensions ≠ [] ∧
      (∀ extension ∈ extensions, extension = .string "b64") ∧ header.has "b64"
  named : header.get? "alg" = some (.string algorithm.name)

theorem checkKeyId_eq_ok_iff {header : Json.Fields} :
    checkKeyId header = .ok () ↔
      ∀ value, header.get? "kid" = some value → ∃ identifier, value = .string identifier := by
  unfold checkKeyId
  split
  · rename_i absent
    simp [absent]
  · rename_i identifier found
    simp [found]
  · rename_i value other found
    simp only [found, Option.some.injEq, forall_eq', reduceCtorEq, false_iff, not_exists]
    intro identifier same
    subst same
    exact other identifier rfl

/-- The only extension that a list of critical ones may hold. -/
theorem checkExtension_eq_ok_iff {header : Json.Fields} {extension : Json} :
    checkExtension header extension = .ok () ↔ extension = .string "b64" ∧ header.has "b64" := by
  cases extension with
  | string name =>
      by_cases known : name = "b64"
      · subst known
        cases present : header.has "b64" <;> simp [checkExtension, knownExtensions, present]
      · simp [checkExtension, knownExtensions, known]
  | _ => simp [checkExtension]

theorem forM_eq_ok_iff {ε α : Type} {check : α → Except ε Unit} {items : List α} :
    items.forM check = .ok () ↔ ∀ item ∈ items, check item = .ok () := by
  induction items with
  | nil => simp [List.forM_eq_forM, pure, Except.pure]
  | cons item items ih =>
      rw [List.forM_eq_forM, List.forM_cons, Outcome.bind_eq_ok_iff, ← List.forM_eq_forM]
      simp only [List.mem_cons, forall_eq_or_imp]
      constructor
      · intro given
        rcases given with ⟨_, first, rest⟩
        exact ⟨first, ih.1 rest⟩
      · intro given
        rcases given with ⟨first, rest⟩
        exact ⟨(), first, ih.2 rest⟩

theorem checkCritical_eq_ok_iff {header : Json.Fields} :
    checkCritical header = .ok () ↔ ∀ value, header.get? "crit" = some value →
      ∃ extensions, value = .array extensions ∧ extensions ≠ [] ∧
        (∀ extension ∈ extensions, extension = .string "b64") ∧ header.has "b64" := by
  unfold checkCritical
  split
  · rename_i absent
    simp [absent]
  · rename_i extension extensions found
    rw [forM_eq_ok_iff]
    simp only [checkExtension_eq_ok_iff, found, Option.some.injEq, forall_eq', Json.array.injEq,
      exists_eq_left', ne_eq, reduceCtorEq, not_false_eq_true, true_and]
    constructor
    · intro each
      exact ⟨fun other member => (each other member).1, (each extension (by simp)).2⟩
    · rintro ⟨each, present⟩ other member
      exact ⟨each other member, present⟩
  · rename_i value other found
    simp only [found, Option.some.injEq, forall_eq', reduceCtorEq, false_iff, not_exists, not_and]
    intro extensions same nonempty
    cases extensions with
    | nil => exact absurd rfl nonempty
    | cons extension extensions => exact absurd same (other extension extensions)

theorem ofName?_eq_some_iff {name : Text} {algorithm : Algorithm} :
    Algorithm.ofName? name = some algorithm ↔ name = .plain algorithm.name := by
  constructor
  · intro found
    have same := List.find?_some found
    simp only [beq_iff_eq] at same
    exact same.symm
  · rintro rfl
    exact Algorithm.ofName?_name algorithm

theorem algorithmOf_eq_ok_iff {header : Json.Fields} {algorithm : Algorithm} :
    algorithmOf header = .ok algorithm ↔ header.get? "alg" = some (.string algorithm.name) := by
  have chosen : algorithmOf header = .ok algorithm ↔
      (((header.get? "alg").getD .null).text?.bind Algorithm.ofName?) = some algorithm := by
    unfold algorithmOf
    simp only
    split
    · rename_i found
      simp [found]
    · rename_i absent
      simp [absent]
  rw [chosen, Option.bind_eq_some_iff]
  constructor
  · intro holds
    rcases holds with ⟨name, text, known⟩
    rw [ofName?_eq_some_iff] at known
    subst known
    cases given : header.get? "alg" with
    | none => simp [given, Json.text?] at text
    | some value =>
        cases value with
        | string other =>
            simp only [given, Option.getD_some, Json.text?, Option.some.injEq] at text
            rw [text]
        | _ => simp [given, Json.text?] at text
  · intro given
    refine ⟨algorithm.name, ?_, Algorithm.ofName?_name algorithm⟩
    rw [given]
    rfl

/-- The three checks of a header are passed exactly when it can be used. -/
theorem chooses_iff {header : Json.Fields} {algorithm : Algorithm} :
    Chooses header algorithm ↔
      checkKeyId header = .ok () ∧ checkCritical header = .ok () ∧
        algorithmOf header = .ok algorithm := by
  rw [checkKeyId_eq_ok_iff, checkCritical_eq_ok_iff, algorithmOf_eq_ok_iff]
  constructor
  · intro given
    rcases given with ⟨keyId, critical, named⟩
    exact ⟨keyId, critical, named⟩
  · intro given
    rcases given with ⟨keyId, critical, named⟩
    exact ⟨keyId, critical, named⟩

/-- A segment writes a payload: one that stands elsewhere leaves its segment empty. -/
def Carries (header : Json.Fields) (segment : List Char) (payload : Octets) : Prop :=
  if isDetached header then segment = [] ∧ payload = [] else Base64.url.Spells segment payload

theorem orFault_eq_ok_iff {ε α : Type} {fault : ε} {x : Option α} {value : α} :
    orFault fault x = .ok value ↔ x = some value := by
  cases x <;> simp [orFault]

theorem payloadOf_eq_ok_iff {header : Json.Fields} {segment : List Char} {payload : Octets} :
    payloadOf header segment = .ok payload ↔ Carries header segment payload := by
  unfold payloadOf Carries
  by_cases detached : isDetached header
  · rw [if_pos detached, if_pos detached]
    cases segment with
    | nil => simp [eq_comm]
    | cons c cs => simp
  · rw [if_neg detached, if_neg detached, orFault_eq_ok_iff]
    exact Base64.url_lawful.decode?_eq_some_iff

variable [Platform]

theorem readObject_eq_ok_iff {ε : Type} {unreadable : Octets → ε} {notObject : ε} {octets : Octets}
    {fields : Json.Fields} :
    readObject unreadable notObject octets = .ok fields ↔
      Json.readOctets? octets = some (.object fields) := by
  unfold readObject
  split
  · rename_i absent
    simp [absent]
  · rename_i found
    simp [found]
  · rename_i value other found
    simp only [found, reduceCtorEq, Option.some.injEq, false_iff]
    exact other fields

/-- The parts of a token as its segments write them. -/
structure Parts.WrittenAs (parts : Parts) (segments : Segments) : Prop where
  header : ∃ octets, Base64.url.Spells segments.header octets ∧
    Json.readOctets? octets = some (.object parts.header)
  payload : Carries parts.header segments.payload parts.payload
  signature : Base64.url.Spells segments.signature parts.signature
  signed : parts.signed = Text.toUtf8 segments.signed
  chooses : Chooses parts.header parts.algorithm

/-- The parts of a token text; a text where half of a pair stands alone has none. -/
def Parts.Of (parts : Parts) : Text → Prop
  | .plain token => ∃ segments : Segments, segments.Of token.toList ∧ parts.WrittenAs segments
  | .broken .. => False

/-- Parts are read exactly when the text has them. -/
theorem read_eq_ok_iff {token : String} {parts : Parts} :
    read token = .ok parts ↔ parts.Of token := by
  unfold read Parts.Of
  simp only [Outcome.bind_eq_ok_iff, orFault_eq_ok_iff, readObject_eq_ok_iff,
    payloadOf_eq_ok_iff, Segments.ofText?_eq_some_iff, Base64.url_lawful.decode?_eq_some_iff]
  constructor
  · intro given
    rcases given with ⟨segments, made, octets, spelled, header, object, payload, carried, signature,
        signing, _, keyId, _, critical, algorithm, named, same⟩
    cases same
    exact ⟨segments, made, ⟨octets, spelled, object⟩, carried, signing, rfl,
      chooses_iff.2 ⟨keyId, critical, named⟩⟩
  · intro given
    rcases given with ⟨segments, made, ⟨octets, spelled, object⟩, carried, signing, signed, chooses⟩
    rcases chooses_iff.1 chooses with ⟨keyId, critical, named⟩
    refine ⟨segments, made, octets, spelled, parts.header, object, parts.payload, carried,
      parts.signature, signing, (), keyId, (), critical, parts.algorithm, named, ?_⟩
    rw [← signed]
    rfl

end Jws
end RealmAuth
