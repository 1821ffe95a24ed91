import Mathlib.Data.List.Infix
import RealmAuth.Http.Headers
import RealmAuth.Proofs.Outcome

namespace RealmAuth

/-!
What a header value says.  A value comes as text or as octets, and either way it is
a list of numbers: those of its characters, or the octets themselves.  The outcome
depends on these numbers alone.  A number outside the tab and the visible part of
ASCII decides it first, wherever it stands and whatever the value starts with; the
word and the single space in front of the token are looked at only after that.  So
two values with the same numbers have the same outcome, which is why octets may be
read as Latin-1 on their way to the application.
-/

open Outcome

namespace HeaderValue

/-- The numbers of the characters of a text. -/
def codesOf (text : String) : List Nat :=
  text.toList.map Char.toNat

/-- The numbers that a value consists of, unless it is data that is no header value. -/
def codes? : HeaderValue → Option (List Nat)
  | text value => some (codesOf value)
  | octets value => some (value.map UInt8.toNat)
  | foreign _ => none

/-- A tab, or a visible character of ASCII. -/
def Allowed (code : Nat) : Prop :=
  code = 0x09 ∨ 0x20 ≤ code ∧ code ≤ 0x7E

instance (code : Nat) : Decidable (Allowed code) :=
  inferInstanceAs (Decidable (_ ∨ _))

/-- Octets have the numbers of the characters that they are in Latin-1. -/
theorem codes_latin1 (value : Octets) :
    (Text.latin1 value).map Char.toNat = value.map UInt8.toNat := by
  have kept : ∀ octet : UInt8, (Char.ofNat octet.toNat).toNat = octet.toNat := by
    intro octet
    have valid : octet.toNat.isValidChar := Or.inl (by have := octet.toNat_lt; omega)
    rw [Char.ofNat, dif_pos valid]
    rfl
  simp only [Text.latin1, List.map_map, Function.comp_def, kept]

/-- Every header value consists of the numbers of some characters. -/
theorem exists_characters {value : HeaderValue} {codes : List Nat}
    (written : value.codes? = some codes) : ∃ cs : List Char, codes = cs.map Char.toNat := by
  cases value with
  | text value => exact ⟨value.toList, (Option.some.inj written).symm⟩
  | octets value =>
      refine ⟨Text.latin1 value, ?_⟩
      rw [codes_latin1]
      exact (Option.some.inj written).symm
  | foreign value => cases written

end HeaderValue

namespace Headers

open HeaderValue (codesOf Allowed)

variable {value : HeaderValue} {codes : List Nat}

theorem isVisible_iff (c : Char) : isVisible c = true ↔ Allowed c.toNat := by
  have tab : c = '\t' ↔ c.toNat = 0x09 := Char.toNat_inj.symm
  simp [isVisible, Allowed, tab]

theorem visible_eq (cs : List Char) :
    visible cs = if ∀ code ∈ cs.map Char.toNat, Allowed code then .ok cs else refuse invalid := by
  have same : cs.all isVisible = true ↔ ∀ code ∈ cs.map Char.toNat, Allowed code := by
    simp only [List.all_eq_true, isVisible_iff, List.forall_mem_map]
  simp only [visible, same]

/--
Reading octets strictly as ASCII comes to nothing else than reading them as Latin-1: an
octet of eight bits is refused either way, once as unreadable and once as not visible.
-/
theorem valueText_octets (value : Octets) :
    valueText (.octets value) = visible (Text.latin1 value) := by
  simp only [valueText]
  split
  · rename_i characters ascii
    rw [(Text.ascii?_eq_some_iff.1 ascii).1]
  · rename_i unread
    have wide : ¬ ∀ code ∈ (Text.latin1 value).map Char.toNat, Allowed code := by
      intro allowed
      rw [HeaderValue.codes_latin1, List.forall_mem_map] at allowed
      have narrow : ∀ octet ∈ value, octet.toNat < 0x80 := by
        intro octet member
        have within := allowed octet member
        unfold Allowed at within
        omega
      rw [Text.ascii?_eq_some_iff.2 ⟨rfl, narrow⟩] at unread
      cases unread
    rw [visible_eq, if_neg wide]

theorem valueText_delivered (value : HeaderValue) :
    valueText (delivered value) = valueText value := by
  cases value with
  | octets value =>
      rw [valueText_octets, delivered]
      simp only [valueText, String.toList_ofList]
  | text _ | foreign _ => rfl

/-- What a value says depends on its numbers alone. -/
theorem valueText_of_codes {cs : List Char} (written : value.codes? = some (cs.map Char.toNat)) :
    valueText value = visible cs := by
  have same : ∀ others : List Char, others.map Char.toNat = cs.map Char.toNat → others = cs :=
    fun others => (List.map_inj_right fun _ _ => Char.toNat_inj.1).1
  cases value with
  | text value => rw [← same value.toList (Option.some.inj written), valueText]
  | octets value =>
      have numbers : (Text.latin1 value).map Char.toNat = cs.map Char.toNat := by
        rw [HeaderValue.codes_latin1]
        exact Option.some.inj written
      rw [valueText_octets, same (Text.latin1 value) numbers]
  | foreign value => cases written

/-- A value is read as some characters exactly when it consists of them and all are allowed. -/
theorem valueText_eq_ok_iff {cs : List Char} :
    valueText value = .ok cs ↔
      value.codes? = some (cs.map Char.toNat) ∧ ∀ code ∈ cs.map Char.toNat, Allowed code := by
  cases written : value.codes? with
  | none =>
      cases value with
      | foreign value =>
          simp only [reduceCtorEq, false_and, iff_false, valueText]
          split
          · exact escape_ne_ok
          · intro read
            rcases bind_eq_ok_iff.1 read with ⟨_, _, impossible⟩
            exact escape_ne_ok impossible
      | _ => cases written
  | some codes =>
      rcases HeaderValue.exists_characters written with ⟨others, rfl⟩
      rw [valueText_of_codes written, visible_eq, Option.some.injEq,
        List.map_inj_right fun _ _ => Char.toNat_inj.1]
      split
      · rename_i allowed
        constructor
        · rintro ⟨rfl⟩
          exact ⟨rfl, allowed⟩
        · rintro ⟨rfl, _⟩
          rfl
      · rename_i unseen
        constructor
        · intro impossible
          exact absurd impossible refuse_ne_ok
        · rintro ⟨rfl, allowed⟩
          exact absurd allowed unseen

theorem invalid_of_passItems {items : List Json} {error : AuthError}
    (refused : passItems items = refuse error) : error = invalid := by
  fun_induction passItems items with
  | case1 => cases refused
  | case2 item items visible ih => exact ih refused
  | case3 item items unseen =>
      cases refused
      rfl
  | case4 => cases refused

theorem invalid_of_valueText {value : HeaderValue} {error : AuthError}
    (refused : valueText value = refuse error) : error = invalid := by
  have of_visible : ∀ characters, visible characters = refuse error → error = invalid := by
    intro characters unseen
    unfold visible at unseen
    split at unseen
    · cases unseen
    · cases unseen
      rfl
  cases value with
  | text value => exact of_visible _ refused
  | octets value =>
      rw [valueText_octets] at refused
      exact of_visible _ refused
  | foreign value =>
      simp only [valueText] at refused
      split at refused
      · cases refused
      · rcases bind_eq_error_iff.1 refused with stopped | ⟨_, _, impossible⟩
        · exact invalid_of_passItems stopped
        · cases impossible

theorem tokenOf_eq_ok_iff {cs : List Char} {token : String} :
    tokenOf cs = .ok token ↔ cs = bearer ++ token.toList := by
  unfold tokenOf Text.startsWith
  split
  · rename_i starts
    rcases List.isPrefixOf_iff_prefix.1 starts with ⟨rest, rfl⟩
    rw [List.drop_left, Except.ok.injEq, List.append_cancel_left_eq]
    constructor
    · rintro rfl
      exact String.toList_ofList.symm
    · rintro rfl
      exact String.ofList_toList
  · rename_i starts
    constructor
    · intro impossible
      exact absurd impossible refuse_ne_ok
    · rintro rfl
      exact absurd (List.isPrefixOf_iff_prefix.2 (List.prefix_append ..)) starts

theorem tokenOf_eq_refuse_iff {cs : List Char} {error : AuthError} :
    tokenOf cs = refuse error ↔ error = .bearerMissing ∧ ¬ bearer <+: cs := by
  unfold tokenOf Text.startsWith
  rw [← List.isPrefixOf_iff_prefix]
  split
  · rename_i starts
    simp [refuse, starts]
  · rename_i starts
    simp [refuse, starts, eq_comm]

/-! ## The grammar of a value -/

variable {headers : Headers}

/-- Only where no value is found is the header missing. -/
theorem bearerToken_eq_headerMissing_iff :
    headers.bearerToken = refuse .headerMissing ↔ headers.find? = none := by
  unfold bearerToken
  cases found : headers.find? with
  | none => simp
  | some value =>
      constructor
      · intro missing
        rcases bind_eq_error_iff.1 missing with unread | ⟨cs, _, unstarted⟩
        · cases invalid_of_valueText unread
        · cases (tokenOf_eq_refuse_iff.1 unstarted).1
      · intro absent
        cases absent

/-- Where all numbers are allowed, only the start of the value is left to look at. -/
theorem bearerToken_of_allowed {cs : List Char} (found : headers.find? = some value)
    (written : value.codes? = some (cs.map Char.toNat))
    (allowed : ∀ code ∈ cs.map Char.toNat, Allowed code) :
    headers.bearerToken = tokenOf cs := by
  rw [bearerToken, found]
  simp only [valueText_of_codes written, visible_eq, if_pos allowed, ok_bind]

theorem bearerToken_of_not_allowed {cs : List Char} (found : headers.find? = some value)
    (written : value.codes? = some (cs.map Char.toNat))
    (unseen : ¬ ∀ code ∈ cs.map Char.toNat, Allowed code) :
    headers.bearerToken = refuse invalid := by
  rw [bearerToken, found]
  simp only [valueText_of_codes written, visible_eq, if_neg unseen]
  rfl

theorem bearerToken_eq_ok_iff {token : String} (found : headers.find? = some value)
    (written : value.codes? = some codes) :
    headers.bearerToken = .ok token ↔
      codes = codesOf ("Bearer " ++ token) ∧ ∀ code ∈ codes, Allowed code := by
  rcases HeaderValue.exists_characters written with ⟨cs, rfl⟩
  by_cases allowed : ∀ code ∈ cs.map Char.toNat, Allowed code
  · have start : codesOf ("Bearer " ++ token) = (bearer ++ token.toList).map Char.toNat :=
      congrArg (List.map Char.toNat) String.toList_append
    rw [bearerToken_of_allowed found written allowed, tokenOf_eq_ok_iff, start,
      List.map_inj_right fun _ _ => Char.toNat_inj.1, and_iff_left allowed]
  · rw [bearerToken_of_not_allowed found written allowed]
    constructor
    · intro impossible
      exact absurd impossible refuse_ne_ok
    · intro given
      exact absurd given.2 allowed

theorem bearerToken_eq_invalid_iff (found : headers.find? = some value)
    (written : value.codes? = some codes) :
    headers.bearerToken = refuse invalid ↔ ∃ code ∈ codes, ¬ Allowed code := by
  rcases HeaderValue.exists_characters written with ⟨cs, rfl⟩
  by_cases allowed : ∀ code ∈ cs.map Char.toNat, Allowed code
  · rw [bearerToken_of_allowed found written allowed, tokenOf_eq_refuse_iff]
    constructor
    · intro given
      cases given.1
    · rintro ⟨code, member, unseen⟩
      exact absurd (allowed code member) unseen
  · rw [bearerToken_of_not_allowed found written allowed]
    simpa using allowed

theorem bearerToken_eq_bearerMissing_iff (found : headers.find? = some value)
    (written : value.codes? = some codes) :
    headers.bearerToken = refuse .bearerMissing ↔
      (∀ code ∈ codes, Allowed code) ∧ ¬ codesOf "Bearer " <+: codes := by
  rcases HeaderValue.exists_characters written with ⟨cs, rfl⟩
  by_cases allowed : ∀ code ∈ cs.map Char.toNat, Allowed code
  · have start : codesOf "Bearer " <+: cs.map Char.toNat ↔ bearer <+: cs :=
      List.prefix_map_iff_of_injective fun _ _ => Char.toNat_inj.1
    rw [bearerToken_of_allowed found written allowed, tokenOf_eq_refuse_iff, start,
      and_iff_right rfl, and_iff_right allowed]
  · rw [bearerToken_of_not_allowed found written allowed]
    constructor
    · intro impossible
      cases impossible
    · intro given
      exact absurd given.1 allowed

/-- The token behind the start of a text is found again. -/
theorem bearerToken_of_token {token : String}
    (found : headers.find? = some (.text ("Bearer " ++ token)))
    (allowed : ∀ code ∈ codesOf token, Allowed code) : headers.bearerToken = .ok token := by
  apply (bearerToken_eq_ok_iff found rfl).2
  refine ⟨rfl, ?_⟩
  have start : ∀ code ∈ codesOf "Bearer ", Allowed code := by decide +kernel
  rw [codesOf, String.toList_append, List.map_append, List.forall_mem_append]
  exact ⟨start, allowed⟩

/--
The grammar of a header value, whether it is given as text or as octets.  It has a token
exactly when it is the word, the single space and this token, and all of it is allowed.
It is invalid exactly when something in it is not allowed, and it lacks the bearer's start
exactly when all of it is allowed and it starts otherwise.  So the token behind the start
is always found again, and octets have the outcome of the text that they are in Latin-1.
-/
theorem bearerToken_by_codes :
    (∀ (headers : Headers) (value : HeaderValue) (codes : List Nat),
      headers.find? = some value → value.codes? = some codes →
      (∀ token, headers.bearerToken = .ok token ↔
        codes = codesOf ("Bearer " ++ token) ∧ ∀ code ∈ codes, Allowed code) ∧
      (headers.bearerToken = refuse invalid ↔ ∃ code ∈ codes, ¬ Allowed code) ∧
      (headers.bearerToken = refuse .bearerMissing ↔
        (∀ code ∈ codes, Allowed code) ∧ ¬ codesOf "Bearer " <+: codes)) ∧
    (∀ (headers : Headers) (token : String),
      headers.find? = some (.text ("Bearer " ++ token)) →
      (∀ code ∈ codesOf token, Allowed code) → headers.bearerToken = .ok token) ∧
    ∀ (headers others : Headers) (octets : Octets), headers.find? = some (.octets octets) →
      others.find? = some (.text (String.ofList (Text.latin1 octets))) →
      others.bearerToken = headers.bearerToken := by
  refine ⟨?_, fun headers token => bearerToken_of_token, ?_⟩
  · intro headers value codes found written
    exact ⟨fun token => bearerToken_eq_ok_iff found written,
      bearerToken_eq_invalid_iff found written, bearerToken_eq_bearerMissing_iff found written⟩
  · intro headers others octets found delivered
    rw [bearerToken, bearerToken, found, delivered]
    exact congrArg (· >>= tokenOf) (valueText_delivered (.octets octets))

/--
An empty token and one of a tab and a letter are found; an octet of eight bits is invalid
behind the start, as is the letter that it is in Latin-1; another case is another start.
-/
theorem bearerToken_by_codes_octets :
    (named [(name, .octets "Bearer ".toUTF8.toList)]).bearerToken = .ok "" ∧
      (named [(name, .text ("Bearer " ++ "\tx"))]).bearerToken = .ok "\tx" ∧
      (named [(name, .octets ("Bearer ".toUTF8.toList ++ [0xF6]))]).bearerToken = refuse invalid ∧
      (sent [(name, .octets ("Bearer ".toUTF8.toList ++ [0xF6]))]).bearerToken = refuse invalid ∧
      (named [(name, .text "bearer x")]).bearerToken = refuse .bearerMissing := by
  have octets : (named [(name, .octets ("Bearer ".toUTF8.toList ++ [0xF6]))]).bearerToken =
      refuse invalid :=
    (bearerToken_by_codes.1 _ (.octets ("Bearer ".toUTF8.toList ++ [0xF6])) _ rfl rfl).2.1.2
      ⟨0xF6, by decide +kernel, by decide +kernel⟩
  refine ⟨?_, ?_, octets, ?_, ?_⟩
  · exact ((bearerToken_by_codes.1 _ (.octets "Bearer ".toUTF8.toList) _ rfl rfl).1 "").2
      ⟨by decide +kernel, by decide +kernel⟩
  · exact bearerToken_by_codes.2.1 _ "\tx" rfl (by decide +kernel)
  · rw [← octets]
    exact bearerToken_by_codes.2.2 _ _ _ rfl rfl
  · exact (bearerToken_by_codes.1 _ (.text "bearer x") _ rfl rfl).2.2.2
      ⟨by decide +kernel, by decide +kernel⟩

end Headers
end RealmAuth
