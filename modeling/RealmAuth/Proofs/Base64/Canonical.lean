import RealmAuth.Base64.Basic

namespace RealmAuth
namespace Base64

/-!
Every octet string has one spelling in letters, and at most one more with padding
behind it.  So a text that is read as octets is known but for its padding: no
letter is skipped, no spare bit is free, and no other text is read as the same.
-/

/-- Letters and sextets of an alphabet name each other, and the padding is no letter. -/
structure Alphabet.Lawful (alphabet : Alphabet) : Prop where
  sextet?_letter : ∀ sextet, sextet < 64 → alphabet.sextet? (alphabet.letter sextet) = some sextet
  letter_ne_pad : ∀ sextet, sextet < 64 → alphabet.letter sextet ≠ pad

theorem url_lawful : url.Lawful where
  sextet?_letter := by decide
  letter_ne_pad := by decide

/-- The letter of the sextet that a letter has is that letter. -/
theorem Alphabet.letter_of_sextet? {alphabet : Alphabet} {c : Char} {sextet : Nat}
    (found : alphabet.sextet? c = some sextet) : sextet < 64 ∧ alphabet.letter sextet = c := by
  have back : ∀ n, n = c.toNat → Char.ofNat n = c := by
    intro n same
    rw [same, Char.ofNat_toNat]
  unfold Alphabet.sextet? at found
  simp only at found
  unfold Alphabet.letter
  split at found
  · cases found
    rw [if_pos (by omega)]
    exact ⟨by omega, back _ (by omega)⟩
  · split at found
    · cases found
      rw [if_neg (by omega), if_pos (by omega)]
      exact ⟨by omega, back _ (by omega)⟩
    · split at found
      · cases found
        rw [if_neg (by omega), if_neg (by omega), if_pos (by omega)]
        exact ⟨by omega, back _ (by omega)⟩
      · split at found
        · rename_i same
          cases found
          simp [same]
        · split at found
          · rename_i same
            cases found
            simp [same]
          · cases found

theorem lt_of_mem_sextets {octets : Octets} {sextet : Nat} (member : sextet ∈ sextets octets) :
    sextet < 64 := by
  fun_induction sextets octets with
  | case1 => simp at member
  | case2 x =>
      have := x.toNat_lt
      simp only [List.mem_cons, List.not_mem_nil, or_false] at member
      omega
  | case3 x y =>
      have := x.toNat_lt
      have := y.toNat_lt
      simp only [List.mem_cons, List.not_mem_nil, or_false] at member
      omega
  | case4 x y z rest ih =>
      have := x.toNat_lt
      have := y.toNat_lt
      have := z.toNat_lt
      simp only [List.mem_cons] at member
      rcases member with first | second | third | fourth | later
      · omega
      · omega
      · omega
      · omega
      · exact ih later

theorem length_sextets_mod (octets : Octets) : (sextets octets).length % 4 ≠ 1 := by
  fun_induction sextets octets with
  | case1 => simp
  | case2 x => simp
  | case3 x y => simp
  | case4 x y z rest ih =>
      simp only [List.length_cons]
      omega

/-- Sextets that are read as octets are the sextets of these octets. -/
theorem sextets_of_octets? {values : List Nat} {octets : Octets}
    (small : ∀ value ∈ values, value < 64) (found : octets? values = some octets) :
    sextets octets = values := by
  have value : ∀ n, n < 256 → (UInt8.ofNat n).toNat = n := by
    intro n less
    simp only [UInt8.toNat_ofNat']
    omega
  fun_induction octets? values generalizing octets with
  | case1 => cases found; rfl
  | case2 a => cases found
  | case3 a b spare =>
      cases found
      have := small a (by simp)
      have := small b (by simp)
      simp only [sextets, List.cons.injEq, and_true]
      rw [value _ (by omega)]
      omega
  | case4 a b spare => cases found
  | case5 a b c spare =>
      cases found
      have := small a (by simp)
      have := small b (by simp)
      have := small c (by simp)
      simp only [sextets, List.cons.injEq, and_true]
      rw [value _ (by omega), value _ (by omega)]
      omega
  | case6 a b c spare => cases found
  | case7 a b c d rest ih =>
      rcases Option.map_eq_some_iff.1 found with ⟨later, read, rfl⟩
      have := small a (by simp)
      have := small b (by simp)
      have := small c (by simp)
      have := small d (by simp)
      have tail := ih (fun value member => small value (by simp [member])) read
      simp only [sextets, tail, List.cons.injEq, and_true]
      rw [value _ (by omega), value _ (by omega), value _ (by omega)]
      omega

/-- The padding that completes the spelling of octets to full groups of four. -/
def Alphabet.padding (alphabet : Alphabet) (octets : Octets) : List Char :=
  List.replicate ((4 - (alphabet.encode octets).length % 4) % 4) pad

/-- A text spells octets: their letters, with or without the padding behind them. -/
def Alphabet.Spells (alphabet : Alphabet) (cs : List Char) (octets : Octets) : Prop :=
  cs = alphabet.encode octets ∨ cs = alphabet.encode octets ++ alphabet.padding octets

/-- Letters that all have a sextet are the letters of these sextets. -/
theorem map_letter_of_mapM {alphabet : Alphabet} {cs : List Char} {values : List Nat}
    (found : cs.mapM alphabet.sextet? = some values) :
    (∀ value ∈ values, value < 64) ∧ values.map alphabet.letter = cs := by
  induction cs generalizing values with
  | nil =>
      simp only [List.mapM_nil, Option.pure_def, Option.some.injEq] at found
      subst found
      simp
  | cons c cs ih =>
      simp only [List.mapM_cons, Option.pure_def, Option.bind_eq_bind, Option.bind_eq_some_iff,
        Option.some.injEq] at found
      rcases found with ⟨value, first, later, rest, rfl⟩
      have head := Alphabet.letter_of_sextet? first
      have tail := ih rest
      constructor
      · intro other member
        rcases List.mem_cons.1 member with same | member
        · exact same ▸ head.1
        · exact tail.1 other member
      · rw [List.map_cons, head.2, tail.2]

namespace Alphabet.Lawful

variable {alphabet : Alphabet}

theorem mapM_sextet? (lawful : alphabet.Lawful) {values : List Nat}
    (small : ∀ value ∈ values, value < 64) :
    (values.map alphabet.letter).mapM alphabet.sextet? = some values := by
  induction values with
  | nil => rfl
  | cons value values ih =>
      have first := lawful.sextet?_letter value (small value (by simp))
      have rest := ih fun other member => small other (by simp [member])
      rw [List.map_cons, List.mapM_cons, first, rest]
      rfl

theorem letters?_eq_some_iff (lawful : alphabet.Lawful) {cs : List Char} {octets : Octets} :
    alphabet.letters? cs = some octets ↔ cs = alphabet.encode octets := by
  constructor
  · intro found
    rcases Option.bind_eq_some_iff.1 found with ⟨values, letters, read⟩
    rcases map_letter_of_mapM letters with ⟨small, spelled⟩
    rw [Alphabet.encode, sextets_of_octets? small read, spelled]
  · intro spelled
    rw [spelled, Alphabet.letters?, Alphabet.encode,
      lawful.mapM_sextet? fun value member => lt_of_mem_sextets member]
    exact octets?_sextets octets

theorem pad_not_mem_encode (lawful : alphabet.Lawful) (octets : Octets) :
    pad ∉ alphabet.encode octets := by
  intro member
  rcases List.mem_map.1 member with ⟨sextet, listed, same⟩
  exact lawful.letter_ne_pad sextet (lt_of_mem_sextets listed) same

end Alphabet.Lawful

/-- What is cut off a text is padding, at most two letters of it. -/
theorem unpad_append (cs : List Char) :
    (unpad cs).1 ++ List.replicate (unpad cs).2 pad = cs ∧ (unpad cs).2 ≤ 2 := by
  have back : ∀ front, cs.reverse = front → cs = front.reverse := by
    intro front same
    rw [← same, List.reverse_reverse]
  unfold unpad
  split
  · rename_i a b rest reversed
    split
    · split
      · rename_i last before
        subst last before
        rw [back _ reversed]
        simp
      · rename_i last before
        subst last
        rw [back _ reversed]
        simp
    · simp
  · rename_i a reversed
    split
    · rename_i last
      subst last
      rw [back _ reversed]
      simp
    · simp
  · simp

theorem unpad_of_clean {letters : List Char} {count : Nat} (clean : pad ∉ letters)
    (few : count ≤ 2) : unpad (letters ++ List.replicate count pad) = (letters, count) := by
  have last : ∀ c rest, letters.reverse = c :: rest → c ≠ pad := by
    intro c rest reversed same
    apply clean
    rw [← List.mem_reverse, reversed, same]
    exact List.mem_cons_self
  have whole : ∀ front, letters.reverse = front → front.reverse = letters := by
    intro front reversed
    rw [← reversed, List.reverse_reverse]
  unfold unpad
  match count, few with
  | 0, _ =>
      simp only [List.replicate_zero, List.append_nil]
      cases reversed : letters.reverse with
      | nil => rfl
      | cons a rest =>
          cases rest with
          | nil => simp [last a [] reversed]
          | cons b rest => simp [last a _ reversed]
  | 1, _ =>
      simp only [List.replicate_one, List.reverse_append, List.reverse_singleton,
        List.singleton_append]
      cases reversed : letters.reverse with
      | nil => simp [← whole _ reversed]
      | cons b rest => simp [last b _ reversed, ← whole _ reversed]
  | 2, _ =>
      simp [List.replicate]

/-- A text is read as octets exactly when it spells them. -/
theorem Alphabet.Lawful.decode?_eq_some_iff {alphabet : Alphabet} (lawful : alphabet.Lawful)
    {cs : List Char} {octets : Octets} :
    alphabet.decode? cs = some octets ↔ alphabet.Spells cs octets := by
  have clean := lawful.pad_not_mem_encode octets
  have length : (alphabet.encode octets).length % 4 ≠ 1 := by
    rw [Alphabet.encode, List.length_map]
    exact length_sextets_mod octets
  unfold Alphabet.decode? Alphabet.padded? Alphabet.Spells Alphabet.padding
  constructor
  · intro found
    rcases unpad_append cs with ⟨whole, few⟩
    split at found
    · exact Or.inl (lawful.letters?_eq_some_iff.1 found)
    · rename_i padded
      split at found
      · rename_i full
        have spelled := lawful.letters?_eq_some_iff.1 found
        rw [spelled] at whole
        have size := congrArg List.length whole
        rw [List.length_append, List.length_replicate] at size
        have count : (unpad cs).2 = (4 - (alphabet.encode octets).length % 4) % 4 := by omega
        exact Or.inr (by rw [← count, whole])
      · cases found
  · rintro (bare | padded)
    · have whole := unpad_of_clean clean (Nat.zero_le 2)
      rw [List.replicate_zero, List.append_nil] at whole
      rw [bare, whole, if_pos rfl]
      exact lawful.letters?_eq_some_iff.2 rfl
    · have few : (4 - (alphabet.encode octets).length % 4) % 4 ≤ 2 := by omega
      rw [padded, unpad_of_clean clean few]
      by_cases none : (4 - (alphabet.encode octets).length % 4) % 4 = 0
      · rw [if_pos none, none, List.replicate_zero, List.append_nil]
        exact lawful.letters?_eq_some_iff.2 rfl
      · rw [if_neg none, if_pos]
        · exact lawful.letters?_eq_some_iff.2 rfl
        · rw [List.length_append, List.length_replicate]
          omega

end Base64
end RealmAuth
