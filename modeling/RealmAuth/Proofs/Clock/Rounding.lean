import RealmAuth.Clock.Instant

namespace RealmAuth

/-!
The clock in double precision.  Verification subtracts a leeway from the clock's
seconds in binary floating point, and compares the result with a whole second.
Both operations round, but as long as the clock is within its first centuries and
the leeway is not beyond the clock, the first rounding is finer than half a
microsecond and the second one is not needed at all: the comparison is the one of
exact numbers.  A leeway that is beyond all doubles cannot be subtracted.
-/

namespace Double

theorem roundDiv_mul (value den : Nat) (positive : 0 < den) :
    roundDiv (value * den) den = value := by
  unfold roundDiv
  simp only [Nat.mul_div_cancel value positive, Nat.mul_mod_left]
  rw [if_neg (by omega)]

/-- A quotient below a bound is rounded to the bound at most. -/
theorem roundDiv_le {num den bound : Nat} (less : num < den * bound) :
    roundDiv num den ≤ bound := by
  have quotient : num / den < bound := Nat.div_lt_of_lt_mul less
  unfold roundDiv
  simp only
  split <;> omega

/-! ## Quotients that need negative exponents -/

/-- The exponent of a quotient is the guess from the lengths, if the quotient fits, or the next. -/
theorem binade_cases (num den shift : Nat)
    (guess : (Nat.log2 num : Int) - Nat.log2 den - 53 = -(shift : Int)) :
    binade num den =
      if num * 2 ^ shift < den * 2 ^ 53 then -(shift : Int) else -(shift : Int) + 1 := by
  unfold binade
  simp only [guess]
  cases shift with
  | zero => simp
  | succ shift =>
      have negative : ¬ (0 : Int) ≤ -((shift + 1 : Nat) : Int) := by omega
      have back : (- -((shift + 1 : Nat) : Int)).toNat = shift + 1 := by omega
      simp only [if_neg negative, back]

/-- A quotient that fits into 53 bits after a shift has no greater exponent. -/
theorem binade_le {num den shift : Nat} (numPositive : 0 < num)
    (fits : num * 2 ^ shift < den * 2 ^ 53) : binade num den ≤ -(shift : Int) := by
  have lower : 2 ^ Nat.log2 num ≤ num := Nat.log2_self_le (by omega)
  have upper : den < 2 ^ (Nat.log2 den + 1) := Nat.lt_log2_self
  have exponents : Nat.log2 num + shift < Nat.log2 den + 1 + 53 := by
    apply (Nat.pow_lt_pow_iff_right (a := 2) (by decide)).1
    calc
      2 ^ (Nat.log2 num + shift) = 2 ^ Nat.log2 num * 2 ^ shift := Nat.pow_add ..
      _ ≤ num * 2 ^ shift := Nat.mul_le_mul_right _ lower
      _ < den * 2 ^ 53 := fits
      _ ≤ 2 ^ (Nat.log2 den + 1) * 2 ^ 53 := Nat.mul_le_mul_right _ (Nat.le_of_lt upper)
      _ = 2 ^ (Nat.log2 den + 1 + 53) := (Nat.pow_add ..).symm
  have longer : ∃ spare, Nat.log2 den + 53 - Nat.log2 num = shift + spare :=
    ⟨Nat.log2 den + 53 - Nat.log2 num - shift, by omega⟩
  rcases longer with ⟨spare, length⟩
  rw [binade_cases num den (shift + spare) (by omega)]
  cases spare with
  | zero =>
      apply Int.le_of_eq
      rw [Nat.add_zero, if_pos fits]
  | succ spare =>
      split <;> omega

/-- A quotient fits into 53 bits after the shift that its exponent stands for. -/
theorem fits_of_binade {num den shift : Nat} (denPositive : 0 < den)
    (exponent : binade num den = -(shift : Int)) : num * 2 ^ shift < den * 2 ^ 53 := by
  have lower : 2 ^ Nat.log2 den ≤ den := Nat.log2_self_le (by omega)
  have upper : num < 2 ^ (Nat.log2 num + 1) := Nat.lt_log2_self
  have small : (Nat.log2 num : Int) - Nat.log2 den - 53 ≤ 0 := by
    unfold binade at exponent
    simp only at exponent
    split at exponent <;> omega
  have negative : ∃ guess : Nat,
      (Nat.log2 num : Int) - Nat.log2 den - 53 = -(guess : Int) :=
    ⟨Nat.log2 den + 53 - Nat.log2 num, by omega⟩
  rcases negative with ⟨guess, length⟩
  rw [binade_cases num den guess length] at exponent
  split at exponent
  · rename_i fits
    rwa [show guess = shift by omega] at fits
  · calc
      num * 2 ^ shift < 2 ^ (Nat.log2 num + 1) * 2 ^ shift :=
        Nat.mul_lt_mul_of_pos_right upper (Nat.pow_pos (by decide))
      _ = 2 ^ (Nat.log2 den + 53) := by
        rw [← Nat.pow_add]
        congr 1
        omega
      _ = 2 ^ Nat.log2 den * 2 ^ 53 := Nat.pow_add ..
      _ ≤ den * 2 ^ 53 := Nat.mul_le_mul_right _ lower

/-- The shift at which a quotient is rounded is at least any shift at which it fits. -/
theorem exists_shift {num den least : Nat} (numPositive : 0 < num) (denPositive : 0 < den)
    (bounded : least ≤ 1074) (fits : num * 2 ^ least < den * 2 ^ 53) :
    ∃ shift : Nat, max leastExponent (binade num den) = -(shift : Int) ∧
      least ≤ shift ∧ shift ≤ 1074 ∧ num * 2 ^ shift < den * 2 ^ 53 := by
  have exponent := binade_le numPositive fits
  have negative : ∃ whole : Nat, binade num den = -(whole : Int) :=
    ⟨(-binade num den).toNat, by omega⟩
  rcases negative with ⟨whole, same⟩
  have fitted := fits_of_binade denPositive same
  refine ⟨min whole 1074, ?_, by omega, by omega, ?_⟩
  · rw [same, leastExponent]
    omega
  · calc
      num * 2 ^ min whole 1074 ≤ num * 2 ^ whole :=
        Nat.mul_le_mul_left _ (Nat.pow_le_pow_right (by decide) (by omega))
      _ < den * 2 ^ 53 := fitted

/-- A number with a power of two below its significand is that quotient. -/
theorem toRatio?_finite (significand places : Nat) :
    (finite false significand (-(places : Int))).toRatio? =
      some ((significand : Int), 2 ^ places) := by
  cases places with
  | zero => simp [toRatio?]
  | succ places =>
      have negative : ¬ (0 : Int) ≤ -((places + 1 : Nat) : Int) := by omega
      have back : (- -((places + 1 : Nat) : Int)).toNat = places + 1 := by omega
      simp only [toRatio?, if_neg negative, back, Bool.false_eq_true, if_false]

/-- A quotient that is rounded at a shift; one that is rounded up to 53 bits loses a place. -/
theorem toRatio?_ofRatio {num den shift : Nat} (numPositive : 0 < num) (positive : 0 < shift)
    (exponent : max leastExponent (binade num den) = -(shift : Int))
    (fits : num * 2 ^ shift < den * 2 ^ 53) :
    ∃ significand places : Nat,
      (ofRatio false num den).toRatio? = some ((significand : Int), 2 ^ places) ∧
        significand * 2 ^ shift = roundDiv (num * 2 ^ shift) den * 2 ^ places ∧
        significand < 2 ^ 53 ∧ places ≤ shift ∧ shift ≤ places + 1 := by
  have bound := roundDiv_le fits
  have negative : ¬ (0 : Int) ≤ -(shift : Int) := by omega
  have back : (- -(shift : Int)).toNat = shift := by omega
  unfold ofRatio
  simp only [exponent, if_neg negative, back, if_neg (Nat.pos_iff_ne_zero.1 numPositive)]
  by_cases carried : roundDiv (num * 2 ^ shift) den = 2 ^ 53
  · have before : ∃ places, shift = places + 1 := ⟨shift - 1, by omega⟩
    rcases before with ⟨places, rfl⟩
    have least : ¬ greatestExponent < -(places : Int) := by
      rw [greatestExponent]
      omega
    have next : -((places + 1 : Nat) : Int) + 1 = -(places : Int) := by omega
    simp only [carried, if_true, next, if_neg least, toRatio?_finite]
    exact ⟨2 ^ 52, places, rfl, by omega, by decide, by omega, by omega⟩
  · have least : ¬ greatestExponent < -(shift : Int) := by
      rw [greatestExponent]
      omega
    simp only [if_neg carried, if_neg least, toRatio?_finite]
    exact ⟨roundDiv (num * 2 ^ shift) den, shift, rfl, rfl, by omega, by omega, by omega⟩

/-- A quotient that needs no more than 53 bits is not rounded. -/
theorem toRatio?_ofRatio_exact (num value : Nat) {den shift : Nat} (denPositive : 0 < den)
    (positive : 0 < shift) (bounded : shift ≤ 1074) (same : num * 2 ^ shift = value * den)
    (small : value < 2 ^ 53) :
    ∃ significand places : Nat,
      (ofRatio false num den).toRatio? = some ((significand : Int), 2 ^ places) ∧
        significand * 2 ^ shift = value * 2 ^ places := by
  rcases Nat.eq_zero_or_pos num with zero | numPositive
  · have none : value = 0 := by
      rw [zero, Nat.zero_mul] at same
      rcases Nat.mul_eq_zero.1 same.symm with none | empty
      · exact none
      · omega
    subst zero none
    exact ⟨0, 1074, toRatio?_finite 0 1074, by simp only [Nat.zero_mul]⟩
  · have fits : num * 2 ^ shift < den * 2 ^ 53 := by
      rw [same, Nat.mul_comm den]
      exact Nat.mul_lt_mul_of_pos_right small denPositive
    rcases exists_shift numPositive denPositive bounded fits
        with ⟨total, exponent, least, _, fitted⟩
    rcases Nat.exists_eq_add_of_le least with ⟨rest, rfl⟩
    rcases toRatio?_ofRatio numPositive (by omega) exponent fitted
        with ⟨significand, places, ratio, rounded, _⟩
    have whole : num * 2 ^ (shift + rest) = value * 2 ^ rest * den := by
      rw [Nat.pow_add, ← Nat.mul_assoc, same, Nat.mul_right_comm]
    rw [whole, roundDiv_mul _ _ denPositive] at rounded
    refine ⟨significand, places, ratio, ?_⟩
    apply Nat.eq_of_mul_eq_mul_right (Nat.pow_pos (n := rest) (by decide : 0 < 2))
    calc
      significand * 2 ^ shift * 2 ^ rest = significand * 2 ^ (shift + rest) := by
        rw [Nat.pow_add, Nat.mul_assoc]
      _ = value * 2 ^ rest * 2 ^ places := rounded
      _ = value * 2 ^ places * 2 ^ rest := Nat.mul_right_comm ..

/-! ## Differences and comparisons -/

theorem sub_of_toRatio? {x y : Double} {xNum yNum : Int} {xDen yDen : Nat}
    (left : x.toRatio? = some (xNum, xDen)) (right : y.toRatio? = some (yNum, yDen)) :
    x.sub y =
      ofRatio (xNum * yDen - yNum * xDen < 0) (xNum * yDen - yNum * xDen).natAbs (xDen * yDen) := by
  cases x with
  | nan => cases left
  | infinite negative => cases left
  | finite negative significand exponent =>
      cases y with
      | nan => cases right
      | infinite negative => cases right
      | finite negative significand exponent =>
          unfold sub
          simp only [left, right]

theorem intLe_of_toRatio? {n : Int} {x : Double} {num : Int} {den : Nat}
    (ratio : x.toRatio? = some (num, den)) : intLe n x = decide (n * den ≤ num) := by
  cases x with
  | nan => cases ratio
  | infinite negative => cases ratio
  | finite negative significand exponent =>
      unfold intLe
      simp only [ratio]

/-! ## The greatest integers -/

theorem binade_one {n : Nat} (positive : 0 < n) : binade n 1 = (Nat.log2 n : Int) - 52 := by
  have lower : 2 ^ Nat.log2 n ≤ n := Nat.log2_self_le (by omega)
  have one : Nat.log2 1 = 0 := by decide
  unfold binade
  simp only [one]
  split
  · have whole : 53 + ((Nat.log2 n : Int) - (0 : Nat) - 53).toNat = Nat.log2 n := by omega
    rw [whole, if_neg (by omega)]
    omega
  · have shift : (-((Nat.log2 n : Int) - (0 : Nat) - 53)).toNat = 53 - Nat.log2 n := by omega
    have scaled : 2 ^ Nat.log2 n * 2 ^ (53 - Nat.log2 n) ≤ n * 2 ^ (53 - Nat.log2 n) :=
      Nat.mul_le_mul_right _ lower
    rw [← Nat.pow_add, show Nat.log2 n + (53 - Nat.log2 n) = 53 by omega] at scaled
    rw [shift, if_neg (by omega)]
    omega

/-- The least integer that is rounded beyond the greatest double. -/
def integerLimit : Nat := 2 ^ 1024 - 2 ^ 970

/-- A quotient at the greatest exponent is rounded to 54 bits just at the limit. -/
theorem roundDiv_eq_carried_iff {value half : Nat} (positive : 0 < half)
    (below : value < 2 * half * 2 ^ 53) :
    roundDiv value (2 * half) = 2 ^ 53 ↔ half * (2 ^ 54 - 1) ≤ value := by
  have parts := Nat.div_add_mod value (2 * half)
  have rest := Nat.mod_lt value (show 0 < 2 * half by omega)
  have quotient : value / (2 * half) < 2 ^ 53 := Nat.div_lt_of_lt_mul below
  unfold roundDiv
  simp only
  generalize value % (2 * half) = left at parts rest
  rcases Nat.lt_or_ge (value / (2 * half)) (2 ^ 53 - 1) with less | last
  · have scaled : 2 * half * (value / (2 * half)) ≤ 2 * half * (2 ^ 53 - 2) :=
      Nat.mul_le_mul_left _ (by omega)
    split <;> omega
  · have same : value / (2 * half) = 2 ^ 53 - 1 := by omega
    rw [same] at parts
    rw [same]
    split <;> omega

/-- A number that is rounded has a ratio unless its exponent is too great. -/
theorem isSome_toRatio?_iff {negative : Bool} {significand : Nat} {exponent : Int} {beyond : Prop}
    [Decidable beyond] :
    (if beyond then infinite negative else finite negative significand exponent).toRatio?.isSome ↔
      ¬ beyond := by
  by_cases out : beyond
  · simp [out, toRatio?]
  · rw [if_neg out]
    unfold toRatio?
    simp only
    split <;> simp [out]

/-- An integer has a double unless it is rounded beyond the greatest one. -/
theorem toRatio?_ofInt_isSome_iff (n : Int) :
    (ofInt n).toRatio?.isSome ↔ n.natAbs < integerLimit := by
  have most : integerLimit < 2 ^ (1023 + 1) := by decide +kernel
  have least : 2 ^ 1023 ≤ integerLimit := by decide +kernel
  unfold ofInt
  generalize n.natAbs = value
  rcases Nat.eq_zero_or_pos value with zero | positive
  · subst zero
    constructor
    · intro _
      exact Nat.lt_of_lt_of_le (Nat.pow_pos (by decide)) least
    · intro _
      rfl
  · have lower : 2 ^ Nat.log2 value ≤ value := Nat.log2_self_le (by omega)
    have upper : value < 2 ^ (Nat.log2 value + 1) := Nat.lt_log2_self
    have exponent : max leastExponent (binade value 1) = (Nat.log2 value : Int) - 52 := by
      rw [binade_one positive, leastExponent]
      omega
    unfold ofRatio
    simp only [exponent, if_neg (Nat.pos_iff_ne_zero.1 positive), isSome_toRatio?_iff,
      greatestExponent]
    rcases Nat.lt_trichotomy (Nat.log2 value) 1023 with short | same | long
    · have raised := Nat.pow_le_pow_right Nat.two_pos (Nat.succ_le_of_lt short)
      have bound := Nat.lt_of_lt_of_le upper raised
      constructor
      · intro _
        exact Nat.lt_of_lt_of_le bound least
      · intro _
        split <;> omega
    · rw [same] at upper
      have whole : (0 : Int) ≤ ((1023 : Nat) : Int) - 52 := by decide
      have places : (((1023 : Nat) : Int) - 52).toNat = 971 := by decide
      have carried : roundDiv value (2 ^ 971) = 2 ^ 53 ↔ integerLimit ≤ value := by
        have limit : integerLimit = 2 ^ 970 * (2 ^ 54 - 1) := by decide +kernel
        have wide : (2 : Nat) ^ 971 = 2 * 2 ^ 970 := by decide +kernel
        have top : (2 : Nat) ^ (1023 + 1) = 2 * 2 ^ 970 * 2 ^ 53 := by decide +kernel
        have half : 0 < 2 ^ 970 := Nat.two_pow_pos 970
        rw [wide, limit]
        generalize 2 ^ 970 = unit at top half
        exact roundDiv_eq_carried_iff half (by rw [← top]; exact upper)
      simp only [same, if_pos whole, places, Nat.one_mul, carried]
      constructor
      · intro within
        apply Nat.lt_of_not_le
        intro reached
        rw [if_pos reached] at within
        omega
      · intro less
        rw [if_neg (Nat.not_le_of_lt less)]
        omega
    · have bound : integerLimit < value := by
        rcases Nat.exists_eq_add_of_lt long with ⟨spare, length⟩
        rw [length, Nat.add_right_comm, Nat.pow_add] at lower
        exact Nat.lt_of_lt_of_le most
          (Nat.le_trans (Nat.le_mul_of_pos_right _ (Nat.two_pow_pos spare)) lower)
      constructor
      · intro within
        split at within <;> omega
      · intro less
        exact absurd less (Nat.lt_asymm bound)

end Double

namespace Instant

variable {now : Instant} {micros : Nat}

/-- In the first centuries no whole second is passed over by rounding the clock. -/
theorem toDouble_rounds (since : now.micros = micros) (early : micros < 2 ^ 34 * 1000000) :
    ∃ significand places : Nat,
      now.toDouble.toRatio? = some ((significand : Int), 2 ^ places) ∧
        significand < 2 ^ 53 ∧ 0 < places ∧ places ≤ 1074 ∧
        ∀ second : Nat, second * 2 ^ places ≤ significand ↔ second * 1000000 ≤ micros := by
  have positive : ¬ (micros : Int) < 0 := by omega
  have same : now.toDouble = Double.ofRatio false micros 1000000 := by
    simp only [toDouble, since, positive, decide_false, Int.natAbs_natCast]
    rfl
  rw [same]
  rcases Nat.eq_zero_or_pos micros with zero | later
  · subst zero
    have none : ∀ places second : Nat, second * 2 ^ places ≤ 0 ↔ second * 1000000 ≤ 0 := by
      intro places second
      have power : 2 ^ places ≠ 0 := Nat.ne_of_gt (Nat.pow_pos (by decide))
      rw [Nat.le_zero, Nat.le_zero, Nat.mul_eq_zero, Nat.mul_eq_zero]
      omega
    exact ⟨0, 1074, Double.toRatio?_finite 0 1074, by decide, by decide, by decide, none 1074⟩
  · have fits : micros * 2 ^ 19 < 1000000 * 2 ^ 53 := by omega
    rcases Double.exists_shift later (by decide) (by decide) fits
        with ⟨shift, exponent, least, deepest, fitted⟩
    rcases Double.toRatio?_ofRatio later (by omega) exponent fitted
        with ⟨significand, places, ratio, rounded, small, below, above⟩
    refine ⟨significand, places, ratio, small, by omega, by omega, ?_⟩
    intro second
    -- Half a unit of the last place is less than a microsecond.
    have fine : 2 ^ 19 ≤ 2 ^ shift := Nat.pow_le_pow_right (by decide) least
    have near := Double.roundDiv_mul_near (micros * 2 ^ shift) 1000000 (by decide)
    have unscaled : second * 2 ^ places ≤ significand ↔
        second * 2 ^ shift ≤ Double.roundDiv (micros * 2 ^ shift) 1000000 := by
      have power : 0 < 2 ^ places := Nat.pow_pos (by decide)
      have other : 0 < 2 ^ shift := Nat.pow_pos (by decide)
      rw [← Nat.mul_le_mul_right_iff other, rounded, Nat.mul_right_comm,
        Nat.mul_le_mul_right_iff power]
    rw [unscaled]
    generalize Double.roundDiv (micros * 2 ^ shift) 1000000 = value at near
    constructor
    · intro reached
      apply Nat.le_of_not_lt
      intro before
      have scaled : (micros + 1) * 2 ^ shift ≤ second * 1000000 * 2 ^ shift :=
        Nat.mul_le_mul_right _ (by omega)
      rw [Nat.mul_right_comm, Nat.add_mul] at scaled
      omega
    · intro reached
      apply Nat.le_of_not_lt
      intro before
      have scaled : second * 1000000 * 2 ^ shift ≤ micros * 2 ^ shift :=
        Nat.mul_le_mul_right _ reached
      rw [Nat.mul_right_comm] at scaled
      omega

/-- A leeway that is not beyond the clock is subtracted without rounding. -/
theorem intLe_toDouble_sub (since : now.micros = micros) (early : micros < 2 ^ 34 * 1000000)
    (leeway : Nat) (within : leeway * 1000000 ≤ micros) (expiry : Int) :
    Double.intLe expiry (now.toDouble.sub (Double.ofInt leeway)) = true ↔
      (expiry + leeway) * 1000000 ≤ micros := by
  have counted : ∀ second : Nat,
      (second : Int) * 1000000 ≤ micros ↔ second * 1000000 ≤ micros := by
    intro second
    omega
  rcases toDouble_rounds since early
      with ⟨significand, places, ratio, small, positive, bounded, compared⟩
  have whole : Double.ofInt leeway = Double.ofRatio false leeway 1 := by
    have nonnegative : ¬ (leeway : Int) < 0 := by omega
    simp only [Double.ofInt, nonnegative, decide_false, Int.natAbs_natCast]
  rcases Double.toRatio?_ofRatio_exact leeway (leeway * 2) Nat.one_pos Nat.one_pos (by decide)
      (by omega) (by omega) with ⟨other, others, otherRatio, otherSame⟩
  rw [← whole] at otherRatio
  -- The leeway in units of the last place of the clock is the part that is taken off.
  have reached : leeway * 2 ^ places ≤ significand := (compared leeway).2 within
  rcases Nat.exists_eq_add_of_le reached with ⟨rest, split⟩
  have unscaled : (other : Int) = leeway * 2 ^ others := by
    have halves : other * 2 = leeway * 2 ^ others * 2 := by
      rw [Nat.pow_one] at otherSame
      rw [otherSame, Nat.mul_right_comm]
    exact_mod_cast Nat.eq_of_mul_eq_mul_right (by decide) halves
  have difference : (significand : Int) * (2 ^ others : Nat) - other * (2 ^ places : Nat) =
      ((rest * 2 ^ others : Nat) : Int) := by
    rw [unscaled, split]
    push_cast
    rw [Int.add_mul, Int.mul_right_comm]
    omega
  rw [Double.sub_of_toRatio? ratio otherRatio, difference]
  have nonnegative : ¬ ((rest * 2 ^ others : Nat) : Int) < 0 := by omega
  simp only [nonnegative, decide_false, Int.natAbs_natCast]
  have denPositive : 0 < 2 ^ places * 2 ^ others :=
    Nat.mul_pos (Nat.pow_pos (by decide)) (Nat.pow_pos (by decide))
  rcases Double.toRatio?_ofRatio_exact (rest * 2 ^ others) rest denPositive positive bounded
      (by rw [Nat.mul_assoc, Nat.mul_comm (2 ^ others)]) (by omega)
      with ⟨last, lasts, lastRatio, lastSame⟩
  rw [Double.intLe_of_toRatio? lastRatio, decide_eq_true_iff]
  have units : expiry * (2 ^ lasts : Nat) ≤ last ↔
      (expiry + leeway) * (2 ^ places : Nat) ≤ significand := by
    have power : (0 : Int) < (2 ^ places : Nat) := by
      exact_mod_cast Nat.pow_pos (n := places) (by decide : 0 < 2)
    have other : (0 : Int) < (2 ^ lasts : Nat) := by
      exact_mod_cast Nat.pow_pos (n := lasts) (by decide : 0 < 2)
    have equal : (last : Int) * (2 ^ places : Nat) = rest * (2 ^ lasts : Nat) := by
      exact_mod_cast lastSame
    have whole : (significand : Int) = leeway * (2 ^ places : Nat) + rest := by
      exact_mod_cast split
    rw [← Int.mul_le_mul_right power, equal, Int.mul_right_comm, Int.mul_le_mul_right other, whole,
      Int.add_mul]
    omega
  rw [units]
  rcases Int.lt_or_le 0 (expiry + leeway) with later | early
  · rcases Int.eq_ofNat_of_zero_le (Int.le_of_lt later) with ⟨second, same⟩
    rw [same, counted, ← Int.natCast_mul, Int.ofNat_le]
    exact compared second
  · have none : (expiry + leeway) * (2 ^ places : Nat) ≤ 0 :=
      Int.mul_nonpos_of_nonpos_of_nonneg early (Int.natCast_nonneg _)
    constructor
    · intro _
      omega
    · intro _
      omega

end Instant
end RealmAuth
