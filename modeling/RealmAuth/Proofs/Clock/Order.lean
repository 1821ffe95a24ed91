import Mathlib.Algebra.Order.Field.Power
import Mathlib.Algebra.Order.Field.Rat
import Mathlib.Tactic.FieldSimp
import Mathlib.Tactic.Linarith
import Mathlib.Tactic.Positivity
import Mathlib.Tactic.Ring
import RealmAuth.Proofs.Clock.Rounding

namespace RealmAuth

/-!
The order of the clock in double precision.  Rounding loses differences but never
turns one around: of two quotients the greater one is rounded to the same double or
to a greater one, also where it comes to need another exponent or passes beyond the
greatest double.  The same holds of what is left when a fixed number is subtracted.
So a clock that is compared in double precision never goes back.

The order is the one of the rational numbers that a double is at least.  What is no
number is at least none of them, so the results that cannot be compared stand with
the least ones.
-/

namespace Double

/-! ## Rounding keeps the order -/

/-- The greater quotient is rounded to the greater integer. -/
theorem roundDiv_mono {num den other unit : Nat} (positive : 0 < den) (above : 0 < unit)
    (le : num * unit ≤ other * den) : roundDiv num den ≤ roundDiv other unit := by
  have parts := Nat.div_add_mod num den
  have others := Nat.div_add_mod other unit
  have rest := Nat.mod_lt num positive
  have spare := Nat.mod_lt other above
  unfold roundDiv
  simp only
  generalize num / den = quotient at *
  generalize num % den = left at *
  generalize other / unit = whole at *
  generalize other % unit = extra at *
  subst parts others
  have scaled : den * unit * quotient + left * unit ≤ den * unit * whole + extra * den := by
    linarith
  rcases Nat.lt_trichotomy quotient whole with less | same | greater
  · split <;> split <;> omega
  · subst same
    -- With one quotient for both, the rest that counts for more is rounded up if the other is.
    have rests : left * unit ≤ extra * den := by omega
    have raised : ∀ least : Nat, least ≤ 2 * left → least * unit ≤ den * (2 * extra) := by
      intro least given
      have larger := Nat.mul_le_mul_right unit given
      linarith
    split
    · rename_i up
      have up' : unit < 2 * extra ∨ (2 * extra = unit ∧ quotient % 2 = 1) := by
        rcases up with more | ⟨half, odd⟩
        · left
          have strict := raised (den + 1) more
          have room : den * unit < den * (2 * extra) := by linarith
          exact Nat.lt_of_mul_lt_mul_left room
        · have reached : unit ≤ 2 * extra := by
            have weak := raised den (Nat.le_of_eq half.symm)
            exact Nat.le_of_mul_le_mul_left weak positive
          omega
      rw [if_pos up']
    · split <;> omega
  · exfalso
    have product : den * unit * (whole + 1) ≤ den * unit * quotient :=
      Nat.mul_le_mul_left _ greater
    have small : extra * den < unit * den := Nat.mul_lt_mul_of_pos_right spare positive
    have rest : 0 ≤ left * unit := Nat.zero_le _
    linarith

/-- The significand of a quotient at an exponent. -/
def roundAt (num den : Nat) (exponent : Int) : Nat :=
  if 0 ≤ exponent then roundDiv num (den * 2 ^ exponent.toNat)
  else roundDiv (num * 2 ^ (-exponent).toNat) den

theorem two_pow_pos (exponent : Int) : (0 : ℚ) < 2 ^ exponent := by
  positivity

/-- The significand is the rounded quotient in units of the last place. -/
theorem exists_roundDiv (num : Nat) {den : Nat} (positive : 0 < den) (exponent : Int) :
    ∃ upper lower : Nat, roundAt num den exponent = roundDiv upper lower ∧ 0 < lower ∧
      (upper : ℚ) / lower = num / den / 2 ^ exponent := by
  have nonzero : (den : ℚ) ≠ 0 := by positivity
  unfold roundAt
  split
  · rename_i whole
    rcases Int.eq_ofNat_of_zero_le whole with ⟨places, rfl⟩
    refine ⟨num, den * 2 ^ places, rfl, by positivity, ?_⟩
    push_cast
    rw [zpow_natCast, div_div]
  · rename_i fraction
    rcases Int.exists_eq_neg_ofNat (Int.le_of_not_le fraction) with ⟨places, rfl⟩
    refine ⟨num * 2 ^ places, den, by rw [Int.neg_neg, Int.toNat_natCast], positive, ?_⟩
    push_cast
    rw [zpow_neg, zpow_natCast, div_inv_eq_mul, mul_div_right_comm]

/-- At one exponent the greater quotient has the greater significand. -/
theorem roundAt_mono {num den other unit : Nat} (positive : 0 < den) (above : 0 < unit)
    (le : (num : ℚ) / den ≤ other / unit) (exponent : Int) :
    roundAt num den exponent ≤ roundAt other unit exponent := by
  rcases exists_roundDiv num positive exponent with ⟨upper, lower, same, nonzero, value⟩
  rcases exists_roundDiv other above exponent with ⟨second, third, same', nonzero', value'⟩
  rw [same, same']
  apply roundDiv_mono nonzero nonzero'
  have ratio : (upper : ℚ) / lower ≤ second / third := by
    rw [value, value']
    exact div_le_div_of_nonneg_right le (two_pow_pos exponent).le
  rw [div_le_div_iff₀ (by positivity) (by positivity)] at ratio
  exact_mod_cast ratio

theorem roundAt_le {num den bound : Nat} (positive : 0 < den) {exponent : Int}
    (le : (num : ℚ) / den ≤ bound * 2 ^ exponent) : roundAt num den exponent ≤ bound := by
  rcases exists_roundDiv num positive exponent with ⟨upper, lower, same, nonzero, value⟩
  rw [same, ← roundDiv_mul bound 1 Nat.one_pos]
  apply roundDiv_mono nonzero Nat.one_pos
  rw [← div_le_iff₀ (two_pow_pos exponent), ← value, div_le_iff₀ (by positivity)] at le
  rw [Nat.mul_one, Nat.mul_one]
  exact_mod_cast le

theorem le_roundAt {num den bound : Nat} (positive : 0 < den) {exponent : Int}
    (le : (bound : ℚ) * 2 ^ exponent ≤ num / den) : bound ≤ roundAt num den exponent := by
  rcases exists_roundDiv num positive exponent with ⟨upper, lower, same, nonzero, value⟩
  rw [same, ← roundDiv_mul bound 1 Nat.one_pos]
  apply roundDiv_mono Nat.one_pos nonzero
  rw [← le_div_iff₀ (two_pow_pos exponent), ← value, le_div_iff₀ (by positivity)] at le
  rw [Nat.mul_one, Nat.mul_one]
  exact_mod_cast le

/-! ## Exponents -/

/-- The exponent is the guess from the lengths where the quotient has 53 bits, or the next. -/
theorem binade_eq (num : Nat) {den : Nat} (positive : 0 < den) {guess : Int}
    (lengths : (Nat.log2 num : Int) - Nat.log2 den - 53 = guess) :
    binade num den = if (num : ℚ) / den < 2 ^ (53 + guess) then guess else guess + 1 := by
  have nonzero : (0 : ℚ) < den := by positivity
  have fits : (if 0 ≤ guess then num < den * 2 ^ (53 + guess.toNat)
      else num * 2 ^ (-guess).toNat < den * 2 ^ 53) ↔ (num : ℚ) / den < 2 ^ (53 + guess) := by
    rw [div_lt_iff₀ nonzero]
    split
    · rename_i whole
      rcases Int.eq_ofNat_of_zero_le whole with ⟨places, rfl⟩
      have power : (2 : ℚ) ^ (53 + (places : Int)) * den = (den * 2 ^ (53 + places) : Nat) := by
        push_cast
        rw [mul_comm, ← zpow_natCast]
        push_cast
        rfl
      rw [power, Nat.cast_lt]
      rfl
    · rename_i fraction
      rcases Int.exists_eq_neg_ofNat (Int.le_of_not_le fraction) with ⟨places, rfl⟩
      have power : (2 : ℚ) ^ (53 + -(places : Int)) * den = (den * 2 ^ 53 : Nat) / 2 ^ places := by
        push_cast
        rw [zpow_add₀ two_ne_zero, zpow_neg, zpow_natCast, zpow_ofNat]
        ring
      rw [power, lt_div_iff₀ (by positivity), Int.neg_neg, Int.toNat_natCast]
      exact_mod_cast Iff.rfl
  unfold binade
  simp only [lengths]
  exact if_congr fits rfl rfl

/-- A quotient lies in the binade of its exponent: it has 53 bits before the point there. -/
theorem binade_bounds {num den : Nat} (numPositive : 0 < num) (positive : 0 < den) :
    (2 : ℚ) ^ (52 + binade num den) ≤ num / den ∧
      (num : ℚ) / den < 2 ^ (53 + binade num den) := by
  have nonzero : (0 : ℚ) < den := by positivity
  have lower : (2 : ℚ) ^ Nat.log2 num ≤ num := by
    exact_mod_cast Nat.log2_self_le (Nat.pos_iff_ne_zero.1 numPositive)
  have upper : (num : ℚ) < 2 ^ (Nat.log2 num + 1) := by
    exact_mod_cast Nat.lt_log2_self
  have least : (2 : ℚ) ^ Nat.log2 den ≤ den := by
    exact_mod_cast Nat.log2_self_le (Nat.pos_iff_ne_zero.1 positive)
  have most : (den : ℚ) < 2 ^ (Nat.log2 den + 1) := by
    exact_mod_cast Nat.lt_log2_self
  have below : (2 : ℚ) ^ (52 + ((Nat.log2 num : Int) - Nat.log2 den - 53)) ≤ num / den := by
    have split : 52 + ((Nat.log2 num : Int) - Nat.log2 den - 53) =
        (Nat.log2 num : Int) - (Nat.log2 den + 1 : Nat) := by omega
    rw [split, zpow_sub₀ two_ne_zero, zpow_natCast, zpow_natCast]
    exact div_le_div₀ (by positivity) lower nonzero most.le
  have above : (num : ℚ) / den < 2 ^ (54 + ((Nat.log2 num : Int) - Nat.log2 den - 53)) := by
    have split : 54 + ((Nat.log2 num : Int) - Nat.log2 den - 53) =
        (Nat.log2 num + 1 : Nat) - (Nat.log2 den : Int) := by omega
    rw [split, zpow_sub₀ two_ne_zero, zpow_natCast, zpow_natCast]
    exact div_lt_div₀ upper least (by positivity) (by positivity)
  rw [binade_eq num positive rfl]
  generalize (Nat.log2 num : Int) - Nat.log2 den - 53 = guess at below above ⊢
  split
  · rename_i fits
    exact ⟨below, fits⟩
  · rename_i long
    rw [show 52 + (guess + 1) = 53 + guess by ring, show 53 + (guess + 1) = 54 + guess by ring]
    exact ⟨not_lt.1 long, above⟩

/-- The exponent at which a quotient is rounded. -/
def placeOf (num den : Nat) : Int :=
  max leastExponent (binade num den)

/-- The value of a rounded quotient, as if there was no greatest double. -/
def rounded (num den : Nat) : ℚ :=
  roundAt num den (placeOf num den) * 2 ^ placeOf num den

theorem rounded_zero (den : Nat) : rounded 0 den = 0 := by
  have none : roundAt 0 den (placeOf 0 den) = 0 := by
    unfold roundAt roundDiv
    simp
  rw [rounded, none, Nat.cast_zero, zero_mul]

theorem rounded_nonneg (num den : Nat) : 0 ≤ rounded num den :=
  mul_nonneg (Nat.cast_nonneg _) (two_pow_pos _).le

theorem lt_two_pow_place {num den : Nat} (numPositive : 0 < num) (positive : 0 < den) :
    (num : ℚ) / den < 2 ^ (53 + placeOf num den) := by
  apply lt_of_lt_of_le (binade_bounds numPositive positive).2
  apply zpow_le_zpow_right₀ one_le_two
  have deeper : binade num den ≤ placeOf num den := le_max_right _ _
  omega

/-- Above the least exponent a quotient has all its 53 bits. -/
theorem two_pow_place_le {num den : Nat} (numPositive : 0 < num) (positive : 0 < den)
    (normal : leastExponent < placeOf num den) :
    (2 : ℚ) ^ (52 + placeOf num den) ≤ num / den := by
  have same : placeOf num den = binade num den := by
    unfold placeOf at normal ⊢
    omega
  rw [same]
  exact (binade_bounds numPositive positive).1

theorem two_pow_split (bits : Nat) (exponent : Int) :
    ((2 ^ bits : Nat) : ℚ) * 2 ^ exponent = 2 ^ (bits + exponent) := by
  push_cast
  rw [zpow_add₀ two_ne_zero, zpow_natCast]

theorem roundAt_place_le {num den : Nat} (numPositive : 0 < num) (positive : 0 < den) :
    roundAt num den (placeOf num den) ≤ 2 ^ 53 := by
  apply roundAt_le positive
  rw [two_pow_split]
  exact (lt_two_pow_place numPositive positive).le

theorem le_roundAt_place {num den : Nat} (numPositive : 0 < num) (positive : 0 < den)
    (normal : leastExponent < placeOf num den) : 2 ^ 52 ≤ roundAt num den (placeOf num den) := by
  apply le_roundAt positive
  rw [two_pow_split]
  exact two_pow_place_le numPositive positive normal

/-- The greater quotient is rounded to the greater value, whatever exponents they need. -/
theorem rounded_mono {num den other unit : Nat} (positive : 0 < den) (above : 0 < unit)
    (le : (num : ℚ) / den ≤ other / unit) : rounded num den ≤ rounded other unit := by
  rcases Nat.eq_zero_or_pos num with zero | numPositive
  · rw [zero, rounded_zero]
    exact rounded_nonneg _ _
  have otherPositive : 0 < other := by
    apply Nat.pos_of_ne_zero
    intro zero
    have more : (0 : ℚ) < num / den := by positivity
    rw [zero, Nat.cast_zero, zero_div] at le
    exact absurd more (not_lt.2 le)
  have least : leastExponent ≤ placeOf num den := le_max_left _ _
  have other_least : leastExponent ≤ placeOf other unit := le_max_left _ _
  rcases lt_trichotomy (placeOf num den) (placeOf other unit) with less | same | greater
  · -- Whatever is carried over stays below the binade of the greater quotient.
    have small := roundAt_place_le numPositive positive
    have large := le_roundAt_place otherPositive above (lt_of_le_of_lt least less)
    calc
      rounded num den ≤ (2 ^ 53 : Nat) * 2 ^ placeOf num den := by
        apply mul_le_mul_of_nonneg_right (Nat.cast_le.2 small) (two_pow_pos _).le
      _ = 2 ^ (53 + placeOf num den) := two_pow_split 53 _
      _ ≤ 2 ^ (52 + placeOf other unit) := zpow_le_zpow_right₀ one_le_two (by omega)
      _ = (2 ^ 52 : Nat) * 2 ^ placeOf other unit := (two_pow_split 52 _).symm
      _ ≤ rounded other unit := by
        apply mul_le_mul_of_nonneg_right (Nat.cast_le.2 large) (two_pow_pos _).le
  · rw [rounded, rounded, ← same]
    apply mul_le_mul_of_nonneg_right _ (two_pow_pos _).le
    exact Nat.cast_le.2 (roundAt_mono positive above le _)
  · exfalso
    have low := two_pow_place_le numPositive positive (lt_of_le_of_lt other_least greater)
    have high := lt_two_pow_place otherPositive above
    have exponents := lt_of_le_of_lt (le_trans low le) high
    rw [zpow_lt_zpow_iff_right₀ one_lt_two] at exponents
    omega

/-! ## Doubles and the numbers that they are at least -/

/-- A double is at least a rational number. -/
def Reaches (bound : ℚ) : Double → Prop
  | nan => False
  | infinite negative => negative = false
  | finite negative significand exponent =>
      bound ≤ (if negative then -1 else 1) * ((significand : ℚ) * 2 ^ exponent)

/-- A double is at least all the numbers that another one is at least. -/
def Below (x y : Double) : Prop :=
  ∀ bound, x.Reaches bound → y.Reaches bound

/-- A significand that is carried over to 54 bits is the least one of the next exponent. -/
theorem ofRatio_eq (negative : Bool) {num : Nat} (positive : 0 < num) (den : Nat) :
    ofRatio negative num den =
      if roundAt num den (placeOf num den) = 2 ^ 53 then
        if greatestExponent < placeOf num den + 1 then infinite negative
        else finite negative (2 ^ 52) (placeOf num den + 1)
      else if greatestExponent < placeOf num den then infinite negative
        else finite negative (roundAt num den (placeOf num den)) (placeOf num den) := by
  have folded : ofRatio negative num den =
      if greatestExponent <
          (if roundAt num den (placeOf num den) = 2 ^ 53 then placeOf num den + 1
            else placeOf num den) then infinite negative
      else finite negative
          (if roundAt num den (placeOf num den) = 2 ^ 53 then 2 ^ 52
            else roundAt num den (placeOf num den))
          (if roundAt num den (placeOf num den) = 2 ^ 53 then placeOf num den + 1
            else placeOf num den) := by
    unfold ofRatio
    exact if_neg (Nat.pos_iff_ne_zero.1 positive)
  rw [folded]
  by_cases carried : roundAt num den (placeOf num den) = 2 ^ 53
  · simp only [if_pos carried]
  · simp only [if_neg carried]

/-- A quotient is rounded to its value, unless this is beyond the greatest double. -/
theorem ofRatio_cases (negative : Bool) (num : Nat) {den : Nat} (positive : 0 < den) :
    (2 ^ 1024 ≤ rounded num den ∧ ofRatio negative num den = infinite negative) ∨
      (rounded num den < 2 ^ 1024 ∧ ∃ significand exponent,
        ofRatio negative num den = finite negative significand exponent ∧
          (significand : ℚ) * 2 ^ exponent = rounded num den) := by
  rcases Nat.eq_zero_or_pos num with zero | numPositive
  · right
    rw [zero, rounded_zero]
    exact ⟨by positivity, 0, leastExponent, rfl, by simp⟩
  have small := roundAt_place_le numPositive positive
  have limit : (2 : ℚ) ^ 1024 = 2 ^ (1024 : Int) := (zpow_natCast 2 1024).symm
  rw [ofRatio_eq negative numPositive, limit, rounded]
  unfold greatestExponent
  split
  · rename_i carried
    rw [carried, two_pow_split]
    split
    · rename_i beyond
      exact Or.inl ⟨zpow_le_zpow_right₀ one_le_two (by omega), rfl⟩
    · rename_i within
      refine Or.inr ⟨zpow_lt_zpow_right₀ one_lt_two (by omega), _, _, rfl, ?_⟩
      rw [two_pow_split]
      congr 1
      omega
  · rename_i whole
    split
    · rename_i beyond
      have large := le_roundAt_place numPositive positive (by unfold leastExponent; omega)
      refine Or.inl ⟨?_, rfl⟩
      calc
        (2 : ℚ) ^ (1024 : Int) ≤ 2 ^ (52 + placeOf num den) :=
          zpow_le_zpow_right₀ one_le_two (by omega)
        _ = (2 ^ 52 : Nat) * 2 ^ placeOf num den := (two_pow_split 52 _).symm
        _ ≤ roundAt num den (placeOf num den) * 2 ^ placeOf num den :=
          mul_le_mul_of_nonneg_right (Nat.cast_le.2 large) (two_pow_pos _).le
    · rename_i within
      refine Or.inr ⟨?_, _, _, rfl, rfl⟩
      calc
        (roundAt num den (placeOf num den) : ℚ) * 2 ^ placeOf num den
            < (2 ^ 53 : Nat) * 2 ^ placeOf num den :=
          mul_lt_mul_of_pos_right (Nat.cast_lt.2 (lt_of_le_of_ne small whole)) (two_pow_pos _)
        _ = 2 ^ (53 + placeOf num den) := two_pow_split 53 _
        _ ≤ 2 ^ (1024 : Int) := zpow_le_zpow_right₀ one_le_two (by omega)

theorem reaches_ofRatio_false {num den : Nat} (positive : 0 < den) {bound : ℚ} :
    (ofRatio false num den).Reaches bound ↔
      bound ≤ rounded num den ∨ 2 ^ 1024 ≤ rounded num den := by
  rcases ofRatio_cases false num positive with ⟨beyond, same⟩ | ⟨within, _, _, same, value⟩
  · simp [same, Reaches, beyond]
  · rw [same, Reaches, value]
    simp [not_le.2 within]

theorem reaches_ofRatio_true {num den : Nat} (positive : 0 < den) {bound : ℚ} :
    (ofRatio true num den).Reaches bound ↔
      bound ≤ -rounded num den ∧ rounded num den < 2 ^ 1024 := by
  rcases ofRatio_cases true num positive with ⟨beyond, same⟩ | ⟨within, _, _, same, value⟩
  · simp [same, Reaches, not_lt.2 beyond]
  · rw [same, Reaches, value]
    simp [within]

/-- The greater quotient is rounded to the greater double, whatever the signs are. -/
theorem below_ofRatio {num other : Int} {den unit : Nat} (positive : 0 < den) (above : 0 < unit)
    (le : (num : ℚ) / den ≤ other / unit) :
    Below (ofRatio (num < 0) num.natAbs den) (ofRatio (other < 0) other.natAbs unit) := by
  intro bound
  rcases Int.lt_or_le num 0 with before | after
  · rcases Int.exists_eq_neg_ofNat before.le with ⟨size, rfl⟩
    simp only [before, decide_true, Int.natAbs_neg, Int.natAbs_natCast,
      reaches_ofRatio_true positive]
    rintro ⟨reached, small⟩
    rcases Int.lt_or_le other 0 with negative | nonnegative
    · rcases Int.exists_eq_neg_ofNat negative.le with ⟨rest, rfl⟩
      simp only [negative, decide_true, Int.natAbs_neg, Int.natAbs_natCast,
        reaches_ofRatio_true above]
      push_cast at le
      rw [neg_div, neg_div, neg_le_neg_iff] at le
      have smaller := rounded_mono above positive le
      exact ⟨reached.trans (neg_le_neg smaller), lt_of_le_of_lt smaller small⟩
    · have sign : ¬ other < 0 := not_lt.2 nonnegative
      simp only [sign, decide_false, reaches_ofRatio_false above]
      left
      calc
        bound ≤ -rounded size den := reached
        _ ≤ 0 := neg_nonpos.2 (rounded_nonneg _ _)
        _ ≤ rounded other.natAbs unit := rounded_nonneg _ _
  · have nonnegative : 0 ≤ other := by
      have quotient : (0 : ℚ) ≤ num / den := by positivity
      have ratio : (0 : ℚ) ≤ other / unit := quotient.trans le
      rw [le_div_iff₀ (by positivity), zero_mul] at ratio
      exact_mod_cast ratio
    rcases Int.eq_ofNat_of_zero_le after with ⟨size, rfl⟩
    rcases Int.eq_ofNat_of_zero_le nonnegative with ⟨rest, rfl⟩
    simp only [not_lt.2 after, not_lt.2 nonnegative, decide_false, Int.natAbs_natCast,
      reaches_ofRatio_false positive, reaches_ofRatio_false above]
    push_cast at le
    have greater := rounded_mono positive above le
    rintro (reached | beyond)
    · exact Or.inl (reached.trans greater)
    · exact Or.inr (beyond.trans greater)

/-! ## Differences and comparisons -/

/-- A finite double is the quotient that it stands for. -/
theorem exists_toRatio? (negative : Bool) (significand : Nat) (exponent : Int) :
    ∃ num den, (finite negative significand exponent).toRatio? = some (num, den) ∧ 0 < den ∧
      ∀ bound, (finite negative significand exponent).Reaches bound ↔ bound ≤ (num : ℚ) / den := by
  have signed : (((if negative then -(significand : Int) else significand) : Int) : ℚ) =
      (if negative then -1 else 1) * significand := by
    cases negative <;> simp
  unfold toRatio?
  simp only
  split
  · rename_i whole
    rcases Int.eq_ofNat_of_zero_le whole with ⟨places, rfl⟩
    refine ⟨_, 1, rfl, Nat.one_pos, fun bound => ?_⟩
    rw [Reaches, Int.cast_mul, signed, mul_assoc, zpow_natCast]
    push_cast
    rw [Int.toNat_natCast, div_one]
  · rename_i fraction
    rcases Int.exists_eq_neg_ofNat (Int.le_of_not_le fraction) with ⟨places, rfl⟩
    refine ⟨_, _, rfl, by positivity, fun bound => ?_⟩
    rw [Reaches, signed, ← mul_assoc, zpow_neg, zpow_natCast, Int.neg_neg, Int.toNat_natCast,
      div_eq_mul_inv]
    push_cast
    rfl

theorem intLe_iff {n : Int} {x : Double} : intLe n x = true ↔ x.Reaches n := by
  cases x with
  | nan => simp [intLe, Reaches]
  | infinite negative => simp [intLe, Reaches]
  | finite negative significand exponent =>
      rcases exists_toRatio? negative significand exponent with ⟨num, den, ratio, positive, value⟩
      rw [intLe_of_toRatio? ratio, value, decide_eq_true_iff, le_div_iff₀ (by positivity)]
      exact_mod_cast Iff.rfl

theorem reaches_all_iff {x : Double} : (∀ bound, x.Reaches bound) ↔ x = infinite false := by
  cases x with
  | nan => simp [Reaches]
  | infinite negative => simp [Reaches]
  | finite negative significand exponent =>
      rcases exists_toRatio? negative significand exponent with ⟨num, den, _, _, value⟩
      simp only [value, reduceCtorEq, iff_false]
      intro all
      have more := all (num / den + 1)
      linarith

/-- What is left of a double that is at least no number is at least no number. -/
theorem not_reaches_sub {x : Double} (nothing : ∀ bound, ¬ x.Reaches bound) (z : Double)
    (bound : ℚ) : ¬ (x.sub z).Reaches bound := by
  cases x with
  | nan => cases z <;> exact id
  | infinite negative =>
      cases negative with
      | false => exact absurd rfl (nothing 0)
      | true =>
          cases z with
          | infinite other => cases other <;> simp [sub, Reaches]
          | _ => simp [sub, Reaches]
  | finite negative significand exponent =>
      rcases exists_toRatio? negative significand exponent with ⟨num, den, _, _, value⟩
      exact absurd ((value _).2 le_rfl) (nothing (num / den))

theorem sub_ratio {num other : Int} {den unit : Nat} (positive : 0 < den) (above : 0 < unit) :
    ((num * unit - other * den : Int) : ℚ) / (den * unit : Nat) = num / den - other / unit := by
  push_cast
  field_simp

/-- What is left of the greater double is the greater one. -/
theorem Below.sub {x y : Double} (below : x.Below y) (z : Double) : (x.sub z).Below (y.sub z) := by
  cases x with
  | nan => exact fun bound reached => absurd reached (not_reaches_sub (fun _ => id) z bound)
  | infinite negative =>
      cases negative with
      | true =>
          have nothing : ∀ bound, ¬ (infinite true).Reaches bound := by simp [Reaches]
          exact fun bound reached => absurd reached (not_reaches_sub nothing z bound)
      | false =>
          have same : y = infinite false := reaches_all_iff.1 fun bound => below bound rfl
          rw [same]
          exact fun _ => id
  | finite negative significand exponent =>
      rcases exists_toRatio? negative significand exponent with ⟨num, den, ratio, positive, value⟩
      have reached := below _ ((value _).2 le_rfl)
      cases y with
      | nan => exact absurd reached id
      | infinite sign =>
          cases sign with
          | true => cases reached
          | false =>
              cases z with
              | nan => exact fun _ => id
              | infinite other =>
                  cases other with
                  | true => exact fun _ => id
                  | false => exact fun _ impossible => nomatch impossible
              | finite => exact fun _ _ => rfl
      | finite sign coefficient power =>
          rcases exists_toRatio? sign coefficient power
              with ⟨second, unit, ratio', above, value'⟩
          cases z with
          | nan => exact fun _ => id
          | infinite other => exact fun _ => id
          | finite last taken place =>
              rcases exists_toRatio? last taken place with ⟨third, part, ratio'', least, _⟩
              rw [sub_of_toRatio? ratio ratio'', sub_of_toRatio? ratio' ratio'']
              apply below_ofRatio (Nat.mul_pos positive least) (Nat.mul_pos above least)
              rw [sub_ratio positive least, sub_ratio above least]
              exact sub_le_sub_right ((value' _).1 reached) _

/-- An integer that is not after a double is not after a greater one. -/
theorem Below.intLe {x y : Double} (below : x.Below y) {n : Int} (le : intLe n x = true) :
    Double.intLe n y = true :=
  intLe_iff.2 (below _ (intLe_iff.1 le))

end Double

/-- The clock in double precision keeps the order of the clock. -/
theorem Instant.toDouble_below {earlier later : Instant} (le : earlier.micros ≤ later.micros) :
    earlier.toDouble.Below later.toDouble := by
  have second : 0 < perSecond.toNat := by decide
  apply Double.below_ofRatio second second
  exact div_le_div_of_nonneg_right (Int.cast_le.2 le) (Nat.cast_nonneg _)

end RealmAuth
