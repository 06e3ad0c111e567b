import CallChain.Decimal.Binary64
import Mathlib.Algebra.Group.Nat.Defs

/-!
# Rounding to a double

`Binary64.value` is the value of a finite double in units of `2 ^ (-1074)`.  Rounding a quotient keeps
two things that are needed of it: the result never lies above a double that the quotient does not lie
above (`value_ofQuotient_le`), and it is finite as long as the quotient stays below the middle between
the greatest double and the next power of two (`isInfinite_ofQuotient`).  Both rest on the place of the
last bit, which is the least at which the quotient stays below `2 ^ 53` (`lt_of_lastPlace`,
`le_of_lastPlace`).
-/

set_option autoImplicit false

namespace CallChain.Binary64

/-- The value of a finite nonnegative double, in units of `2 ^ (-1074)`. -/
def value (x : Binary64) : Nat := x.significand * 2 ^ x.shift

/-- A quotient rounds to at most a whole number that it lies less than one half above. -/
theorem roundQuotient_le {num den k : Nat} (h : 2 * num < (2 * k + 1) * den) :
    roundQuotient num den ≤ k := by
  have hsplit : den * (num / den) + num % den = num := Nat.div_add_mod num den
  have hexpand : (2 * k + 1) * den = 2 * (den * k) + den := by
    rw [Nat.add_mul, Nat.one_mul, Nat.mul_assoc, Nat.mul_comm k den]
  have hquot : num / den ≤ k := by
    apply Nat.le_of_lt_succ
    apply Nat.div_lt_of_lt_mul
    have hsucc : den * k.succ = den * k + den := Nat.mul_succ den k
    omega
  unfold roundQuotient
  rcases Nat.lt_or_eq_of_le hquot with hlt | heq
  · dsimp only
    split
    · omega
    · split
      · omega
      · split <;> omega
  · have hrest : 2 * (num % den) < den := by
      rw [heq] at hsplit
      omega
    rw [if_pos hrest]
    omega

theorem le_roundQuotient {num den k : Nat} (hden : 0 < den) (h : k * den ≤ num) :
    k ≤ roundQuotient num den := by
  have hquot : k ≤ num / den := (Nat.le_div_iff_mul_le hden).mpr h
  unfold roundQuotient
  dsimp only
  split
  · exact hquot
  · split
    · omega
    · split <;> omega

-- irreducible, because the literal `2 ^ 1074` is nowhere to be computed
/-- How many units `2 ^ (-1074)` one is. -/
@[irreducible]
def units : Nat := Nat.pow 2 1074

theorem units_eq : units = 2 ^ 1074 := by
  unfold units
  generalize 1074 = k
  rfl

theorem two_pow_mul_units (k : Nat) : 2 ^ k * units = 2 ^ (k + 1074) := by
  rw [units_eq]
  generalize 1074 = j
  exact (Nat.pow_add 2 k j).symm

theorem two_pow_carry (k : Nat) : 2 ^ 53 * 2 ^ k = 2 ^ 52 * 2 ^ (k + 1) := by
  rw [Nat.pow_succ 2 k]
  omega

theorem units_pos : 0 < units := by
  unfold units
  generalize 1074 = k
  exact Nat.two_pow_pos k

/-- The first guess at the place of the last bit. -/
def guessedPlace (num den : Nat) : Nat := (num.log2 + 1074) - (den.log2 + 53)

/-- The first of three places at which a number stays below `2 ^ 53`; the third is not tried. -/
def firstPlace (guess scaled den : Nat) : Nat :=
  if scaled < den * Nat.pow 2 (guess + 53) then guess
  else if scaled < den * Nat.pow 2 (guess + 54) then guess + 1 else guess + 2

theorem lastPlace_eq (num den : Nat) :
    lastPlace num den = firstPlace (guessedPlace num den) (num * units) den := by
  unfold lastPlace firstPlace guessedPlace units
  rfl

theorem firstPlace_cases (guess scaled den : Nat) :
    (firstPlace guess scaled den = guess ∧ scaled < den * 2 ^ (guess + 53)) ∨
    (firstPlace guess scaled den = guess + 1 ∧ den * 2 ^ (guess + 53) ≤ scaled ∧
      scaled < den * 2 ^ (guess + 54)) ∨
    (firstPlace guess scaled den = guess + 2 ∧ den * 2 ^ (guess + 54) ≤ scaled) := by
  simp only [firstPlace, Nat.pow_eq]
  split
  · omega
  · split <;> omega

section

variable {num den : Nat}

/-- In its place, the last bit leaves the quotient below `2 ^ 53`. -/
theorem lt_of_lastPlace (hden : 0 < den) :
    num * units < den * 2 ^ (lastPlace num den + 53) := by
  rw [lastPlace_eq]
  rcases firstPlace_cases (guessedPlace num den) (num * units) den with
    ⟨hplace, h⟩ | ⟨hplace, -, h⟩ | ⟨hplace, -⟩
  · rw [hplace]
    exact h
  · rw [hplace]
    exact h
  · -- the third place was not tried; the logarithms alone bound the quotient there
    have hnum : num < 2 ^ (num.log2 + 1) := Nat.lt_log2_self
    have hlog : 2 ^ den.log2 ≤ den := Nat.log2_self_le (Nat.ne_zero_of_lt hden)
    have hguess : num.log2 + 1 + 1074 ≤ den.log2 + (guessedPlace num den + 2 + 53) := by
      unfold guessedPlace
      omega
    calc num * units < 2 ^ (num.log2 + 1) * units := Nat.mul_lt_mul_of_pos_right hnum units_pos
      _ = 2 ^ (num.log2 + 1 + 1074) := two_pow_mul_units _
      _ ≤ 2 ^ (den.log2 + (guessedPlace num den + 2 + 53)) :=
          Nat.pow_le_pow_right Nat.two_pos hguess
      _ = 2 ^ den.log2 * 2 ^ (guessedPlace num den + 2 + 53) := Nat.pow_add 2 _ _
      _ ≤ den * 2 ^ (firstPlace (guessedPlace num den) (num * units) den + 53) := by
          rw [hplace]
          exact Nat.mul_le_mul_right _ hlog

/-- The place of the last bit is the least possible. -/
theorem le_of_lastPlace (hnum : 0 < num) (hplace : lastPlace num den ≠ 0) :
    den * 2 ^ (lastPlace num den + 52) ≤ num * units := by
  rw [lastPlace_eq] at hplace ⊢
  rcases firstPlace_cases (guessedPlace num den) (num * units) den with
    ⟨hguess, -⟩ | ⟨hguess, h, -⟩ | ⟨hguess, h⟩
  · -- the guess is not zero, so its subtraction has cut nothing off
    rw [hguess] at hplace ⊢
    have hlog : 2 ^ num.log2 ≤ num := Nat.log2_self_le (Nat.ne_zero_of_lt hnum)
    have hden : den < 2 ^ (den.log2 + 1) := Nat.lt_log2_self
    have hexponent : den.log2 + 1 + (guessedPlace num den + 52) = num.log2 + 1074 := by
      unfold guessedPlace at hplace ⊢
      omega
    calc den * 2 ^ (guessedPlace num den + 52)
        ≤ 2 ^ (den.log2 + 1) * 2 ^ (guessedPlace num den + 52) := Nat.mul_le_mul_right _ (Nat.le_of_lt hden)
      _ = 2 ^ (num.log2 + 1074) := by rw [← Nat.pow_add, hexponent]
      _ = 2 ^ num.log2 * units := (two_pow_mul_units _).symm
      _ ≤ num * units := Nat.mul_le_mul_right _ hlog
  · rw [hguess]
    exact h
  · rw [hguess]
    exact h

/-- The significand that a quotient rounds to, before its word is put together. -/
def rounded (num den : Nat) : Nat := roundQuotient (num * units) (den * 2 ^ lastPlace num den)

theorem rounded_le (hden : 0 < den) : rounded num den ≤ 2 ^ 53 := by
  apply roundQuotient_le
  have h : num * units < den * (2 ^ lastPlace num den * 2 ^ 53) := by
    rw [← Nat.pow_add]
    exact lt_of_lastPlace hden
  have hpos : 0 < den * 2 ^ lastPlace num den := Nat.mul_pos hden (Nat.two_pow_pos _)
  rw [← Nat.mul_assoc] at h
  omega

theorem le_rounded (hnum : 0 < num) (hden : 0 < den) (hplace : lastPlace num den ≠ 0) :
    2 ^ 52 ≤ rounded num den := by
  apply le_roundQuotient (Nat.mul_pos hden (Nat.two_pow_pos _))
  have h : den * (2 ^ lastPlace num den * 2 ^ 52) ≤ num * units := by
    rw [← Nat.pow_add]
    exact le_of_lastPlace hnum hplace
  rw [← Nat.mul_assoc] at h
  omega

/-- The word of a rounded quotient, unless it is beyond the greatest double. -/
def roundedWord (num den : Nat) : Nat :=
  if rounded num den < 2 ^ 52 then rounded num den
  else lastPlace num den * 2 ^ 52 + rounded num den

theorem ofQuotient_eq (num den : Nat) :
    ofQuotient num den = ⟨min infinityWord (roundedWord num den)⟩ := by
  unfold ofQuotient roundedWord rounded units fractionLimit
  rw [Nat.min_def]
  rfl

end

/-- The value of a word below that of infinity. -/
theorem value_word {place m : Nat} (hplace : place ≤ 2045) (hm : m ≤ 2 ^ 53)
    (hnormal : m < 2 ^ 52 → place = 0) :
    value ⟨if m < 2 ^ 52 then m else place * 2 ^ 52 + m⟩ = m * 2 ^ place := by
  unfold value significand shift exponentField magnitude signBit fractionLimit
  simp only [Nat.pow_eq]
  split
  next hsmall =>
    have hzero : m % 2 ^ 63 / 2 ^ 52 = 0 := by omega
    have hm' : m % 2 ^ 63 = m := by omega
    rw [if_pos hzero, hzero, hm', hnormal hsmall]
  next hlarge =>
    have hword : (place * 2 ^ 52 + m) % 2 ^ 63 = place * 2 ^ 52 + m := by omega
    rw [hword]
    rcases Nat.lt_or_eq_of_le hm with hlt | heq
    · have hfield : (place * 2 ^ 52 + m) / 2 ^ 52 = place + 1 := by omega
      have hrest : (place * 2 ^ 52 + m) % 2 ^ 52 = m - 2 ^ 52 := by omega
      rw [hfield, hrest, if_neg (Nat.succ_ne_zero place), Nat.add_sub_cancel,
        Nat.add_sub_cancel' (Nat.le_of_not_lt hlarge)]
    · -- the significand has grown by one bit
      have hfield : (place * 2 ^ 52 + m) / 2 ^ 52 = place + 1 + 1 := by omega
      have hrest : (place * 2 ^ 52 + m) % 2 ^ 52 = 0 := by omega
      rw [hfield, hrest, if_neg (Nat.succ_ne_zero _), Nat.add_sub_cancel, heq, two_pow_carry,
        Nat.add_zero]

section

variable {num den : Nat}

theorem value_infinity : value ⟨infinityWord⟩ = 2 ^ 52 * 2 ^ (2045 + 1) := by
  have hshift : shift ⟨infinityWord⟩ = 2045 + 1 := by decide +kernel
  have hsignificand : significand ⟨infinityWord⟩ = 2 ^ 52 := by decide +kernel
  rw [value, hshift, hsignificand]

/-- A word above that of infinity belongs to a significand that is too large for its place. -/
theorem infinity_le_of_infinityWord_le {place m : Nat} (hm : m ≤ 2 ^ 53)
    (hword : infinityWord ≤ if m < 2 ^ 52 then m else place * 2 ^ 52 + m) :
    2 ^ 52 * 2 ^ (2045 + 1) ≤ m * 2 ^ place := by
  have hnormal : 2 ^ 52 ≤ m ∧ 2047 * 2 ^ 52 ≤ place * 2 ^ 52 + m := by
    unfold infinityWord at hword
    rw [Nat.pow_eq] at hword
    split at hword <;> omega
  rcases Nat.lt_or_ge place 2046 with hlt | hge
  · have hplace : place = 2045 := by omega
    have hfull : m = 2 ^ 53 := by omega
    rw [hplace, hfull]
    exact Nat.le_of_eq (two_pow_carry 2045).symm
  · have hplace : 2045 + 1 ≤ place := hge
    generalize 2045 + 1 = top at hplace ⊢
    exact Nat.mul_le_mul hnormal.1 (Nat.pow_le_pow_right Nat.two_pos hplace)

theorem rounded_zero (den : Nat) : rounded 0 den = 0 := by
  simp [rounded, roundQuotient]

/-- A rounded quotient is worth at most its significand in its place. -/
theorem value_ofQuotient_le_rounded (hnum : 0 < num) (hden : 0 < den) :
    value (ofQuotient num den) ≤ rounded num den * 2 ^ lastPlace num den := by
  have hm : rounded num den ≤ 2 ^ 53 := rounded_le hden
  rw [ofQuotient_eq]
  rcases Nat.lt_or_ge (roundedWord num den) infinityWord with hsmall | hlarge
  · rw [Nat.min_eq_right (Nat.le_of_lt hsmall)]
    have hnormal : rounded num den < 2 ^ 52 → lastPlace num den = 0 := by
      intro hlt
      cases Nat.eq_zero_or_pos (lastPlace num den) with
      | inl hzero => exact hzero
      | inr hpos => exact absurd (le_rounded hnum hden (Nat.ne_zero_of_lt hpos)) (Nat.not_le_of_lt hlt)
    have hplace : lastPlace num den ≤ 2045 := by
      unfold roundedWord infinityWord at hsmall
      rw [Nat.pow_eq] at hsmall
      split at hsmall
      · omega
      · omega
    exact Nat.le_of_eq (value_word hplace hm hnormal)
  · rw [Nat.min_eq_left hlarge, value_infinity]
    exact infinity_le_of_infinityWord_le hm hlarge

/-- A quotient that lies at or below a double rounds to at most that double. -/
theorem value_ofQuotient_le {k p : Nat} (hnum : 0 < num) (hden : 0 < den) (hk : k ≤ 2 ^ 53)
    (h : num * units ≤ den * (k * 2 ^ p)) : value (ofQuotient num den) ≤ k * 2 ^ p := by
  -- the double is a multiple of the last bit of the quotient
  have hmultiple : ∃ j, k * 2 ^ p = j * 2 ^ lastPlace num den := by
    rcases Nat.lt_or_ge p (lastPlace num den) with hlt | hge
    · -- then the bit is one place above `p`, and the double is a power of two
      have hle : den * 2 ^ (lastPlace num den + 52) ≤ den * (k * 2 ^ p) :=
        Nat.le_trans (le_of_lastPlace hnum (Nat.ne_zero_of_lt hlt)) h
      have hbound : 2 ^ (lastPlace num den + 52) ≤ 2 ^ (53 + p) := by
        rw [Nat.pow_add 2 53 p]
        exact Nat.le_trans (Nat.le_of_mul_le_mul_left hle hden) (Nat.mul_le_mul_right _ hk)
      have hplace : lastPlace num den = p + 1 := by
        have := (Nat.pow_le_pow_iff_right (by omega)).mp hbound
        omega
      have hfull : k = 2 ^ 53 := by
        rw [hplace, show p + 1 + 52 = 53 + p by omega, Nat.pow_add] at hle
        have := Nat.le_of_mul_le_mul_right (Nat.le_of_mul_le_mul_left hle hden)
          (Nat.two_pow_pos p)
        omega
      rw [hplace, hfull]
      exact ⟨2 ^ 52, two_pow_carry p⟩
    · refine ⟨k * 2 ^ (p - lastPlace num den), ?_⟩
      rw [Nat.mul_assoc, ← Nat.pow_add, Nat.sub_add_cancel hge]
  obtain ⟨j, hj⟩ := hmultiple
  have hrounded : rounded num den ≤ j := by
    apply roundQuotient_le
    have hpos : 0 < den * 2 ^ lastPlace num den := Nat.mul_pos hden (Nat.two_pow_pos _)
    have hexpand : (2 * j + 1) * (den * 2 ^ lastPlace num den) =
        2 * (den * (j * 2 ^ lastPlace num den)) + den * 2 ^ lastPlace num den := by
      rw [Nat.add_mul, Nat.one_mul, Nat.mul_assoc, Nat.mul_left_comm j]
    rw [hj] at h
    omega
  rw [hj]
  exact Nat.le_trans (value_ofQuotient_le_rounded hnum hden) (Nat.mul_le_mul_right _ hrounded)

/-- The middle between the greatest double and the next power of two. -/
@[irreducible]
def overflow : Nat := (2 ^ 54 - 1) * Nat.pow 2 2044

theorem lt_of_middle (place : Nat) {k : Nat} (hk : place + 54 ≤ k) :
    (2 ^ 54 - 1) * Nat.pow 2 place < 2 ^ k := by
  have hpos : 0 < 2 ^ place := Nat.two_pow_pos place
  have hmono : 2 ^ place * 2 ^ 54 ≤ 2 ^ k := by
    rw [← Nat.pow_add]
    exact Nat.pow_le_pow_right Nat.two_pos hk
  rw [Nat.pow_eq]
  omega

/-- Below the middle between `2 ^ 53 - 1` and `2 ^ 53` in its place, a significand is no power of two. -/
theorem rounded_lt_of_middle {place : Nat}
    (h : num * units < den * ((2 ^ 54 - 1) * Nat.pow 2 place))
    (hplace : lastPlace num den = place + 1) : rounded num den < 2 ^ 53 := by
  have hrounded : rounded num den ≤ 2 ^ 53 - 1 := by
    apply roundQuotient_le
    have hodd : 2 * (2 ^ 53 - 1) + 1 = 2 ^ 54 - 1 := by decide
    have hdouble (c : Nat) : 2 * (den * (c * Nat.pow 2 place)) = c * (den * 2 ^ (place + 1)) := by
      rw [Nat.pow_eq, Nat.pow_succ]
      grind
    rw [hplace, hodd, ← hdouble]
    omega
  omega

/-- Below that middle, rounding stays finite. -/
theorem isInfinite_ofQuotient (hden : 0 < den) (h : num * units < den * overflow) :
    (ofQuotient num den).isInfinite = false := by
  have hword : roundedWord num den < infinityWord := by
    have hm : rounded num den ≤ 2 ^ 53 := rounded_le hden
    have hplace : rounded num den = 0 ∨ lastPlace num den < 2045 ∨
        lastPlace num den = 2045 ∧ rounded num den < 2 ^ 53 := by
      rcases Nat.eq_zero_or_pos num with rfl | hnum
      · exact .inl (rounded_zero den)
      · right
        rcases Nat.lt_trichotomy (lastPlace num den) 2045 with hlt | heq | hgt
        · exact .inl hlt
        · have hlast : lastPlace num den = 2044 + 1 := heq
          unfold overflow at h
          generalize 2044 = place at h hlast
          exact .inr ⟨heq, rounded_lt_of_middle h hlast⟩
        · have hlarge : den * 2 ^ (lastPlace num den + 52) < den * overflow :=
            Nat.lt_of_le_of_lt (le_of_lastPlace hnum (Nat.ne_zero_of_lt hgt)) h
          have hsmall : overflow < 2 ^ (lastPlace num den + 52) := by
            unfold overflow
            have hk : 2044 + 54 ≤ lastPlace num den + 52 := by omega
            generalize 2044 = place at hk ⊢
            exact lt_of_middle place hk
          exact absurd (Nat.lt_of_mul_lt_mul_left hlarge) (Nat.lt_asymm hsmall)
    unfold roundedWord infinityWord
    rw [Nat.pow_eq]
    split
    · omega
    · omega
  have hmagnitude : roundedWord num den % 2 ^ 63 = roundedWord num den := by
    apply Nat.mod_eq_of_lt
    exact Nat.lt_trans hword (by decide +kernel)
  rw [ofQuotient_eq, Nat.min_eq_right (Nat.le_of_lt hword)]
  unfold isInfinite magnitude signBit
  rw [Nat.pow_eq, hmagnitude]
  simpa using hword

/-- A product below that middle is finite. -/
theorem isInfinite_mul {x y : Binary64} (h : value x * value y < units * overflow) :
    (x.mul y).isInfinite = false := by
  have hmul : x.mul y = ofQuotient (value x * value y) (units * units) := by
    unfold mul value units
    rfl
  rw [hmul]
  apply isInfinite_ofQuotient (Nat.mul_pos units_pos units_pos)
  calc value x * value y * units < units * overflow * units :=
        Nat.mul_lt_mul_of_pos_right h units_pos
    _ = units * units * overflow := Nat.mul_right_comm units overflow units

theorem value_ofNat_le {n k p : Nat} (hn : 0 < n) (hk : k ≤ 2 ^ 53) (h : n ≤ k * 2 ^ p) :
    value (ofNat n) ≤ k * 2 ^ p * units := by
  have hshift : k * 2 ^ p * units = k * 2 ^ (p + 1074) := by
    rw [Nat.mul_assoc, two_pow_mul_units]
  rw [hshift]
  apply value_ofQuotient_le hn Nat.one_pos hk
  rw [← hshift, Nat.one_mul]
  exact Nat.mul_le_mul_right _ h

end

end CallChain.Binary64
