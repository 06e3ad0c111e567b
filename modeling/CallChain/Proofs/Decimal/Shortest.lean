import CallChain.Decimal.Shortest
import CallChain.Proofs.Decimal.Rounding

/-!
# What the shortest decimal of a double may be

The search for the shortest decimal walks down the grids `10 ^ e`.  On the way the middle of the
interval stays at or above one point of the grid and below `10 ^ k` of them (`Between`), so whatever is
found has at least one and at most eighteen digits (`firstHit_bounds`), and it never lies above the
interval.  Removing trailing zeros changes none of this.

The bounds decide how a reader fares that multiplies the digits by the power of ten and rounds twice:
`isInfinite_shortest` says that it never reaches infinity, however close the double is to the greatest.
The two roundings are too coarse for an estimate; the exponents are few, so they are checked one by
one (`product_lt_overflow`), and the greatest double is computed.
-/

set_option autoImplicit false

namespace CallChain.Decimal

open Binary64

/-- How many units `2 ^ (-1076)` one is. -/
@[irreducible]
def quarters : Nat := Nat.pow 2 1076

theorem quarters_pos : 0 < quarters := by
  unfold quarters
  generalize 1076 = k
  exact Nat.two_pow_pos k

theorem scales_of_nonneg (n : Nat) : scales n = (10 ^ n * quarters, 1) := by
  unfold scales quarters
  generalize Nat.pow 2 1076 = unit
  rw [if_pos (Int.natCast_nonneg n), Int.toNat_natCast]
  rfl

theorem scales_of_neg (n : Nat) : scales (-(n + 1 : Nat)) = (quarters, 10 ^ (n + 1)) := by
  have hn : ¬ (0 : Int) ≤ -(n + 1 : Nat) := by omega
  unfold scales quarters
  generalize Nat.pow 2 1076 = unit
  rw [if_neg hn, Int.neg_neg, Int.toNat_natCast]
  rfl

theorem nonneg_or_neg (e : Int) : (∃ n : Nat, e = n) ∨ ∃ n : Nat, e = -(n + 1 : Nat) := by
  rcases Int.le_total 0 e with h | h
  · exact .inl ⟨e.toNat, by omega⟩
  · cases Int.lt_or_eq_of_le h with
    | inl hlt => exact .inr ⟨(-e).toNat - 1, by omega⟩
    | inr heq => exact .inl ⟨0, heq⟩

theorem scales_pos (e : Int) : 0 < (scales e).1 ∧ 0 < (scales e).2 := by
  have hpow (n : Nat) : 0 < 10 ^ n := Nat.pow_pos (by omega)
  rcases nonneg_or_neg e with ⟨n, rfl⟩ | ⟨n, rfl⟩
  · rw [scales_of_nonneg]
    exact ⟨Nat.mul_pos (hpow n) quarters_pos, Nat.one_pos⟩
  · rw [scales_of_neg]
    exact ⟨quarters_pos, hpow (n + 1)⟩

/-- From one grid to the next coarser one, the factor is ten. -/
theorem scales_succ (e : Int) :
    (scales (e + 1)).1 * (scales e).2 = 10 * (scales e).1 * (scales (e + 1)).2 := by
  rcases nonneg_or_neg e with ⟨n, rfl⟩ | ⟨n, rfl⟩
  · have hnext : ((n : Int) + 1) = (n + 1 : Nat) := by omega
    rw [hnext, scales_of_nonneg, scales_of_nonneg, Nat.pow_succ]
    generalize quarters = unit
    grind
  · cases n with
    | zero =>
      have hnext : -((0 + 1 : Nat) : Int) + 1 = (0 : Nat) := by omega
      rw [hnext, scales_of_neg, scales_of_nonneg]
      generalize quarters = unit
      grind
    | succ n =>
      have hnext : -((n + 1 + 1 : Nat) : Int) + 1 = -(n + 1 : Nat) := by omega
      rw [hnext, scales_of_neg, scales_of_neg, Nat.pow_succ 10 (n + 1)]
      generalize quarters = unit
      grind

/-- A decimal is at most a number of units `2 ^ (-1076)`. -/
def AtMost (d : Decimal) (v : Nat) : Prop :=
  d.digits * (scales d.exponent).1 ≤ v * (scales d.exponent).2

/-- A number of units is at least one point of a grid and below `10 ^ k` of them. -/
def Between (v : Nat) (e : Int) (k : Nat) : Prop :=
  (scales e).1 ≤ v * (scales e).2 ∧ v * (scales e).2 < 10 ^ k * (scales e).1

section

variable {v k : Nat} {e : Int}

theorem le_finer (h : (scales (e + 1)).1 ≤ v * (scales (e + 1)).2) :
    (scales e).1 ≤ v * (scales e).2 := by
  have hsucc := scales_succ e
  have hpos : 0 < (scales (e + 1)).2 := (scales_pos (e + 1)).2
  generalize scales e = s at *
  generalize scales (e + 1) = s' at *
  apply Nat.le_of_mul_le_mul_right _ hpos
  calc s.1 * s'.2 ≤ 10 * s.1 * s'.2 := by
        rw [Nat.mul_assoc]
        exact Nat.le_mul_of_pos_left _ (by omega)
    _ = s'.1 * s.2 := hsucc.symm
    _ ≤ v * s'.2 * s.2 := Nat.mul_le_mul_right _ h
    _ = v * s.2 * s'.2 := Nat.mul_right_comm v s'.2 s.2

theorem lt_finer (h : v * (scales (e + 1)).2 < 10 ^ k * (scales (e + 1)).1) :
    v * (scales e).2 < 10 ^ (k + 1) * (scales e).1 := by
  have hsucc := scales_succ e
  have hpos : 0 < (scales e).2 := (scales_pos e).2
  generalize scales e = s at *
  generalize scales (e + 1) = s' at *
  apply Nat.lt_of_mul_lt_mul_right (a := s'.2)
  calc v * s.2 * s'.2 = v * s'.2 * s.2 := Nat.mul_right_comm v s.2 s'.2
    _ < 10 ^ k * s'.1 * s.2 := Nat.mul_lt_mul_of_pos_right h hpos
    _ = 10 ^ k * (10 * s.1 * s'.2) := by rw [Nat.mul_assoc, hsucc]
    _ = 10 ^ (k + 1) * s.1 * s'.2 := by
        rw [Nat.pow_succ]
        grind

theorem Between.finer (h : Between v (e + 1) k) : Between v e (k + 1) :=
  ⟨le_finer h.1, lt_finer h.2⟩

/-- A decimal without a trailing zero is the same decimal. -/
theorem AtMost.coarser {digits : Nat} (hzero : digits % 10 = 0) (h : AtMost ⟨digits, e⟩ v) :
    AtMost ⟨digits / 10, e + 1⟩ v := by
  have hsucc := scales_succ e
  obtain ⟨-, hpos⟩ := scales_pos e
  have hdigits : digits / 10 * 10 = digits := by omega
  unfold AtMost at h ⊢
  dsimp only at h ⊢
  generalize scales e = s at *
  generalize scales (e + 1) = s' at *
  apply Nat.le_of_mul_le_mul_right _ hpos
  calc digits / 10 * s'.1 * s.2 = digits / 10 * 10 * s.1 * s'.2 := by
        rw [Nat.mul_assoc, hsucc]
        grind
    _ = digits * s.1 * s'.2 := by rw [hdigits]
    _ ≤ v * s.2 * s'.2 := Nat.mul_le_mul_right _ h
    _ = v * s'.2 * s.2 := Nat.mul_right_comm v s.2 s'.2

/-- Of two neighbours on a grid, the search takes the lower one, or the upper one if that is inside. -/
theorem neighbour_cases {lowIn highIn : Prop} [Decidable lowIn] [Decidable highIn]
    {below downward upward digits : Nat}
    (h : (if lowIn ∧ highIn then
        if downward < upward then some below
        else if upward < downward then some (below + 1)
        else if below % 2 = 0 then some below else some (below + 1)
      else if lowIn then some below
      else if highIn then some (below + 1)
      else none) = some digits) : digits = below ∨ digits = below + 1 ∧ highIn := by
  by_cases hhigh : highIn
  · repeat' split at h
    all_goals
      cases h
      simp [hhigh]
  · by_cases hlow : lowIn
    · simp only [hhigh, hlow, and_false, if_true, if_false] at h
      cases h
      exact .inl rfl
    · simp [hhigh, hlow] at h

/-- The points of a grid that come into question: the two around the middle of an interval. -/
theorem onGrid?_cases {i : Interval} {digits : Nat} (h : onGrid? i e = some digits) :
    digits = i.middle * (scales e).2 / (scales e).1 ∨
    digits = i.middle * (scales e).2 / (scales e).1 + 1 ∧
      digits * (scales e).1 ≤ i.high * (scales e).2 := by
  unfold onGrid? at h
  rcases neighbour_cases h with hbelow | ⟨habove, hin⟩
  · exact .inl hbelow
  · refine .inr ⟨habove, ?_⟩
    rw [habove]
    split at hin
    · exact hin
    · exact Nat.le_of_lt hin

/-- What is known of a decimal that the search comes upon. -/
structure Found (i : Interval) (k : Nat) (d : Decimal) : Prop where
  pos : 0 < d.digits
  le : d.digits ≤ 10 ^ k
  atMost : AtMost d i.high

/-- The point of a grid below the middle of an interval. -/
theorem found_below {i : Interval} (hmiddle : i.middle ≤ i.high) (h : Between i.middle e k) :
    Found i k ⟨i.middle * (scales e).2 / (scales e).1, e⟩ := by
  have hgrid : 0 < (scales e).1 := (scales_pos e).1
  refine ⟨Nat.div_pos h.1 hgrid, ?_, ?_⟩
  · apply Nat.le_of_lt
    rw [Nat.div_lt_iff_lt_mul hgrid]
    exact h.2
  · exact Nat.le_trans (Nat.div_mul_le_self _ _) (Nat.mul_le_mul_right _ hmiddle)

theorem found_onGrid {i : Interval} (hmiddle : i.middle ≤ i.high) (h : Between i.middle e k)
    {digits : Nat} (hit : onGrid? i e = some digits) : Found i k ⟨digits, e⟩ := by
  have hbelow := found_below hmiddle h
  rcases onGrid?_cases hit with rfl | ⟨rfl, hin⟩
  · exact hbelow
  · refine ⟨Nat.succ_pos _, ?_, hin⟩
    apply Nat.succ_le_of_lt
    rw [Nat.div_lt_iff_lt_mul (scales_pos e).1]
    exact h.2

theorem Found.mono {i : Interval} {d : Decimal} {k' : Nat} (hk : k ≤ k') (h : Found i k d) :
    Found i k' d :=
  ⟨h.pos, Nat.le_trans h.le (Nat.pow_le_pow_right (by omega) hk), h.atMost⟩

theorem found_firstHit {i : Interval} (hmiddle : i.middle ≤ i.high) (fuel : Nat)
    (h : Between i.middle e k) : Found i (k + fuel) (firstHit i fuel e) := by
  -- every grid on the way down allows one digit more; `Between` is kept by `Between.finer`
  induction fuel generalizing e k with
  | zero => exact found_below hmiddle h
  | succ fuel ih =>
    unfold firstHit
    split
    next digits hit => exact (found_onGrid hmiddle h hit).mono (Nat.le_add_right k _)
    next =>
      have hfiner : Between i.middle (e - 1) (k + 1) := by
        apply Between.finer
        rwa [Int.sub_add_cancel]
      have hfound := ih hfiner
      rwa [Nat.add_right_comm] at hfound

theorem Found.trimZeros {i : Interval} {d : Decimal} (fuel : Nat) (h : Found i k d) :
    Found i k (trimZeros fuel d) := by
  induction fuel generalizing d with
  | zero => exact h
  | succ fuel ih =>
    unfold Decimal.trimZeros
    split
    next hzero =>
      refine ih ⟨?_, ?_, h.atMost.coarser hzero.1⟩
      · show 0 < d.digits / 10
        omega
      · show d.digits / 10 ≤ 10 ^ k
        have := h.le
        omega
    next => exact h

end

/-- The guess at the leading place is right up to one place: on either side of a power of two, there is
a power of ten. -/
theorem leadingPlace_guess {l : Nat} (hl : l < 2102) :
    let guess : Int := ((l : Int) - 1076) * 30103 / 100000
    (scales (guess - 1)).1 ≤ Nat.pow 2 l * (scales (guess - 1)).2 ∧
      Nat.pow 2 (l + 1) * (scales (guess + 2)).2 ≤ (scales (guess + 2)).1 := by
  revert l
  decide +kernel

/-- At its leading place, a number has one digit. -/
theorem between_leadingPlace {i : Interval} (hpos : 0 < i.middle) (hlog : i.middle.log2 < 2102) :
    Between i.middle (leadingPlace i) 1 := by
  obtain ⟨hlow, hhigh⟩ := leadingPlace_guess hlog
  have hplace : leadingPlace i =
      let guess : Int := ((i.middle.log2 : Int) - 1076) * 30103 / 100000
      if (scales (guess + 1)).1 ≤ i.middle * (scales (guess + 1)).2 then guess + 1
      else if (scales guess).1 ≤ i.middle * (scales guess).2 then guess else guess - 1 := by
    simp only [leadingPlace, decide_eq_true_eq]
  rw [hplace]
  dsimp only at hlow hhigh ⊢
  generalize ((i.middle.log2 : Int) - 1076) * 30103 / 100000 = guess at *
  have hlower : 2 ^ i.middle.log2 ≤ i.middle := Nat.log2_self_le (Nat.ne_zero_of_lt hpos)
  have hupper : i.middle < 2 ^ (i.middle.log2 + 1) := Nat.lt_log2_self
  rw [Nat.pow_eq] at hlow hhigh
  -- the bound above comes from the grid that was tried before, or from the guess
  split
  next hreaches =>
    refine ⟨hreaches, lt_finer ?_⟩
    rw [Int.add_assoc, Nat.pow_zero, Nat.one_mul]
    refine Nat.lt_of_lt_of_le ?_ hhigh
    exact Nat.mul_lt_mul_of_pos_right hupper (scales_pos (guess + 2)).2
  next hnext =>
    have hbelow : i.middle * (scales (guess + 1)).2 < 10 ^ 0 * (scales (guess + 1)).1 := by omega
    split
    next hreaches => exact ⟨hreaches, lt_finer hbelow⟩
    next hthis =>
      refine ⟨Nat.le_trans hlow (Nat.mul_le_mul_right _ hlower), lt_finer ?_⟩
      rw [Int.sub_add_cancel]
      omega

/-- The shortest decimal of a double has at most eighteen digits and lies at or below the upper end of
the reals that round to the double. -/
theorem found_shortest {x : Binary64} (hpos : 0 < (Interval.of x).middle)
    (hlog : (Interval.of x).middle.log2 < 2102) : Found (Interval.of x) 18 (shortest x) := by
  have hmiddle : (Interval.of x).middle ≤ (Interval.of x).high := Nat.le_add_right _ _
  exact (found_firstHit hmiddle 17 (between_leadingPlace hpos hlog)).trimZeros 400

section

variable {x : Binary64}

theorem magnitude_of_lt (hfinite : x.word < infinityWord) : x.magnitude = x.word := by
  unfold infinityWord at hfinite
  rw [Nat.pow_eq] at hfinite
  unfold magnitude signBit
  rw [Nat.pow_eq]
  omega

/-- The significand of a finite double; that of the greatest one is reached by no other. -/
theorem significand_bounds (hpos : 0 < x.word) (hfinite : x.word < infinityWord) :
    0 < x.significand ∧ x.significand < 2 ^ 53 ∧ x.shift ≤ 2045 ∧
      (x.word + 1 < infinityWord → x.shift = 2045 → x.significand < 2 ^ 53 - 1) := by
  have hmagnitude := magnitude_of_lt hfinite
  unfold infinityWord at hfinite ⊢
  rw [Nat.pow_eq] at hfinite
  unfold significand shift exponentField fractionLimit
  rw [hmagnitude, Nat.pow_eq]
  split
  · omega
  · omega

/-- No decimal that rounds to a double below the greatest lies above this number. -/
@[irreducible]
def limit : Nat := (2 ^ 54 - 3) * Nat.pow 2 970

theorem limit_mul_quarters : limit * quarters = (2 ^ 54 - 3) * 2 ^ (970 + 1076) := by
  unfold limit quarters
  generalize 970 = j
  generalize 1076 = k
  rw [Nat.pow_add, Nat.mul_assoc]
  rfl

theorem end_le {m place top : Nat} (hm : m < 2 ^ 53) (hplace : place ≤ top)
    (hlast : place = top → m < 2 ^ 53 - 1) :
    (4 * m + 2) * 2 ^ place ≤ (2 ^ 54 - 3) * 2 ^ (top + 1) := by
  rcases Nat.lt_or_eq_of_le hplace with hlt | heq
  · have hpow : 2 ^ (place + 1) ≤ 2 ^ top := Nat.pow_le_pow_right Nat.two_pos hlt
    calc (4 * m + 2) * 2 ^ place ≤ (2 ^ 54 * 2) * 2 ^ place := Nat.mul_le_mul_right _ (by omega)
      _ = 2 ^ 54 * 2 ^ (place + 1) := by rw [Nat.pow_succ 2 place, Nat.mul_assoc, Nat.mul_comm 2]
      _ ≤ 2 ^ 54 * 2 ^ top := Nat.mul_le_mul_left _ hpow
      _ ≤ (2 ^ 54 - 3) * 2 ^ (top + 1) := by
          rw [Nat.pow_succ 2 top]
          omega
  · have hm' := hlast heq
    rw [heq, Nat.pow_succ 2 top, Nat.mul_comm (2 ^ top) 2, ← Nat.mul_assoc]
    exact Nat.mul_le_mul_right _ (by omega)

theorem high_le (hpos : 0 < x.word) (hbelow : x.word + 1 < infinityWord) :
    (Interval.of x).high ≤ limit * quarters := by
  obtain ⟨-, hlt, hshift, hlast⟩ := significand_bounds hpos (Nat.lt_of_succ_lt hbelow)
  have hhigh : (Interval.of x).high = (4 * x.significand + 2) * 2 ^ x.shift := by
    rw [Nat.add_mul]
    rfl
  have hlast' := hlast hbelow
  rw [hhigh, limit_mul_quarters, show 970 + 1076 = 2045 + 1 from rfl]
  generalize 2045 = top at hshift hlast' ⊢
  exact end_le hlt hshift hlast'

/-- A decimal with a nonnegative exponent that is at most `limit`. -/
theorem le_limit_of_atMost {digits n v : Nat} (hv : v ≤ limit * quarters)
    (h : AtMost ⟨digits, n⟩ v) : digits * 10 ^ n ≤ limit := by
  unfold AtMost at h
  dsimp only at h
  rw [scales_of_nonneg, Nat.mul_one, ← Nat.mul_assoc] at h
  exact Nat.le_of_mul_le_mul_right (Nat.le_trans h hv) quarters_pos

theorem middle_bounds (hpos : 0 < x.word) (hfinite : x.word < infinityWord) :
    0 < (Interval.of x).middle ∧ (Interval.of x).middle.log2 < 2102 := by
  obtain ⟨hsignificand, hlt, hshift, -⟩ := significand_bounds hpos hfinite
  have hmiddle : (Interval.of x).middle = 4 * x.significand * 2 ^ x.shift := rfl
  have hmiddle_pos : 0 < (Interval.of x).middle := by
    rw [hmiddle]
    exact Nat.mul_pos (by omega) (Nat.two_pow_pos _)
  refine ⟨hmiddle_pos, ?_⟩
  rw [Nat.log2_lt (Nat.ne_zero_of_lt hmiddle_pos), hmiddle]
  calc 4 * x.significand * 2 ^ x.shift < 2 ^ 55 * 2 ^ x.shift :=
        Nat.mul_lt_mul_of_pos_right (by omega) (Nat.two_pow_pos _)
    _ = 2 ^ (55 + x.shift) := (Nat.pow_add 2 55 x.shift).symm
    _ ≤ 2 ^ 2102 := Nat.pow_le_pow_right Nat.two_pos (by omega)

end

/-- The quotient by a power of two, rounded up. -/
theorem roundedUp_bounds {n k unit : Nat} (hunit : 0 < unit) (h : n ≤ k * unit) :
    (n + (unit - 1)) / unit ≤ k ∧ n ≤ (n + (unit - 1)) / unit * unit := by
  constructor
  · apply Nat.le_of_lt_succ
    rw [Nat.div_lt_iff_lt_mul hunit, Nat.succ_mul]
    omega
  · have hsplit : unit * ((n + (unit - 1)) / unit) + (n + (unit - 1)) % unit = n + (unit - 1) :=
      Nat.div_add_mod _ _
    have hrest : (n + (unit - 1)) % unit < unit := Nat.mod_lt _ hunit
    rw [Nat.mul_comm unit] at hsplit
    omega

/-- A number rounded up to 53 bits. -/
def ceiling (n : Nat) : Nat :=
  (n + (Nat.pow 2 (n.log2 - 52) - 1)) / Nat.pow 2 (n.log2 - 52) * Nat.pow 2 (n.log2 - 52)

theorem value_ofNat_le_ceiling {m n : Nat} (hm : 0 < m) (h : m ≤ n) :
    value (ofNat m) ≤ ceiling n * units := by
  have hlog : n < 2 ^ (n.log2 + 1) := Nat.lt_log2_self
  have hbits : n ≤ 2 ^ 53 * 2 ^ (n.log2 - 52) := by
    rw [← Nat.pow_add]
    exact Nat.le_trans (Nat.le_of_lt hlog) (Nat.pow_le_pow_right Nat.two_pos (by omega))
  obtain ⟨hk, hle⟩ := roundedUp_bounds (Nat.two_pow_pos _) hbits
  exact value_ofNat_le hm hk (Nat.le_trans h hle)

/-- Two roundings of a decimal at or below `limit` do not add up to an overflow, whatever its power of
ten. -/
theorem product_lt_overflow {e : Nat} (he : e < 309) :
    ceiling (min (10 ^ 18) (limit / Nat.pow 10 e)) * value (ofNat (Nat.pow 10 e)) < overflow := by
  revert e
  decide +kernel

theorem exponent_lt {digits e : Nat} (hpos : 0 < digits) (h : digits * 10 ^ e ≤ limit) : e < 309 := by
  have hlimit : limit < 10 ^ 309 := by decide +kernel
  have hpow : 10 ^ e ≤ digits * 10 ^ e := Nat.le_mul_of_pos_left _ hpos
  generalize 309 = top at hlimit ⊢
  exact (Nat.pow_lt_pow_iff_right (by omega)).mp (Nat.lt_of_le_of_lt (Nat.le_trans hpow h) hlimit)

theorem isInfinite_product {digits e : Nat} (hpos : 0 < digits) (hdigits : digits ≤ 10 ^ 18)
    (h : digits * 10 ^ e ≤ limit) :
    ((ofNat digits).mul (ofNat (Nat.pow 10 e))).isInfinite = false := by
  have hquotient : digits ≤ limit / Nat.pow 10 e :=
    (Nat.le_div_iff_mul_le (Nat.pow_pos (by omega))).mpr h
  have hvalue := value_ofNat_le_ceiling hpos (Nat.le_min.mpr ⟨hdigits, hquotient⟩)
  have hproduct := product_lt_overflow (exponent_lt hpos h)
  apply isInfinite_mul
  generalize ofNat (Nat.pow 10 e) = power at *
  generalize ceiling (min (10 ^ 18) (limit / Nat.pow 10 e)) = top at *
  calc value (ofNat digits) * value power ≤ top * units * value power := Nat.mul_le_mul_right _ hvalue
    _ = units * (top * value power) := by rw [Nat.mul_comm top, Nat.mul_assoc]
    _ < units * overflow := Nat.mul_lt_mul_of_pos_left hproduct units_pos

/-- The shortest decimal of the greatest double. -/
theorem shortest_greatest : shortest ⟨infinityWord - 1⟩ = ⟨17976931348623157, 292⟩ := by
  decide +kernel

/-- The shortest decimal of a finite double: its digits fit a significand of 64 bits, and if its
exponent is not negative, then scaling the digits by it is one multiplication that stays finite. -/
theorem scaled_shortest {x : Binary64} (hpos : 0 < x.word) (hfinite : x.word < infinityWord) :
    0 < (shortest x).digits ∧ (shortest x).digits ≤ 10 ^ 18 ∧
      ∀ n : Nat, (shortest x).exponent = n → n < 309 ∧
        ((ofNat (shortest x).digits).mul (ofNat (Nat.pow 10 n))).isInfinite = false := by
  obtain ⟨hmiddle, hlog⟩ := middle_bounds hpos hfinite
  have hfound := found_shortest hmiddle hlog
  refine ⟨hfound.pos, hfound.le, ?_⟩
  intro n hn
  -- the upper end of the greatest double lies above `limit`, so its decimal is computed
  rcases Nat.lt_or_eq_of_le (Nat.succ_le_of_lt hfinite) with hbelow | hgreatest
  · have hlimit : (shortest x).digits * 10 ^ n ≤ limit := by
      apply le_limit_of_atMost (high_le hpos hbelow)
      rw [← hn]
      exact hfound.atMost
    exact ⟨exponent_lt hfound.pos hlimit, isInfinite_product hfound.pos hfound.le hlimit⟩
  · have hx : x = ⟨infinityWord - 1⟩ := by
      cases x
      congr 1
      exact Nat.eq_sub_of_add_eq hgreatest
    rw [hx, shortest_greatest] at hn ⊢
    obtain rfl : n = 292 := by
      dsimp only at hn
      omega
    exact ⟨by omega, by decide +kernel⟩

end CallChain.Decimal
