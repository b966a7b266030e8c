/-
A number is read back from its shortest digits.

* `tenTo_ratio` — the fraction of a power of ten;
* `onGrid_rounds`, `onGrid_ne_none` — the digits on a grid read back, and there are some
  on a grid that is finer than the distance to the neighbours;
* `leadingExponent_spec`, **`shortestDigits_rounds`** — so the shortest digits do, which
  are found seventeen grids from the first digit on;
* **`ofDecimal_eq`** — what is read of digits that read back is the number.

Design notes: `10 ^ 16` exceeds `2 ^ 53`, so sixteen digits behind the first one are
finer than a significand.  Exponents of digits that are found lie far inside those that
`ofDecimal` settles without computing.
-/
import Mathlib.Algebra.Order.Field.Power
import Mathlib.Tactic.Ring
import Meetings.Proofs.Number.Binary64

namespace Meetings.Binary64

variable {u n : Nat} {k : Int}

/-! ### Powers of ten -/

theorem tenTo_pos (k : Int) : 0 < (tenTo k).1 ∧ 0 < (tenTo k).2 := by
  have hpow : 0 < Nat.pow 10 k.natAbs := Nat.pow_pos (by decide)
  unfold tenTo
  split
  · exact ⟨hpow, Nat.one_pos⟩
  · exact ⟨Nat.one_pos, hpow⟩

theorem tenTo_ratio (k : Int) : ((tenTo k).1 : ℚ) / (tenTo k).2 = 10 ^ k := by
  unfold tenTo
  rcases Int.le_total 0 k with hk | hk
  · obtain ⟨n, rfl⟩ := Int.eq_ofNat_of_zero_le hk
    rw [if_pos hk, Int.natAbs_natCast, Nat.pow_eq, zpow_natCast]
    push_cast
    exact div_one _
  · rcases Int.lt_or_eq_of_le hk with hneg | rfl
    · obtain ⟨n, hn⟩ := Int.eq_ofNat_of_zero_le (Int.neg_nonneg_of_nonpos hk)
      obtain rfl : k = -(n : Int) := by omega
      rw [if_neg (Int.not_le.mpr hneg), Int.natAbs_neg, Int.natAbs_natCast, Nat.pow_eq, zpow_neg,
        zpow_natCast]
      push_cast
      exact one_div _
    · norm_num

/-- A fraction with a power of ten, by its value. -/
theorem tenTo_value (m : Nat) (k : Int) :
    ((m * (tenTo k).1 : ℕ) : ℚ) / (tenTo k).2 = m * 10 ^ k := by
  rw [← tenTo_ratio k]
  push_cast
  exact mul_div_assoc _ _ _

theorem tenTo_le_iff {a : Nat} :
    (tenTo k).1 * unitsPerOne ≤ a * (tenTo k).2 ↔ (10 : ℚ) ^ k * unitsPerOne ≤ a := by
  rw [← tenTo_ratio k, div_mul_eq_mul_div, div_le_iff₀ (Nat.cast_pos.mpr (tenTo_pos k).2),
    ← Nat.cast_mul, ← Nat.cast_mul, Nat.cast_le]

theorem tenTo_lt_iff {a : Nat} :
    (tenTo k).1 * unitsPerOne < a * (tenTo k).2 ↔ (10 : ℚ) ^ k * unitsPerOne < a := by
  rw [← tenTo_ratio k, div_mul_eq_mul_div, div_lt_iff₀ (Nat.cast_pos.mpr (tenTo_pos k).2),
    ← Nat.cast_mul, ← Nat.cast_mul, Nat.cast_lt]

/-! ### The digits on a grid -/

theorem onGrid_rounds (hu : 0 < u) (h : onGrid u k = some n) :
    Rounds u (n * 10 ^ k * unitsPerOne) := by
  have hfits (m : Nat) (hm : readsBack u (m * (tenTo k).1 * unitsPerOne) (tenTo k).2 = true) :
      Rounds u (m * 10 ^ k * unitsPerOne) := by
    have hrounds := (readsBack_iff hu (tenTo_pos k).2).mp hm
    rwa [Nat.cast_mul, mul_div_right_comm, tenTo_value] at hrounds
  unfold onGrid at h
  dsimp only at h
  split at h
  · next hm =>
    rw [← Option.some.inj h]
    exact hfits _ hm
  · split at h
    · next hm =>
      rw [← Option.some.inj h]
      exact hfits _ hm
    · split at h
      · next hm =>
        rw [← Option.some.inj h]
        exact hfits _ hm
      · cases h

/-- There are digits on a grid that is finer than the distance to the neighbours. -/
theorem onGrid_ne_none (hu : 0 < u) (hfine : 10 ^ k * (unitsPerOne : ℚ) < gapBelow u) :
    onGrid u k ≠ none := by
  have hgrid : 0 < (tenTo k).1 * unitsPerOne := Nat.mul_pos (tenTo_pos k).1 unitsPerOne_pos
  have hfine' := tenTo_lt_iff.mpr hfine
  have hgap := Nat.mul_le_mul_right (tenTo k).2 (gapBelow_le u)
  -- The nearest neighbour is within half of the grid.
  obtain ⟨hlow, hhigh⟩ := @roundRatio_near (u * (tenTo k).2) _ hgrid
  have hnearest : readsBack u (roundRatio (u * (tenTo k).2) ((tenTo k).1 * unitsPerOne) *
      (tenTo k).1 * unitsPerOne) (tenTo k).2 = true := by
    rw [readsBack_iff hu (tenTo_pos k).2, rounds_iff (tenTo_pos k).2, Nat.mul_assoc]
    omega
  unfold onGrid
  dsimp only
  rw [if_pos hnearest]
  exact Option.some_ne_none _

/-! ### The first digit -/

theorem climb_spec {steps : Nat} (h : (10 : ℚ) ^ k * unitsPerOne ≤ u) :
    k ≤ leadingExponent.climb u steps k ∧
      (10 : ℚ) ^ leadingExponent.climb u steps k * unitsPerOne ≤ u := by
  induction steps generalizing k with
  | zero => exact ⟨le_rfl, h⟩
  | succ steps ih =>
    rw [leadingExponent.climb]
    dsimp only
    split
    · next hnext =>
      obtain ⟨hle, hspec⟩ := ih (tenTo_le_iff.mp hnext)
      exact ⟨by omega, hspec⟩
    · exact ⟨le_rfl, h⟩

/-- The first digit of a number is not before its leading exponent, and stands far
above the bound of exponents. -/
theorem leadingExponent_spec (hu : 0 < u) :
    -325 ≤ leadingExponent u ∧ (10 : ℚ) ^ leadingExponent u * unitsPerOne ≤ u := by
  refine climb_spec (tenTo_le_iff.mp ?_)
  have hleast : (tenTo (-325)).1 * unitsPerOne ≤ 1 * (tenTo (-325)).2 := by decide +kernel
  exact Nat.le_trans hleast (Nat.mul_le_mul_right _ hu)

/-! ### The shortest digits -/

/-- Of several grids the first one with digits is taken. -/
theorem finer_spec {grids j : Nat} (hj : j < grids) (h : onGrid u (k - j) ≠ none) :
    ∃ i : Nat, i ≤ j ∧ (shortestDigits.finer u grids k).2 = k - i ∧
      onGrid u (k - i) = some (shortestDigits.finer u grids k).1 := by
  induction grids generalizing k j with
  | zero => omega
  | succ grids ih =>
    rw [shortestDigits.finer]
    cases hgrid : onGrid u k with
    | some n => exact ⟨0, Nat.zero_le j, (sub_zero k).symm, (sub_zero k).symm ▸ hgrid⟩
    | none =>
      have hne : j ≠ 0 := by
        rintro rfl
        exact h ((sub_zero k).symm ▸ hgrid)
      obtain ⟨j, rfl⟩ := Nat.exists_eq_add_one_of_ne_zero hne
      have hshift (i : Nat) : k - ((i + 1 : ℕ) : Int) = k - 1 - i := by omega
      rw [hshift] at h
      obtain ⟨i, hi, hspec⟩ := ih (by omega) h
      rw [← hshift] at hspec
      exact ⟨i + 1, by omega, hspec⟩

/-- The neighbour is no farther than a significand allows. -/
theorem le_gapBelow (hu : 0 < u) (hspacing : spacing u ∣ u) : u ≤ gapBelow u * 2 ^ 53 := by
  obtain ⟨m, s, hpow, rfl, hm, -⟩ := exists_significand hu hspacing
  rw [gapBelow_eq hpow]
  by_cases hlopsided : m = 2 ^ 52 ∧ 0 < s
  · rw [if_pos hlopsided]
    obtain ⟨rfl, hs⟩ := hlopsided
    obtain ⟨t, rfl⟩ := Nat.exists_eq_add_one_of_ne_zero (Nat.ne_of_gt hs)
    rw [Nat.add_sub_cancel, Nat.pow_succ 2 t]
    omega
  · rw [if_neg hlopsided, Nat.mul_comm]
    exact Nat.mul_le_mul_left _ (Nat.le_of_lt hm)

/-- Sixteen grids behind the first digit the grid is finer than the distance to the
neighbours. -/
theorem sixteenth_fine (hu : 0 < u) (hspacing : spacing u ∣ u) :
    (10 : ℚ) ^ (leadingExponent u - 16) * unitsPerOne < gapBelow u := by
  have hlead := (leadingExponent_spec hu).2
  have hgap : (u : ℚ) ≤ gapBelow u * 2 ^ 53 := by exact_mod_cast le_gapBelow hu hspacing
  have hpos : (0 : ℚ) < u := Nat.cast_pos.mpr hu
  rw [zpow_sub₀ (by norm_num), div_mul_eq_mul_div, div_lt_iff₀ (by norm_num)]
  generalize (10 : ℚ) ^ leadingExponent u * unitsPerOne = least at hlead ⊢
  norm_num at hgap ⊢
  linarith

theorem shortestDigits_rounds (hu : 0 < u) (hspacing : spacing u ∣ u) :
    -341 ≤ (shortestDigits u).2 ∧
      Rounds u ((shortestDigits u).1 * 10 ^ (shortestDigits u).2 * unitsPerOne) := by
  have hlead := (leadingExponent_spec hu).1
  obtain ⟨i, hi, hexponent, hdigits⟩ := @finer_spec u (leadingExponent u) 17 16 (by decide)
    (onGrid_ne_none hu (sixteenth_fine hu hspacing))
  rw [← hexponent] at hdigits
  refine ⟨?_, onGrid_rounds hu hdigits⟩
  show -341 ≤ (shortestDigits.finer u 17 (leadingExponent u)).2
  omega

/-- Zeros at the end are counted in the exponent. -/
theorem dropZeros_go_value {steps : Nat} :
    k ≤ (dropZeros.go steps n k).2 ∧
      ((dropZeros.go steps n k).1 : ℚ) * 10 ^ (dropZeros.go steps n k).2 = n * 10 ^ k := by
  induction steps generalizing n k with
  | zero => exact ⟨le_rfl, rfl⟩
  | succ steps ih =>
    rw [dropZeros.go]
    by_cases hzero : n ≠ 0 ∧ n % 10 = 0
    · rw [if_pos hzero]
      obtain ⟨hle, hvalue⟩ := @ih (n / 10) (k + 1)
      have hten : (n : ℚ) = (n / 10 : ℕ) * 10 := by
        exact_mod_cast (Nat.div_mul_cancel (Nat.dvd_of_mod_eq_zero hzero.2)).symm
      refine ⟨by omega, ?_⟩
      rw [hvalue, hten, zpow_add_one₀ (by norm_num), mul_comm (10 ^ k : ℚ), mul_assoc]
    · rw [if_neg hzero]
      exact ⟨le_rfl, rfl⟩

theorem dropZeros_value (n : Nat) (k : Int) :
    k ≤ (dropZeros n k).2 ∧ ((dropZeros n k).1 : ℚ) * 10 ^ (dropZeros n k).2 = n * 10 ^ k :=
  dropZeros_go_value

/-- **The digits that are written of a number lie where numbers are rounded to it.** -/
theorem exists_digits (hu : 0 < u) (hspacing : spacing u ∣ u) :
    ∃ m j n k, shortestDigits u = (m, j) ∧ dropZeros m j = (n, k) ∧ -341 ≤ k ∧
      Rounds u ((n : ℕ) * 10 ^ (k : Int) * unitsPerOne) := by
  obtain ⟨hexponent, hrounds⟩ := shortestDigits_rounds hu hspacing
  cases hshortest : shortestDigits u with
  | mk m j =>
    rw [hshortest] at hexponent hrounds
    obtain ⟨hle, hvalue⟩ := dropZeros_value m j
    cases hdigits : dropZeros m j with
    | mk n k =>
      rw [hdigits] at hle hvalue
      refine ⟨m, j, n, k, rfl, hdigits, Int.le_trans hexponent hle, ?_⟩
      rwa [hvalue]

/-! ### Reading -/

theorem Rounds.bounds {x : ℚ} (hu : 0 < u) (h : Rounds u x) : 0 < x ∧ x ≤ 2 * u := by
  have hgap : (gapBelow u : ℚ) ≤ u :=
    Nat.cast_le.mpr (Nat.le_trans (gapBelow_le u) (spacing_le hu))
  have hspacing : (spacing u : ℚ) ≤ u := Nat.cast_le.mpr (spacing_le hu)
  have hpos : (0 : ℚ) < u := Nat.cast_pos.mpr hu
  have hlow := h.low
  have hhigh := h.high
  constructor
  · linarith
  · linarith

theorem Rounds.digits_ne_zero (hu : 0 < u) (h : Rounds u (n * 10 ^ k * unitsPerOne)) :
    n ≠ 0 := by
  rintro rfl
  have hpos := (h.bounds hu).1
  rw [Nat.cast_zero, zero_mul, zero_mul] at hpos
  exact lt_irrefl _ hpos

theorem ofUnits_eq {negative : Bool} {num den : Nat} (hu : 0 < u) (hlimit : u < unitsLimit)
    (hspacing : spacing u ∣ u) (hden : 0 < den) (h : Rounds u (num / den)) :
    ofUnits negative num den = .finite negative u := by
  unfold ofUnits
  rw [nearestUnits_eq hu hspacing hden h]
  exact if_pos hlimit

/-- The numbers of the format end below `2 ^ 1024`. -/
theorem exists_units : ∃ a, unitsPerOne = 2 ^ a ∧ unitsLimit = 2 ^ (1024 + a) :=
  ⟨1074, by decide +kernel, by decide +kernel⟩

/-- Digits with zeros behind them have few bits. -/
theorem log2_of_nonneg {m f : Nat} (hm : m ≠ 0) (h : m * 10 ^ f * unitsPerOne < 2 * unitsLimit) :
    m.log2 + 3 * f < 1025 := by
  obtain ⟨a, hone, hlimit⟩ := exists_units
  have height : 2 ^ (3 * f) ≤ 10 ^ f := by
    rw [Nat.pow_mul]
    exact Nat.pow_le_pow_left (by decide) f
  have hbits : 2 ^ (m.log2 + 3 * f + a) ≤ m * 10 ^ f * unitsPerOne := by
    rw [hone, Nat.pow_add, Nat.pow_add]
    exact Nat.mul_le_mul_right _ (Nat.mul_le_mul (Nat.log2_self_le hm) height)
  rw [hlimit, Nat.mul_comm 2, ← Nat.pow_succ] at h
  have := (Nat.pow_lt_pow_iff_right (by decide)).mp (Nat.lt_of_le_of_lt hbits h)
  omega

/-- Digits with a point in them have few bits before it. -/
theorem log2_of_neg {m f : Nat} (hm : m ≠ 0) (h : m * unitsPerOne < 2 * unitsLimit * 10 ^ f) :
    m.log2 < 1025 + 4 * f := by
  obtain ⟨a, hone, hlimit⟩ := exists_units
  have hsixteen : 10 ^ f ≤ 2 ^ (4 * f) := by
    rw [Nat.pow_mul]
    exact Nat.pow_le_pow_left (by decide) f
  have hbits : 2 ^ (m.log2 + a) ≤ m * unitsPerOne := by
    rw [hone, Nat.pow_add]
    exact Nat.mul_le_mul_right _ (Nat.log2_self_le hm)
  have habove : 2 * unitsLimit * 10 ^ f ≤ 2 ^ (1025 + a + 4 * f) := by
    rw [hlimit, Nat.mul_comm 2, ← Nat.pow_succ, Nat.pow_add _ _ (4 * f),
      show (1024 + a).succ = 1025 + a by omega]
    exact Nat.mul_le_mul_left _ hsixteen
  have := (Nat.pow_lt_pow_iff_right (by decide)).mp
    (Nat.lt_of_le_of_lt hbits (Nat.lt_of_lt_of_le h habove))
  omega

/-- What is read of digits within the interval of a number is the number. -/
theorem ofDecimal_eq {negative : Bool} {m : Nat} {e : Int} (hu : 0 < u) (hlimit : u < unitsLimit)
    (hspacing : spacing u ∣ u) (he : -400 ≤ e) (h : Rounds u (m * 10 ^ e * unitsPerOne)) :
    ofDecimal negative m e = .finite negative u := by
  obtain ⟨hpos, hle⟩ := h.bounds hu
  have hm : m ≠ 0 := h.digits_ne_zero hu
  have hlt : m * 10 ^ e * (unitsPerOne : ℚ) < 2 * unitsLimit := by
    have : (u : ℚ) < unitsLimit := Nat.cast_lt.mpr hlimit
    linarith
  unfold ofDecimal
  dsimp only
  rw [if_neg hm]
  rcases lt_or_ge e 0 with hneg | hnonneg
  · obtain ⟨f, hf⟩ := Int.eq_ofNat_of_zero_le (Int.neg_nonneg_of_nonpos (Int.le_of_lt hneg))
    obtain rfl : e = -(f : Int) := by omega
    have hten : (0 : ℚ) < 10 ^ f := by positivity
    have hvalue : (m : ℚ) * 10 ^ (-(f : Int)) * unitsPerOne =
        ((m * unitsPerOne : ℕ) : ℚ) / (Nat.pow 10 f : ℕ) := by
      rw [zpow_neg, zpow_natCast, Nat.pow_eq, Nat.cast_mul, Nat.cast_pow, Nat.cast_ofNat,
        mul_right_comm, ← div_eq_mul_inv]
    rw [hvalue] at h hlt
    rw [Nat.pow_eq, div_lt_iff₀ (by exact_mod_cast hten)] at hlt
    have hbits := log2_of_neg hm (by exact_mod_cast hlt)
    rw [if_neg (by omega), if_neg (by omega), if_pos hneg, Int.natAbs_neg, Int.natAbs_natCast]
    exact ofUnits_eq hu hlimit hspacing (Nat.pow_pos (by decide)) h
  · obtain ⟨f, rfl⟩ := Int.eq_ofNat_of_zero_le hnonneg
    have hvalue : (m : ℚ) * 10 ^ (f : Int) * unitsPerOne =
        ((m * Nat.pow 10 f * unitsPerOne : ℕ) : ℚ) / (1 : ℕ) := by
      rw [zpow_natCast, Nat.pow_eq, Nat.cast_mul, Nat.cast_mul, Nat.cast_pow, Nat.cast_ofNat,
        Nat.cast_one, div_one]
    have hbits := log2_of_nonneg hm (by rw [zpow_natCast] at hlt; exact_mod_cast hlt)
    rw [hvalue] at h
    rw [if_neg (by omega), if_neg (by omega), if_neg (Int.not_lt.mpr hnonneg), Int.natAbs_natCast]
    exact ofUnits_eq hu hlimit hspacing Nat.one_pos h

end Meetings.Binary64
