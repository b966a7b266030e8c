/-
Numbers next to a number of the format are rounded to it.

* `roundRatio_near`, `roundRatio_eq` — the whole number nearest to a fraction;
* `Binary64.Fits` — the terms that stand for a number of the format: the units of a
  finite one are a multiple of the spacing there, and below the limit;
* **`ofDecimal_fits`** — a number that is read fits;
* `Rounds` — a rational number lies between the midpoints to the neighbours of a number
  of units, which is what `readsBack` tests: `readsBack_iff`;
* **`nearestUnits_eq`** — so it is rounded to that number.

Design notes: what is tested on fractions depends on their value only, and is said about
rational numbers.  Below a power of two the numbers are closer than above it, so that the
interval is lopsided there, and the rounding starts from one bit more.
-/
import Mathlib.Algebra.Order.Field.Rat
import Mathlib.Tactic.FieldSimp
import Mathlib.Tactic.Linarith
import Mathlib.Tactic.Positivity
import Meetings.Number.Shortest

namespace Meetings

/-! ### Whole numbers next to a fraction -/

/-- No whole number is nearer than half of one. -/
theorem roundRatio_near {num den : Nat} (hden : 0 < den) :
    2 * (roundRatio num den * den) ≤ 2 * num + den ∧
      2 * num ≤ 2 * (roundRatio num den * den) + den := by
  have hnum : num / den * den + num % den = num := by
    rw [Nat.mul_comm]
    exact Nat.div_add_mod num den
  have hlt : num % den < den := Nat.mod_lt num hden
  rw [roundRatio]
  split
  · omega
  · split
    · rw [Nat.add_mul]
      omega
    · rcases Nat.mod_two_eq_zero_or_one (num / den) with hq | hq
      · rw [hq, Nat.add_zero]
        omega
      · rw [hq, Nat.add_mul]
        omega

/-- The whole number within half of a fraction; at exactly half, the even one. -/
theorem roundRatio_eq {num den q : Nat} (hden : 0 < den) (hlow : 2 * (q * den) ≤ 2 * num + den)
    (hhigh : 2 * num ≤ 2 * (q * den) + den)
    (hodd : q % 2 = 1 → 2 * (q * den) < 2 * num + den ∧ 2 * num < 2 * (q * den) + den) :
    roundRatio num den = q := by
  have hnum : num / den * den + num % den = num := by
    rw [Nat.mul_comm]
    exact Nat.div_add_mod num den
  have hlt : num % den < den := Nat.mod_lt num hden
  have hfloor : num / den = q ∨ num / den + 1 = q := by
    have hle : num / den < q + 1 := by
      rw [Nat.div_lt_iff_lt_mul hden, Nat.add_mul]
      omega
    have hge : q < num / den + 2 := by
      refine Nat.lt_of_mul_lt_mul_right (a := den) ?_
      rw [Nat.add_mul]
      omega
    omega
  rw [roundRatio]
  rcases hfloor with rfl | rfl
  · split
    · rfl
    · split
      · omega
      · have := Nat.mod_two_eq_zero_or_one (num / den)
        omega
  · rw [Nat.add_mul] at *
    split
    · omega
    · split
      · rfl
      · have := Nat.mod_two_eq_zero_or_one (num / den)
        omega

namespace Binary64

variable {u num den : Nat} {x : ℚ}

/-! ### The numbers of the format -/

/-- A finite number of the format is a multiple of the spacing at it, and below the
limit. -/
inductive Fits : Binary64 → Prop where
  | finite {negative : Bool} {u : Nat} (below : u < unitsLimit) (multiple : spacing u ∣ u) :
    Fits (.finite negative u)
  | infinite {negative : Bool} : Fits (.infinite negative)
  | nan : Fits .nan

theorem unitsLimit_pos : 0 < unitsLimit := by decide +kernel

theorem unitsPerOne_pos : 0 < unitsPerOne := by decide +kernel

/-- What has a significand of 53 bits is a multiple of the spacing. -/
theorem spacing_dvd {m s : Nat} (hm : m ≤ 2 ^ 53) : spacing (m * 2 ^ s) ∣ m * 2 ^ s := by
  rcases Nat.eq_zero_or_pos m with rfl | hpos
  · rw [Nat.zero_mul]
    exact Nat.dvd_zero _
  rcases Nat.lt_or_eq_of_le hm with hlt | rfl
  · have hlog : (m * 2 ^ s).log2 < 53 + s := by
      rw [Nat.log2_lt (Nat.ne_of_gt (Nat.mul_pos hpos (Nat.pow_pos (by decide)))), Nat.pow_add]
      exact Nat.mul_lt_mul_of_pos_right hlt (Nat.pow_pos (by decide))
    exact Nat.dvd_mul_left_of_dvd (Nat.pow_dvd_pow 2 (by omega)) m
  · rw [← Nat.pow_add]
    refine Nat.pow_dvd_pow 2 ?_
    rw [Nat.log2_two_pow]
    omega

theorem spacing_dvd_nearestUnits (hden : 0 < den) :
    spacing (nearestUnits num den) ∣ nearestUnits num den := by
  have hscale : 0 < den * 2 ^ ((num / den).log2 - 52) := Nat.mul_pos hden (Nat.pow_pos (by decide))
  refine spacing_dvd ?_
  -- The quotient has 53 bits, and rounding adds at most one.
  have hbits : num / den < 2 ^ 53 * 2 ^ ((num / den).log2 - 52) := by
    rw [← Nat.pow_add]
    exact Nat.lt_of_lt_of_le Nat.lt_log2_self (Nat.pow_le_pow_right (by decide) (by omega))
  have hnum : num < 2 ^ 53 * (den * 2 ^ ((num / den).log2 - 52)) := by
    rw [Nat.div_lt_iff_lt_mul hden] at hbits
    rwa [Nat.mul_comm den, ← Nat.mul_assoc]
  have hnear := (@roundRatio_near num _ hscale).1
  have hlt : roundRatio num (den * 2 ^ ((num / den).log2 - 52)) < 2 ^ 53 + 1 := by
    refine Nat.lt_of_mul_lt_mul_right (a := den * 2 ^ ((num / den).log2 - 52)) ?_
    rw [Nat.add_mul]
    omega
  exact Nat.le_of_lt_succ hlt

theorem Fits.zero (negative : Bool) : Fits (.finite negative 0) :=
  .finite unitsLimit_pos (Nat.dvd_zero _)

theorem ofUnits_fits (negative : Bool) (hden : 0 < den) : (ofUnits negative num den).Fits := by
  unfold ofUnits
  by_cases h : nearestUnits num den < unitsLimit
  · rw [if_pos h]
    exact .finite h (spacing_dvd_nearestUnits hden)
  · rw [if_neg h]
    exact .infinite

theorem ofRatio_fits (negative : Bool) (hden : 0 < den) : (ofRatio negative num den).Fits :=
  ofUnits_fits negative hden

/-- A number that is read is one of the format. -/
theorem ofDecimal_fits (negative : Bool) (significand : Nat) (exponent : Int) :
    (ofDecimal negative significand exponent).Fits := by
  unfold ofDecimal
  dsimp only
  split
  · exact .zero negative
  split
  · exact .zero negative
  split
  · exact .infinite
  split
  · exact ofRatio_fits negative (Nat.pow_pos (by decide))
  · exact ofRatio_fits negative Nat.one_pos

/-! ### Where numbers are rounded to a number of the format -/

/-- Twice the distance of a number of units to the midpoint below it. -/
def gapBelow (u : Nat) : Nat :=
  if u = spacing u * 2 ^ 52 ∧ 1 < spacing u then spacing u / 2 else spacing u

/-- A number lies between the midpoints to the neighbours of a number of units.  The
midpoints belong to it when the significand is even. -/
structure Rounds (u : Nat) (x : ℚ) : Prop where
  low : 2 * (u : ℚ) ≤ 2 * x + gapBelow u
  high : 2 * x ≤ 2 * u + spacing u
  odd : u / spacing u % 2 = 1 → 2 * (u : ℚ) < 2 * x + gapBelow u ∧ 2 * x < 2 * u + spacing u

theorem gapBelow_le (u : Nat) : gapBelow u ≤ spacing u := by
  unfold gapBelow
  split
  · exact Nat.div_le_self _ _
  · exact Nat.le_refl _

theorem spacing_le (hu : 0 < u) : spacing u ≤ u :=
  Nat.le_trans (Nat.pow_le_pow_right (by decide) (Nat.sub_le _ _))
    (Nat.log2_self_le (Nat.ne_of_gt hu))

/-- Two numbers compare as they do over a common denominator. -/
theorem compare_over {x y : ℚ} {a b : Nat} (hden : 0 < den) (hx : x * den = a)
    (hy : y * den = b) : (x ≤ y ↔ a ≤ b) ∧ (x < y ↔ a < b) := by
  have hden' : (0 : ℚ) < den := Nat.cast_pos.mpr hden
  constructor
  · rw [← mul_le_mul_iff_left₀ hden', hx, hy, Nat.cast_le]
  · rw [← mul_lt_mul_iff_left₀ hden', hx, hy, Nat.cast_lt]

/-- The interval of a fraction, over the denominator. -/
theorem rounds_iff (hden : 0 < den) : Rounds u (num / den) ↔
    2 * (u * den) ≤ 2 * num + gapBelow u * den ∧ 2 * num ≤ 2 * (u * den) + spacing u * den ∧
      (u / spacing u % 2 = 1 → 2 * (u * den) < 2 * num + gapBelow u * den ∧
        2 * num < 2 * (u * den) + spacing u * den) := by
  have hden' : (0 : ℚ) < den := Nat.cast_pos.mpr hden
  have hbelow : (2 * (num / den : ℚ) + gapBelow u) * den =
      ((2 * num + gapBelow u * den : ℕ) : ℚ) := by
    rw [add_mul, mul_assoc, div_mul_cancel₀ _ hden'.ne']
    push_cast
    rfl
  have habove : (2 * (u : ℚ) + spacing u) * den =
      ((2 * (u * den) + spacing u * den : ℕ) : ℚ) := by
    rw [add_mul, mul_assoc]
    push_cast
    rfl
  have hnum : 2 * (num / den : ℚ) * den = ((2 * num : ℕ) : ℚ) := by
    rw [mul_assoc, div_mul_cancel₀ _ hden'.ne']
    push_cast
    rfl
  have hunits : 2 * (u : ℚ) * den = ((2 * (u * den) : ℕ) : ℚ) := by
    rw [mul_assoc]
    push_cast
    rfl
  obtain ⟨hlow, hlow'⟩ := compare_over hden hunits hbelow
  obtain ⟨hhigh, hhigh'⟩ := compare_over hden hnum habove
  constructor
  · intro h
    rw [← hlow, ← hhigh, ← hlow', ← hhigh']
    exact ⟨h.low, h.high, h.odd⟩
  · rw [← hlow, ← hhigh, ← hlow', ← hhigh']
    rintro ⟨hl, hh, hodd⟩
    exact ⟨hl, hh, hodd⟩

/-- The test on a fraction is one on its value. -/
theorem readsBack_iff (hu : 0 < u) (hden : 0 < den) :
    readsBack u num den = true ↔ Rounds u (num / den) := by
  have hgap : gapBelow u * den ≤ 2 * (u * den) := by
    rw [← Nat.mul_assoc]
    refine Nat.mul_le_mul_right den ?_
    have := gapBelow_le u
    have := spacing_le hu
    omega
  have hgapBelow : (if (decide (u = spacing u * Nat.pow 2 52) && decide (1 < spacing u)) = true
      then spacing u / 2 else spacing u) = gapBelow u := by
    simp only [Bool.and_eq_true, decide_eq_true_iff]
    rfl
  rw [rounds_iff hden]
  unfold readsBack
  simp only [hgapBelow, Nat.sub_mul, Nat.add_mul, Nat.mul_assoc]
  -- The significand is even, and the midpoints count; or it is odd, and they do not.
  split
  · simp only [Bool.and_eq_true, decide_eq_true_iff]
    omega
  · simp only [Bool.and_eq_true, decide_eq_true_iff]
    omega

/-! ### Rounding -/

theorem log2_div {k : Nat} (hden : 0 < den) (hlow : 2 ^ k * den ≤ num)
    (hhigh : num < 2 ^ (k + 1) * den) : (num / den).log2 = k := by
  have hlow' : 2 ^ k ≤ num / den := (Nat.le_div_iff_mul_le hden).mpr hlow
  have hhigh' : num / den < 2 ^ (k + 1) := (Nat.div_lt_iff_lt_mul hden).mpr hhigh
  exact (Nat.log2_eq_iff (Nat.ne_of_gt (Nat.lt_of_lt_of_le (Nat.two_pow_pos k) hlow'))).mpr
    ⟨hlow', hhigh'⟩

/-- The power that rounding starts from is the one below which 53 bits are left. -/
theorem log2_sub_of_bounds {s : Nat} (hden : 0 < den) (hlow : 2 ^ 52 * (2 ^ s * den) ≤ num)
    (hhigh : num < 2 ^ 53 * (2 ^ s * den)) : (num / den).log2 - 52 = s := by
  rw [← Nat.mul_assoc, ← Nat.pow_add] at hlow hhigh
  rw [show 53 + s = 52 + s + 1 by omega] at hhigh
  rw [log2_div hden hlow hhigh, Nat.add_sub_cancel_left]

/-- A fraction is rounded to the multiple of a power of two that is nearest, once this
is the power that rounding starts from. -/
theorem nearestUnits_of_log2 {m s : Nat} (hden : 0 < den) (hlog : (num / den).log2 - 52 = s)
    (hlow : 2 * (m * (2 ^ s * den)) ≤ 2 * num + 2 ^ s * den)
    (hhigh : 2 * num ≤ 2 * (m * (2 ^ s * den)) + 2 ^ s * den)
    (hodd : m % 2 = 1 → 2 * (m * (2 ^ s * den)) < 2 * num + 2 ^ s * den ∧
      2 * num < 2 * (m * (2 ^ s * den)) + 2 ^ s * den) :
    nearestUnits num den = m * 2 ^ s := by
  have hround : roundRatio num (2 ^ s * den) = m :=
    roundRatio_eq (Nat.mul_pos (Nat.two_pow_pos s) hden) hlow hhigh hodd
  rw [nearestUnits, hlog, Nat.pow_eq, Nat.mul_comm den, hround]

/-- A number of the format is a significand times the spacing.  Beyond the smallest
numbers the significand has 53 bits. -/
theorem exists_significand (hu : 0 < u) (hspacing : spacing u ∣ u) :
    ∃ m s, spacing u = 2 ^ s ∧ u = m * 2 ^ s ∧ m < 2 ^ 53 ∧
      (s = 0 ∨ 2 ^ 52 ≤ m) := by
  have hone : 2 ^ u.log2 ≤ u := Nat.log2_self_le (Nat.ne_of_gt hu)
  have htwo : u < 2 ^ (u.log2 + 1) := Nat.lt_log2_self
  obtain ⟨m, hm⟩ := hspacing
  have hpow : spacing u = 2 ^ (u.log2 - 52) := rfl
  rw [hpow, Nat.mul_comm] at hm
  refine ⟨m, u.log2 - 52, hpow, hm, ?_, ?_⟩
  · refine Nat.lt_of_mul_lt_mul_right (a := 2 ^ (u.log2 - 52)) ?_
    rw [← hm, ← Nat.pow_add]
    exact Nat.lt_of_lt_of_le htwo (Nat.pow_le_pow_right (by decide) (by omega))
  · by_cases hlog : u.log2 ≤ 52
    · exact .inl (Nat.sub_eq_zero_of_le hlog)
    · refine .inr (Nat.le_of_mul_le_mul_right (c := 2 ^ (u.log2 - 52)) ?_
        (Nat.two_pow_pos _))
      rw [← hm, ← Nat.pow_add]
      exact Nat.le_trans (Nat.pow_le_pow_right (by decide) (by omega)) hone

/-- Only below a power of two the neighbour is nearer. -/
theorem gapBelow_eq {m s : Nat} (hpow : spacing (m * 2 ^ s) = 2 ^ s) :
    gapBelow (m * 2 ^ s) = if m = 2 ^ 52 ∧ 0 < s then 2 ^ (s - 1) else 2 ^ s := by
  have hlopsided : m * 2 ^ s = 2 ^ s * 2 ^ 52 ∧ 1 < 2 ^ s ↔ m = 2 ^ 52 ∧ 0 < s := by
    rw [Nat.mul_comm (2 ^ s), Nat.mul_right_cancel_iff (Nat.two_pow_pos s),
      Nat.one_lt_two_pow_iff, Nat.pos_iff_ne_zero]
  rw [gapBelow, hpow]
  by_cases h : m = 2 ^ 52 ∧ 0 < s
  · rw [if_pos (hlopsided.mpr h), if_pos h, Nat.pow_div h.2 (by decide)]
  · rw [if_neg (mt hlopsided.mp h), if_neg h]

/-- Below a power of two the quotient has one bit less, and one more is kept. -/
theorem nearestUnits_below_power {t : Nat} (hden : 0 < den)
    (hlow : 2 * (2 ^ 52 * (2 ^ (t + 1) * den)) ≤ 2 * num + 2 ^ t * den)
    (hbelow : num < 2 ^ 52 * (2 ^ (t + 1) * den)) :
    nearestUnits num den = 2 ^ 52 * 2 ^ (t + 1) := by
  have hhalf : 2 ^ (t + 1) * den = 2 * (2 ^ t * den) := by
    rw [Nat.pow_succ, Nat.mul_comm (2 ^ t), Nat.mul_assoc]
  rw [hhalf] at hlow hbelow
  have hbits : (num / den).log2 = 52 + t := by
    refine log2_div hden ?_ ?_
    · rw [Nat.pow_add, Nat.mul_assoc]
      omega
    · rw [show 52 + t + 1 = 53 + t by omega, Nat.pow_add, Nat.mul_assoc]
      omega
  have hround : nearestUnits num den = 2 ^ 53 * 2 ^ t :=
    nearestUnits_of_log2 hden (by rw [hbits, Nat.add_sub_cancel_left]) (by omega) (by omega)
      (by omega)
  rw [hround, Nat.pow_succ 2 t]
  omega

/-- **Within the interval of a number of the format, fractions are rounded to it.** -/
theorem nearestUnits_eq (hu : 0 < u) (hspacing : spacing u ∣ u) (hden : 0 < den)
    (h : Rounds u (num / den)) : nearestUnits num den = u := by
  obtain ⟨hlow, hhigh, hodd⟩ := (rounds_iff hden).mp h
  obtain ⟨m, s, hpow, rfl, hm, hbits⟩ := exists_significand hu hspacing
  rw [hpow, Nat.mul_div_cancel m (Nat.two_pow_pos s)] at hodd
  rw [hpow] at hhigh
  rw [gapBelow_eq hpow] at hlow hodd
  rw [Nat.mul_assoc] at hlow hhigh hodd
  have habove : num < 2 ^ 53 * (2 ^ s * den) := by
    have hstep : 0 < 2 ^ s * den := Nat.mul_pos (Nat.two_pow_pos s) hden
    have := Nat.mul_le_mul_right (2 ^ s * den) (Nat.succ_le_of_lt hm)
    rw [Nat.succ_mul] at this
    omega
  by_cases hlopsided : m = 2 ^ 52 ∧ 0 < s
  · rw [if_pos hlopsided] at hlow
    obtain ⟨rfl, hs⟩ := hlopsided
    by_cases hbelow : 2 ^ 52 * (2 ^ s * den) ≤ num
    · exact nearestUnits_of_log2 hden (log2_sub_of_bounds hden hbelow habove) (by omega) hhigh
        (by omega)
    · obtain ⟨t, rfl⟩ := Nat.exists_eq_add_one_of_ne_zero (Nat.ne_of_gt hs)
      exact nearestUnits_below_power hden hlow (Nat.lt_of_not_le hbelow)
  · rw [if_neg hlopsided] at hlow hodd
    refine nearestUnits_of_log2 hden ?_ hlow hhigh hodd
    rcases Nat.eq_zero_or_pos s with rfl | hs
    · have hquotient : num / den < 2 ^ 53 := by
        rw [Nat.div_lt_iff_lt_mul hden]
        omega
      rcases Nat.eq_zero_or_pos (num / den) with hzero | hpos
      · rw [hzero]
        rfl
      · have := (Nat.log2_lt (Nat.ne_of_gt hpos)).mpr hquotient
        omega
    · have hmore : 2 ^ 52 + 1 ≤ m := by omega
      have := Nat.mul_le_mul_right (2 ^ s * den) hmore
      rw [Nat.succ_mul] at this
      exact log2_sub_of_bounds hden (by omega) habove

end Binary64

end Meetings
