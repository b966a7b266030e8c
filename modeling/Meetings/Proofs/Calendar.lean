/-
Days and their numbers determine each other.

* `daysBeforeYear_yearOfDay`, `lt_yearLength` — the year found for a day holds
  it;
* `walkMonths_spec` — so does the month found by walking;
* **`Date.ofDayNumber_valid`**, **`Date.dayNumber_ofDayNumber`** — the date of a
  day of the calendar is one, and has its number.
-/
import Mathlib.Algebra.GroupWithZero.Nat
import Meetings.Calendar

namespace Meetings

/-- The parts that a day number is cut into: cycles of 400 years, centuries,
leap cycles, years and days.  Each part but the first is bounded, and a last
day that opens no further year is kept in the one before. -/
theorem yearOfDay_parts (n : Nat) : ∃ c a b s d, yearOfDay n = 400 * c + 100 * a + 4 * b + s + 1 ∧
    n = 146097 * c + 36524 * a + 1461 * b + 365 * s + d ∧ a ≤ 3 ∧ b ≤ 24 ∧ s ≤ 3 ∧
    (d < 365 ∨ d = 365 ∧ s = 3 ∧ (b = 24 → a = 3)) := by
  refine ⟨n / 146097, min 3 (n % 146097 / 36524),
    (n % 146097 - min 3 (n % 146097 / 36524) * 36524) / 1461,
    min 3 ((n % 146097 - min 3 (n % 146097 / 36524) * 36524) % 1461 / 365),
    (n % 146097 - min 3 (n % 146097 / 36524) * 36524) % 1461 -
      min 3 ((n % 146097 - min 3 (n % 146097 / 36524) * 36524) % 1461 / 365) * 365, rfl, ?_⟩
  omega

theorem daysBeforeYear_parts {c a b s : Nat} (ha : a ≤ 3) (hb : b ≤ 24) (hs : s ≤ 3) :
    daysBeforeYear (400 * c + 100 * a + 4 * b + s + 1) =
      146097 * c + 36524 * a + 1461 * b + 365 * s := by
  unfold daysBeforeYear
  dsimp only
  omega

/-- The year of a day starts no later than the day. -/
theorem daysBeforeYear_yearOfDay (n : Nat) : daysBeforeYear (yearOfDay n) ≤ n := by
  obtain ⟨c, a, b, s, d, hyear, hn, ha, hb, hs, -⟩ := yearOfDay_parts n
  rw [hyear, daysBeforeYear_parts ha hb hs]
  omega

/-- The year of a day has not ended on that day. -/
theorem lt_yearLength (n : Nat) : n - daysBeforeYear (yearOfDay n) < yearLength (yearOfDay n) := by
  obtain ⟨c, a, b, s, d, hyear, hn, ha, hb, hs, hd⟩ := yearOfDay_parts n
  rw [hyear, daysBeforeYear_parts ha hb hs, yearLength]
  have hrest : n - (146097 * c + 36524 * a + 1461 * b + 365 * s) = d := by omega
  rw [hrest]
  by_cases hleap : isLeap (400 * c + 100 * a + 4 * b + s + 1) = true
  · rw [if_pos hleap]
    omega
  · rw [if_neg hleap]
    rcases hd with hd | ⟨-, hs, hlast⟩
    · exact hd
    · -- A day 366 is only left in the fourth year, and then the year is a leap year.
      refine absurd ?_ hleap
      have hfour : (400 * c + 100 * a + 4 * b + s + 1) % 4 = 0 := by omega
      have hcentury : (400 * c + 100 * a + 4 * b + s + 1) % 100 ≠ 0 ∨
          (400 * c + 100 * a + 4 * b + s + 1) % 400 = 0 := by omega
      rw [isLeap, Bool.and_eq_true, Bool.or_eq_true, beq_iff_eq, bne_iff_ne, beq_iff_eq]
      exact ⟨hfour, hcentury⟩

/-- The months walked past are those before the day's month. -/
theorem walkMonths_spec {lengths : List Nat} {n : Nat} (month : Nat) (h : n < lengths.sum) :
    ∃ i < lengths.length, ∃ d < lengths.getD i 0, walkMonths lengths month n = (month + i, d + 1) ∧
      (lengths.take i).sum + d = n := by
  induction lengths generalizing month n with
  | nil => exact absurd h (Nat.not_lt_zero n)
  | cons length rest ih =>
    rw [List.sum_cons] at h
    by_cases hn : n < length
    · exact ⟨0, Nat.zero_lt_succ _, n, hn, by rw [walkMonths, if_pos hn]; rfl, Nat.zero_add n⟩
    · obtain ⟨i, hi, d, hd, hwalk, hsum⟩ := @ih (n - length) (month + 1) (by omega)
      refine ⟨i + 1, Nat.succ_lt_succ hi, d, hd, ?_, ?_⟩
      · rw [walkMonths, if_neg hn, hwalk, Nat.add_assoc, Nat.add_comm 1 i]
      · rw [List.take_succ_cons, List.sum_cons]
        omega

theorem sum_monthLengths (year : Nat) : (monthLengths (isLeap year)).sum = yearLength year := by
  rw [yearLength]
  cases isLeap year
  · rfl
  · rfl

theorem monthLength_le (year month : Nat) : monthLength year month ≤ 31 := by
  have hall : ∀ leap, ∀ x ∈ monthLengths leap, x ≤ 31 := by decide
  rw [monthLength, List.getD_eq_getElem?_getD]
  by_cases hm : month = 0
  · rw [if_pos hm]
    decide
  · rw [if_neg hm]
    cases hx : (monthLengths (isLeap year))[month - 1]? with
    | none => decide
    | some x => exact hall _ x (List.mem_of_getElem? hx)

namespace Date

/-- The date of a day lies in the year found for the day, in a month of that
year, on a day of that month; with the days before these it makes up the number
of the day. -/
theorem ofDayNumber_spec (n : Nat) :
    (ofDayNumber n).year = yearOfDay n ∧ 1 ≤ (ofDayNumber n).month ∧ (ofDayNumber n).month ≤ 12 ∧
      1 ≤ (ofDayNumber n).day ∧
      (ofDayNumber n).day ≤ monthLength (yearOfDay n) (ofDayNumber n).month ∧
      daysBeforeYear (yearOfDay n) + daysBeforeMonth (yearOfDay n) (ofDayNumber n).month +
        (ofDayNumber n).day = n + 1 := by
  have hsum := lt_yearLength n
  rw [← sum_monthLengths] at hsum
  obtain ⟨i, hi, d, hd, hwalk, hdays⟩ := walkMonths_spec 1 hsum
  have hyear := daysBeforeYear_yearOfDay n
  have hlength : (monthLengths (isLeap (yearOfDay n))).length = 12 := rfl
  unfold ofDayNumber
  dsimp only
  rw [hwalk]
  refine ⟨rfl, by omega, by omega, by omega, ?_, ?_⟩
  · rw [monthLength, if_neg (by omega), Nat.add_sub_cancel_left]
    exact hd
  · rw [daysBeforeMonth, Nat.add_sub_cancel_left, ← List.sum_eq_foldl_nat]
    omega

/-- The date of a day of the calendar names one. -/
theorem ofDayNumber_valid {n : Nat} (h : n < calendarDays) : (ofDayNumber n).Valid := by
  obtain ⟨hyear, hm, hm', hd, hd', -⟩ := ofDayNumber_spec n
  unfold Valid
  rw [hyear]
  refine ⟨?_, ?_, hm, hm', hd, hd'⟩
  · unfold yearOfDay
    dsimp only
    omega
  · unfold calendarDays at h
    unfold yearOfDay
    dsimp only
    omega

/-- The date of a day has the number of the day. -/
theorem dayNumber_ofDayNumber (n : Nat) : (ofDayNumber n).dayNumber = n := by
  obtain ⟨hyear, -, -, -, -, hsum⟩ := ofDayNumber_spec n
  unfold dayNumber
  rw [hyear]
  omega

end Date

end Meetings
