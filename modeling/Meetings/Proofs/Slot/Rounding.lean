/-
Rounding up to a spacing.

The spacing is counted from the start of the hour: rounding keeps a moment that is
aligned with it (`Moment.Aligned`), and takes the last aligned moment of its hour
before any other (`Moment.IsFloor`) forward by the spacing.

* `ceilTo_eq` — rounding in terms of that last aligned moment;
* `le_ceilTo`, `ceilTo_lt` — it moves forward, and by less than the spacing;
* `ceilTo_isLeast` — if the spacing divides the hour, the result is the least
  multiple of the spacing that is not before the moment;
* `exists_ceilTo_iff`, `ceilTo_overflow` — it fails only where the step forward
  leaves the calendar, on the clock or in UTC (`Moment.HasRoom`);
* **`ceilTo_exact`** — the result is the earliest aligned moment from a moment on,
  so that rounding is idempotent and monotone and keeps the aligned moments alone.

Design notes: the calendar begins with an hour, so a spacing that divides the hour
has its multiples where the minute of the clock does.  This is what carries
leastness across the hours: it is a statement on whole readings.
-/
import Meetings.Proofs.Moment
import Meetings.Slot.Grid

namespace Meetings

variable {offset q : Int} {m a : Moment offset}

namespace Moment

variable {floor before after : Moment offset}

/-- The minute of the clock is a multiple of the spacing, to the microsecond. -/
def Aligned (q : Int) (m : Moment offset) : Prop :=
  q ∣ m.minute ∧ m.second = 0 ∧ m.microsecond = 0

theorem aligned_iff (h60 : q ∣ 60) : m.Aligned q ↔ q * minuteSpan ∣ m.wall :=
  aligned_iff_dvd h60

/-- The last aligned moment of the hour of a moment that is not after it. -/
structure IsFloor (q : Int) (m floor : Moment offset) : Prop where
  aligned : floor.Aligned q
  same_hour : floor.wall / hourSpan = m.wall / hourSpan
  le : floor.wall ≤ m.wall
  lt : m.wall < floor.wall + q * minuteSpan

/-- On a whole minute a reading is its hours and the minutes of the last of them. -/
theorem Aligned.wall_eq (h : m.Aligned q) :
    m.wall = m.wall / hourSpan * hourSpan + (m.minute : Int) * minuteSpan := by
  obtain ⟨-, hsecond, hmicro⟩ := h
  have := m.wall_nonneg
  unfold second microsecond at *
  unfold minute hourSpan minuteSpan secondSpan at *
  omega

/-- The minute of the last aligned moment is the minute rounded down. -/
theorem IsFloor.minute_eq (h : m.IsFloor q floor) :
    (floor.minute : Int) = m.minute - (m.minute : Int) % q := by
  obtain ⟨k, hk⟩ := h.aligned.1
  have hw := h.aligned.wall_eq
  have hnonneg := m.wall_nonneg
  -- The minutes differ as the readings do, by less than the spacing.
  have hrest : 0 ≤ (m.minute : Int) - floor.minute ∧ (m.minute : Int) - floor.minute < q := by
    obtain ⟨-, hhour, hle, hlt⟩ := h
    unfold minute hourSpan minuteSpan at *
    omega
  have hmod : (m.minute : Int) % q = m.minute - floor.minute := by
    rw [show (m.minute : Int) = m.minute - floor.minute + q * k by omega,
      Int.add_mul_emod_self_left, Int.emod_eq_of_lt hrest.1 hrest.2, hk]
    omega
  omega

theorem IsFloor.wall_eq (h : m.IsFloor q floor) :
    floor.wall = m.wall / hourSpan * hourSpan +
      ((m.minute : Int) - (m.minute : Int) % q) * minuteSpan := by
  rw [← h.minute_eq, ← h.same_hour]
  exact h.aligned.wall_eq

/-- The start of a minute of an hour reads as that minute, to the microsecond. -/
theorem reads_minute {hours minutes : Int} (h : m.wall = hours * hourSpan + minutes * minuteSpan)
    (h0 : 0 ≤ minutes) (h60 : minutes < 60) : m.wall / hourSpan = hours ∧
      (m.minute : Int) = minutes ∧ m.second = 0 ∧ m.microsecond = 0 := by
  unfold minute second microsecond
  rw [h]
  unfold hourSpan minuteSpan secondSpan
  omega

theorem exists_isFloor (hq : 0 < q) (m : Moment offset) : ∃ floor, m.IsFloor q floor := by
  have hr := Int.emod_nonneg (m.minute : Int) (show q ≠ 0 by omega)
  have hr' := Int.emod_lt_of_pos (m.minute : Int) hq
  have hrest : (m.minute : Int) % q ≤ m.minute := by
    have := Int.mul_nonneg (Int.le_of_lt hq)
      (Int.ediv_nonneg (Int.natCast_nonneg m.minute) (Int.le_of_lt hq))
    rw [Int.emod_def]
    omega
  have hdvd : q ∣ (m.minute : Int) - (m.minute : Int) % q := Int.dvd_self_sub_emod
  generalize (m.minute : Int) % q = r at *
  have hm : 0 ≤ m.wall / hourSpan * hourSpan ∧ m.minute < 60 ∧
      m.wall / hourSpan * hourSpan + (m.minute : Int) * minuteSpan ≤ m.wall ∧
      m.wall < m.wall / hourSpan * hourSpan + (m.minute : Int) * minuteSpan + minuteSpan := by
    have := m.wall_nonneg
    unfold minute hourSpan minuteSpan
    omega
  have hend := m.wall_lt
  obtain ⟨floor, hfloor⟩ : ∃ floor : Moment offset,
      floor.wall = m.wall / hourSpan * hourSpan + ((m.minute : Int) - r) * minuteSpan := by
    unfold minuteSpan at hm ⊢
    exact ⟨⟨_, by omega, by omega⟩, rfl⟩
  obtain ⟨hhour, hminute, hwhole⟩ := reads_minute hfloor (by omega) (by omega)
  unfold minuteSpan at hm hfloor
  refine ⟨floor, ⟨hminute ▸ hdvd, hwhole⟩, hhour, ?_, ?_⟩
  · omega
  · unfold minuteSpan
    omega

theorem IsFloor.unique {floor' : Moment offset} (h : m.IsFloor q floor)
    (h' : m.IsFloor q floor') : floor = floor' :=
  eq_of_wall (h.wall_eq.trans h'.wall_eq.symm)

theorem Aligned.isFloor (hq : 0 < q) (h : m.Aligned q) : m.IsFloor q m :=
  ⟨h, rfl, Int.le_refl _, by unfold minuteSpan; omega⟩

theorem IsFloor.eq_self_iff (hq : 0 < q) (h : m.IsFloor q floor) :
    floor.wall = m.wall ↔ m.Aligned q := by
  constructor
  · intro hself
    cases eq_of_wall hself
    exact h.aligned
  · intro ha
    rw [h.unique (ha.isFloor hq)]

/-- The last aligned moment of the hour and the moment a spacing later have their
like in UTC, so that the step from one to the other stays in the calendar. -/
def HasRoom (q : Int) (m : Moment offset) : Prop :=
  ∃ floor after : Moment offset, m.IsFloor q floor ∧
    after.instant = floor.instant + q * minuteSpan ∧ floor.InUtc ∧ after.InUtc

theorem IsFloor.hasRoom_iff (h : m.IsFloor q floor) :
    m.HasRoom q ↔ ∃ a, floor.plusMinutes q = .ok a := by
  have hstep (after : Moment offset) : after.instant = floor.instant + q * minuteSpan ↔
      after.wall = floor.wall + q * minuteSpan := by
    show after.wall - _ = floor.wall - _ + _ ↔ _
    omega
  rw [exists_plusMinutes_inUtc]
  constructor
  · rintro ⟨floor', after, hfloor, hafter, hin, hin'⟩
    cases hfloor.unique h
    exact ⟨hin, after, (hstep after).mp hafter, hin'⟩
  · rintro ⟨hin, after, hafter, hin'⟩
    exact ⟨floor, after, h, (hstep after).mpr hafter, hin, hin'⟩

/-- Between aligned moments that have their like in UTC there is room. -/
theorem hasRoom_of_aligned (hq : 0 < q) (h60 : q ∣ 60) (hb : before.Aligned q)
    (ha : after.Aligned q) (hbin : before.InUtc) (hain : after.InUtc)
    (hle : before.wall ≤ m.wall) (hlt : m.wall < after.wall) : m.HasRoom q := by
  obtain ⟨floor, hfloor⟩ := exists_isFloor hq m
  have hle' := hfloor.le
  have hlt' := hfloor.lt
  have hf := (aligned_iff h60).mp hfloor.aligned
  -- Aligned moments are a spacing apart, so none lies within the one after `floor`.
  have hbefore : before.wall ≤ floor.wall := Int.not_lt.mp fun hpast => by
    have hgap := Int.le_of_dvd (show 0 < before.wall - floor.wall by omega)
      (Int.dvd_sub ((aligned_iff h60).mp hb) hf)
    omega
  have hafter := Int.le_of_dvd (show 0 < after.wall - floor.wall by omega)
    (Int.dvd_sub ((aligned_iff h60).mp ha) hf)
  obtain ⟨later, hlater⟩ : ∃ later : Moment offset,
      later.wall = floor.wall + q * minuteSpan := by
    have hnonneg := floor.wall_nonneg
    have hend := after.wall_lt
    exact ⟨⟨_, by omega, by omega⟩, rfl⟩
  rw [hfloor.hasRoom_iff, exists_plusMinutes_inUtc]
  exact ⟨hbin.between hain hbefore (by omega), later, hlater,
    hbin.between hain (by omega) (by omega)⟩

end Moment

/-! ### What rounding does -/

variable {floor : Moment offset}

/-- Rounding keeps the last aligned moment of the hour if that is the moment itself,
and else goes on by the spacing. -/
theorem ceilTo_eq (hq : 0 < q) (h : m.IsFloor q floor) :
    ceilTo q m = if floor.wall = m.wall then .ok floor else floor.plusMinutes q := by
  have hr := Int.emod_nonneg (m.minute : Int) (show q ≠ 0 by omega)
  have hminute := h.minute_eq
  have hm : m.minute < 60 := by
    unfold Moment.minute hourSpan minuteSpan
    omega
  have hat : m.atMinute ((m.minute : Int) - (m.minute : Int) % q) = .ok floor := by
    rw [Moment.atMinute, if_neg (by omega)]
    exact Moment.ofWall_eq_ok_iff.mpr h.wall_eq
  rw [ceilTo, if_neg (by omega), Int.fmod_eq_emod_of_nonneg _ (by omega), hat, ok_bind]
  rfl

theorem ceilTo_cases (hq : 0 < q) (h : ceilTo q m = .ok a) : ∃ floor, m.IsFloor q floor ∧
    (a = m ∧ floor = m ∨ floor.wall ≠ m.wall ∧ a.wall = floor.wall + q * minuteSpan) := by
  obtain ⟨floor, hfloor⟩ := Moment.exists_isFloor hq m
  refine ⟨floor, hfloor, ?_⟩
  rw [ceilTo_eq hq hfloor] at h
  split at h
  · rename_i hself
    cases h
    cases Moment.eq_of_wall hself
    exact .inl ⟨rfl, rfl⟩
  · rename_i hne
    exact .inr ⟨hne, Moment.plusMinutes_wall h⟩

theorem le_ceilTo (hq : 0 < q) (h : ceilTo q m = .ok a) : m.wall ≤ a.wall := by
  obtain ⟨floor, hfloor, ⟨rfl, -⟩ | ⟨-, ha⟩⟩ := ceilTo_cases hq h
  · exact Int.le_refl _
  · have := hfloor.lt
    omega

theorem ceilTo_lt (hq : 0 < q) (h : ceilTo q m = .ok a) : a.wall < m.wall + q * minuteSpan := by
  obtain ⟨floor, hfloor, ⟨rfl, -⟩ | ⟨hne, ha⟩⟩ := ceilTo_cases hq h
  · unfold minuteSpan
    omega
  · have := hfloor.le
    omega

theorem ceilTo_overflow (hq : 0 < q) {f : TimeFault} (h : ceilTo q m = .error f) :
    f.Overflow := by
  obtain ⟨floor, hfloor⟩ := Moment.exists_isFloor hq m
  rw [ceilTo_eq hq hfloor] at h
  split at h
  · cases h
  · exact Moment.plusMinutes_overflow h

/-- The aligned moments alone are kept. -/
theorem ceilTo_eq_self_iff (hq : 0 < q) : ceilTo q m = .ok m ↔ m.Aligned q := by
  constructor
  · intro h
    obtain ⟨floor, hfloor, ⟨-, rfl⟩ | ⟨-, hm⟩⟩ := ceilTo_cases hq h
    · exact hfloor.aligned
    · exact absurd hfloor.lt (Int.not_lt.mpr (Int.le_of_eq hm.symm))
  · intro ha
    obtain ⟨floor, hfloor⟩ := Moment.exists_isFloor hq m
    have hself := (hfloor.eq_self_iff hq).mpr ha
    rw [ceilTo_eq hq hfloor, if_pos hself, Moment.eq_of_wall hself]

/-- A moment that is not aligned is rounded if there is room for the step. -/
theorem exists_ceilTo_iff (hq : 0 < q) :
    (∃ a, ceilTo q m = .ok a) ↔ m.Aligned q ∨ m.HasRoom q := by
  obtain ⟨floor, hfloor⟩ := Moment.exists_isFloor hq m
  rw [← hfloor.eq_self_iff hq, hfloor.hasRoom_iff, ceilTo_eq hq hfloor]
  split
  · rename_i hself
    exact iff_of_true ⟨floor, rfl⟩ (.inl hself)
  · rename_i hne
    rw [or_iff_right hne]

/-- In UTC the step to the rounded moment need only be left in the calendar. -/
theorem exists_ceilTo {m : Utc} (hq : 0 < q) (h : m.wall + q * minuteSpan < calendarEnd) :
    ∃ a, ceilTo q m = .ok a := by
  obtain ⟨floor, hfloor⟩ := Moment.exists_isFloor hq m
  have hle := hfloor.le
  rw [exists_ceilTo_iff hq, hfloor.hasRoom_iff, Moment.exists_plusMinutes_iff (Int.le_of_lt hq)]
  exact .inr (by omega)

/-- Rounding gives the least multiple of the spacing that is not before the
moment. -/
theorem ceilTo_isLeast (hq : 0 < q) (h60 : q ∣ 60) (h : ceilTo q m = .ok a) :
    q * minuteSpan ∣ a.wall ∧ m.wall ≤ a.wall ∧
      ∀ w, q * minuteSpan ∣ w → m.wall ≤ w → a.wall ≤ w := by
  obtain ⟨floor, hfloor, hcase⟩ := ceilTo_cases hq h
  have hd := (Moment.aligned_iff h60).mp hfloor.aligned
  refine ⟨?_, le_ceilTo hq h, fun w hw hmw => ?_⟩
  · rcases hcase with ⟨rfl, rfl⟩ | ⟨-, ha⟩
    · exact hd
    · rw [ha]
      exact Int.dvd_add hd (Int.dvd_refl _)
  · rcases hcase with ⟨rfl, -⟩ | ⟨hne, ha⟩
    · exact hmw
    · have hle := hfloor.le
      have hgap := Int.le_of_dvd (show 0 < w - floor.wall by omega) (Int.dvd_sub hw hd)
      omega

/-- Of two moments the later is not rounded to an earlier one. -/
theorem ceilTo_mono {m' a' : Moment offset} (hq : 0 < q) (h60 : q ∣ 60)
    (h : ceilTo q m = .ok a) (h' : ceilTo q m' = .ok a') (hle : m.wall ≤ m'.wall) :
    a.wall ≤ a'.wall := by
  obtain ⟨-, -, hleast⟩ := ceilTo_isLeast hq h60 h
  obtain ⟨hd, hle', -⟩ := ceilTo_isLeast hq h60 h'
  exact hleast a'.wall hd (Int.le_trans hle hle')

/-- The moment has a property, and no earlier one has. -/
def Moment.IsEarliest (P : Moment offset → Prop) (a : Moment offset) : Prop :=
  P a ∧ ∀ t, P t → a.instant ≤ t.instant

/-- **Rounding is exact.**  For any positive spacing it gives a moment that is not
before the given one and less than the spacing after it, and keeps the aligned
moments alone; it fails only by leaving the calendar, which is exactly when the
moment is not aligned and the step from the last aligned moment of the hour leads
out of the calendar, on the clock or in UTC.  If the spacing divides the hour, the
result is the earliest aligned moment from the given one on, so that rounding is
idempotent and monotone. -/
theorem ceilTo_exact {q : Int} (hq : 0 < q) {offset : Int} (m : Moment offset) :
    ((∃ a, ceilTo q m = .ok a) ↔ m.Aligned q ∨ m.HasRoom q) ∧
    (∀ f, ceilTo q m = .error f → f.Overflow) ∧
    (∀ a, ceilTo q m = .ok a →
      m.instant ≤ a.instant ∧ a.instant < m.instant + q * minuteSpan) ∧
    (ceilTo q m = .ok m ↔ m.Aligned q) ∧
    (q ∣ 60 → ∀ a, ceilTo q m = .ok a →
      Moment.IsEarliest (fun t => t.Aligned q ∧ m.instant ≤ t.instant) a ∧
      ceilTo q a = .ok a ∧
      ∀ m' a' : Moment offset, ceilTo q m' = .ok a' → m.instant ≤ m'.instant →
        a.instant ≤ a'.instant) := by
  refine ⟨exists_ceilTo_iff hq, fun f => ceilTo_overflow hq, fun a h => ⟨?_, ?_⟩,
    ceilTo_eq_self_iff hq, fun h60 a h => ?_⟩
  · exact Moment.instant_le_iff.mpr (le_ceilTo hq h)
  · have hlt := ceilTo_lt hq h
    show a.wall - _ < m.wall - _ + _
    omega
  · obtain ⟨hd, hle, hleast⟩ := ceilTo_isLeast hq h60 h
    have ha : a.Aligned q := (Moment.aligned_iff h60).mpr hd
    refine ⟨⟨⟨ha, Moment.instant_le_iff.mpr hle⟩, ?_⟩, (ceilTo_eq_self_iff hq).mpr ha, ?_⟩
    · rintro t ⟨ht, hmt⟩
      rw [Moment.instant_le_iff] at hmt ⊢
      exact hleast t.wall ((Moment.aligned_iff h60).mp ht) hmt
    · intro m' a' h' hmm
      rw [Moment.instant_le_iff] at hmm ⊢
      exact ceilTo_mono hq h60 h h' hmm

/-- Ten minutes before midnight, on a clock that is 345 minutes ahead, the quarter
of an hour rounds to the first moment of the next day. -/
theorem ceilTo_exact_midnight :
    (0 : Int) < 15 ∧ (15 : Int) ∣ 60 ∧
      ∃ a, ceilTo 15 (Moment.saturdayAhead 345 1430).moment = .ok a ∧
        a.date = ⟨2024, 6, 16⟩ ∧ a.sinceMidnight = 0 ∧ ceilTo 15 a = .ok a ∧
        Moment.IsEarliest (fun t => t.Aligned 15 ∧
          (Moment.saturdayAhead 345 1430).moment.instant ≤ t.instant) a := by
  have hrounded : ceilTo 15 (Moment.saturdayAhead 345 1430).moment =
      .ok ⟨739052 * daySpan, by decide, by decide⟩ := rfl
  obtain ⟨hearliest, hkept, -⟩ :=
    (ceilTo_exact (by decide) (Moment.saturdayAhead 345 1430).moment).2.2.2.2 (by decide) _ hrounded
  exact ⟨by decide, by decide, _, hrounded, by decide, by decide, hkept, hearliest⟩

end Meetings
