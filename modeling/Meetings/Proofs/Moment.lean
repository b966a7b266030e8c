/-
The arithmetic of moments on their wall readings.

A moment is its wall reading, so each operation that gives a moment is said by
what it does to the reading:

* `ofWall_eq_ok_iff`, `plusMinutes_wall`, `plusDays_wall`, `toUtc_wall` — the
  reading of a result;
* `onDay_wall` — the reading of a time of the same day;
* `plusMinutes_utc` — the result in UTC, whether it lies in the calendar or not;
* `exists_plusMinutes_inUtc` — minutes can be added iff moment and result have
  their like in UTC (`InUtc`); `exists_plusMinutes_within`,
  `exists_plusMinutes_iff`, `exists_plusDays` — when there is a result in UTC, or
  days later;
* **`aligned_iff_dvd`** — a moment lies on the minutes of a spacing that divides
  the hour, to the microsecond, iff the spacing divides its reading.

The faults of these operations all say that the calendar or the range of counts
is left (`TimeFault.Overflow`), as long as the offset is less than a day.
-/
import Meetings.Moment
import Meetings.Proofs.Except

namespace Meetings

/-- The fault says that a result would leave the calendar or the range of
counts. -/
def TimeFault.Overflow : TimeFault → Prop
  | .outsideCalendar | .countTooLarge | .spanTooLong _ => True
  | _ => False

namespace Moment

variable {offset : Int} {m a b : Moment offset}

theorem eq_of_wall (h : a.wall = b.wall) : a = b := by
  cases a
  cases b
  simp only at h
  subst h
  rfl

@[simp] theorem instant_utc (m : Utc) : m.instant = m.wall := by
  simp [instant]

theorem instant_le_iff : a.instant ≤ b.instant ↔ a.wall ≤ b.wall :=
  Int.sub_le_sub_right_iff

theorem instant_lt_iff : a.instant < b.instant ↔ a.wall < b.wall :=
  Int.sub_lt_sub_right_iff

theorem ofWall_eq_ok_iff {w : Int} : ofWall offset w = .ok m ↔ m.wall = w := by
  unfold ofWall
  constructor
  · intro h
    split at h
    · cases h
      rfl
    · cases h
  · rintro rfl
    rw [dif_pos ⟨m.wall_nonneg, m.wall_lt⟩]

theorem ofWall_overflow {w : Int} {f : TimeFault} (h : ofWall offset w = .error f) :
    f.Overflow := by
  unfold ofWall at h
  split at h
  · cases h
  · cases h
    trivial

theorem plusMinutes_wall {n : Int} (h : m.plusMinutes n = .ok a) :
    a.wall = m.wall + n * minuteSpan := by
  unfold plusMinutes at h
  obtain ⟨-, -, h⟩ := bind_eq_ok.mp h
  dsimp only at h
  split at h
  · cases h
  · split at h
    · cases h
    · obtain ⟨-, -, h⟩ := bind_eq_ok.mp h
      exact ofWall_eq_ok_iff.mp h

theorem plusMinutes_overflow {n : Int} {f : TimeFault} (h : m.plusMinutes n = .error f) :
    f.Overflow := by
  unfold plusMinutes at h
  rcases bind_eq_error.mp h with h | ⟨-, -, h⟩
  · exact ofWall_overflow h
  · dsimp only at h
    split at h
    · cases h
      trivial
    · split at h
      · cases h
        trivial
      · rcases bind_eq_error.mp h with h | ⟨-, -, h⟩
        · exact ofWall_overflow h
        · exact ofWall_overflow h

theorem plusDays_wall {n : Int} (h : m.plusDays n = .ok a) : a.wall = m.wall + n * daySpan :=
  ofWall_eq_ok_iff.mp h

theorem exists_ofWall {w : Int} (h0 : 0 ≤ w) (h : w < calendarEnd) :
    ∃ a, ofWall offset w = .ok a :=
  ⟨⟨w, h0, h⟩, ofWall_eq_ok_iff.mpr rfl⟩

/-- In UTC a count of minutes that is not too large for a step moves the reading. -/
theorem plusMinutes_utc {m : Utc} {n : Int}
    (hdays : -999999999 ≤ n / 1440 ∧ n / 1440 ≤ 999999999) :
    m.plusMinutes n = ofWall 0 (m.wall + n * minuteSpan) := by
  have hm : ofWall 0 m.wall = .ok m := ofWall_eq_ok_iff.mpr rfl
  unfold plusMinutes
  rw [instant_utc, hm, ok_bind]
  dsimp only
  rw [if_neg (by omega), if_neg (by omega)]
  cases ofWall 0 (m.wall + n * minuteSpan) with
  | ok a => rfl
  | error f => rfl

/-- The point of time of the moment lies in the calendar of UTC. -/
def InUtc (m : Moment offset) : Prop := 0 ≤ m.instant ∧ m.instant < calendarEnd

theorem inUtc_utc (m : Utc) : m.InUtc := by
  rw [InUtc, instant_utc]
  exact ⟨m.wall_nonneg, m.wall_lt⟩

theorem InUtc.between {c : Moment offset} (ha : a.InUtc) (hc : c.InUtc)
    (hab : a.wall ≤ b.wall) (hbc : b.wall ≤ c.wall) : b.InUtc :=
  ⟨Int.le_trans ha.1 (instant_le_iff.mpr hab), Int.lt_of_le_of_lt (instant_le_iff.mpr hbc) hc.2⟩

/-- Minutes can be added or taken away exactly if the moment and the result have
their like in UTC: counts that are too large for a step of its own lead out of
the calendar. -/
theorem exists_plusMinutes_inUtc {n : Int} : (∃ a, m.plusMinutes n = .ok a) ↔
    m.InUtc ∧ ∃ a : Moment offset, a.wall = m.wall + n * minuteSpan ∧ a.InUtc := by
  have hinstant {a : Moment offset} (ha : a.wall = m.wall + n * minuteSpan) :
      a.instant = m.instant + n * minuteSpan := by
    show a.wall - _ = m.wall - _ + _
    omega
  constructor
  · rintro ⟨a, h⟩
    have ha := plusMinutes_wall h
    unfold plusMinutes at h
    obtain ⟨u, hu, h⟩ := bind_eq_ok.mp h
    dsimp only at h
    split at h
    · cases h
    · split at h
      · cases h
      · obtain ⟨v, hv, -⟩ := bind_eq_ok.mp h
        refine ⟨?_, a, ha, ?_⟩
        · rw [InUtc, ← ofWall_eq_ok_iff.mp hu]
          exact ⟨u.wall_nonneg, u.wall_lt⟩
        · rw [InUtc, hinstant ha, ← ofWall_eq_ok_iff.mp hv]
          exact ⟨v.wall_nonneg, v.wall_lt⟩
  · rintro ⟨hm, a, ha, hin⟩
    have hdays : -999999999 ≤ n / 1440 ∧ n / 1440 ≤ 999999999 := by
      have := m.wall_nonneg
      have := m.wall_lt
      have := a.wall_nonneg
      have := a.wall_lt
      unfold minuteSpan at ha
      unfold calendarEnd at *
      omega
    obtain ⟨u, hu⟩ : ∃ u, ofWall 0 m.instant = .ok u := exists_ofWall hm.1 hm.2
    obtain ⟨v, hv⟩ : ∃ v, ofWall 0 a.instant = .ok v := exists_ofWall hin.1 hin.2
    refine ⟨a, ?_⟩
    unfold plusMinutes
    rw [hu, ok_bind]
    dsimp only
    rw [if_neg (by omega), if_neg (by omega), ← hinstant ha, hv]
    exact ofWall_eq_ok_iff.mpr ha

/-- In UTC the calendar is the only bound on the minutes to be added or taken away. -/
theorem exists_plusMinutes_within {m : Utc} {n : Int} : (∃ a, m.plusMinutes n = .ok a) ↔
    0 ≤ m.wall + n * minuteSpan ∧ m.wall + n * minuteSpan < calendarEnd := by
  rw [exists_plusMinutes_inUtc]
  constructor
  · rintro ⟨-, a, ha, -⟩
    rw [← ha]
    exact ⟨a.wall_nonneg, a.wall_lt⟩
  · rintro ⟨h0, h⟩
    exact ⟨inUtc_utc m, ⟨_, h0, h⟩, rfl, inUtc_utc _⟩

theorem exists_plusMinutes_iff {m : Utc} {n : Int} (hn : 0 ≤ n) :
    (∃ a, m.plusMinutes n = .ok a) ↔ m.wall + n * minuteSpan < calendarEnd := by
  have h0 : 0 ≤ m.wall + n * minuteSpan :=
    Int.add_nonneg m.wall_nonneg (Int.mul_nonneg hn (by decide))
  rw [exists_plusMinutes_within, and_iff_right h0]

theorem exists_plusDays {n : Int} (h0 : 0 ≤ n) (h : m.wall + n * daySpan < calendarEnd) :
    ∃ a, m.plusDays n = .ok a :=
  exists_ofWall (Int.add_nonneg m.wall_nonneg (Int.mul_nonneg h0 (by decide))) h

theorem toUtc_wall {u : Utc} (h : m.toUtc = .ok u) : u.wall = m.instant := by
  unfold toUtc at h
  split at h
  · cases h
  · exact ofWall_eq_ok_iff.mp h

@[simp] theorem toUtc_utc (m : Utc) : m.toUtc = .ok m := by
  rw [toUtc, if_neg (by decide), instant_utc]
  exact ofWall_eq_ok_iff.mpr rfl

theorem offset_of_toUtc {u : Utc} (h : m.toUtc = .ok u) : offset.natAbs < 86400 := by
  unfold toUtc at h
  split at h
  · cases h
  · omega

theorem toUtc_overflow {f : TimeFault} (h : m.toUtc = .error f) :
    f.Overflow ∨ f = .offsetTooLarge ∧ 86400 ≤ offset.natAbs := by
  unfold toUtc at h
  split at h
  · cases h
    right
    exact ⟨rfl, by omega⟩
  · exact .inl (ofWall_overflow h)

@[simp] theorem onDay_wall (m : Moment offset) (t : TimeOfDay) :
    (m.onDay t).wall = m.wall / daySpan * daySpan + t.span := rfl

/-- On the minutes of a spacing that divides the hour, to the microsecond, the
readings are the multiples of the spacing. -/
theorem aligned_iff_dvd {q : Int} (h60 : q ∣ 60) :
    q ∣ m.minute ∧ m.second = 0 ∧ m.microsecond = 0 ↔ q * minuteSpan ∣ m.wall := by
  have hw := m.wall_nonneg
  -- The reading is its hours, its minutes within the hour and a rest below a minute.
  have hsplit : m.wall = m.wall / hourSpan * hourSpan + (m.minute : Int) * minuteSpan +
      m.wall % minuteSpan := by
    unfold minute hourSpan minuteSpan
    omega
  have hhour : q * minuteSpan ∣ m.wall / hourSpan * hourSpan := by
    obtain ⟨k, hk⟩ := h60
    refine ⟨m.wall / hourSpan * k, ?_⟩
    rw [show hourSpan = 60 * minuteSpan from rfl, hk]
    ac_rfl
  have hrest : m.second = 0 ∧ m.microsecond = 0 ↔ m.wall % minuteSpan = 0 := by
    unfold second microsecond minuteSpan secondSpan
    omega
  rw [hrest]
  constructor
  · rintro ⟨hq, hr⟩
    rw [hsplit, hr, Int.add_zero]
    exact Int.dvd_add hhour (Int.mul_dvd_mul_right minuteSpan hq)
  · intro hd
    have hr : m.wall % minuteSpan = 0 :=
      Int.emod_eq_zero_of_dvd (Int.dvd_trans (Int.dvd_mul_left q minuteSpan) hd)
    refine ⟨?_, hr⟩
    rw [hsplit, hr, Int.add_zero] at hd
    have hmin := (Int.dvd_add_right hhour).mp hd
    exact Int.dvd_of_mul_dvd_mul_right (by decide) hmin

/-- A minute of one of the last seven days of the calendar, as many days before
31 December 9999 as are given. -/
def beforeEnd (days minute : Nat) : Utc where
  wall := calendarEnd - ((days % 7 : Nat) + 1) * daySpan + (minute % 1440 : Nat) * minuteSpan
  wall_nonneg := by
    unfold calendarEnd daySpan minuteSpan
    omega
  wall_lt := by
    unfold calendarEnd daySpan minuteSpan
    omega

/-- A minute of 15 June 2024, a Saturday, counted around the clock. -/
def saturday (minute : Nat) : Utc where
  wall := 739051 * daySpan + (minute % 1440 : Nat) * minuteSpan
  wall_nonneg := by
    unfold daySpan minuteSpan
    omega
  wall_lt := by
    unfold daySpan minuteSpan calendarEnd
    omega

/-- A minute of that Saturday on a clock so many minutes ahead of UTC. -/
def saturdayAhead (ahead minute : Nat) : Zoned :=
  ⟨ahead * 60, (saturday minute).wall, (saturday minute).wall_nonneg, (saturday minute).wall_lt⟩

end Moment

theorem Zoned.toUtc_instant {z : Zoned} {u : Utc} (h : z.toUtc = .ok u) :
    u.instant = z.instant := by
  rw [Moment.instant_utc, Moment.toUtc_wall h, Zoned.instant]

end Meetings
