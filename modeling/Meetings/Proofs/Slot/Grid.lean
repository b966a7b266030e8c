/-
The starts of a grid, in their order.

* `le_first`, `add_le_next` — stepping moves forward, for any hours and any positive
  spacing;
* **`first_isLeast`**, **`next_isLeast`** — on a regular grid the first and the next
  start are the least starts from a moment on and after a start;
* **`next_wellFounded`** — no sequence of starts goes on for ever;
* `first_overflow`, `next_overflow` — both fail only by leaving the calendar, and
  `exists_first_iff`, `exists_next_iff` say exactly when they do not;
* `exists_first`, `exists_next`, `exists_first_of_start`, `exists_next_of_start` —
  enough for that in UTC.

Design notes: on wall readings a start is a multiple of the spacing within the
hours of its day (`OpenOn`), so that leastness is a statement about integers and
the local calendar day is a quotient.
-/
import Meetings.Proofs.Hours
import Meetings.Proofs.Slot.Rounding

namespace Meetings

variable {offset : Int} {m a : Moment offset}

/-! ### Moving into the hours -/

namespace Grid

variable {g : Grid}

/-- A reading is a start: a multiple of the spacing within the hours of its day. -/
def OpenOn (g : Grid) (w : Int) : Prop :=
  g.quantum * minuteSpan ∣ w ∧ w / daySpan * daySpan + g.hours.opens.span ≤ w ∧
    w < w / daySpan * daySpan + g.hours.closes.span

/-- The hours open before they close, and the spacing divides the hour and the
minute of the opening, so that the starts of all days lie on one grid. -/
structure Regular (g : Grid) : Prop where
  opensFirst : g.hours.opens.span < g.hours.closes.span
  positive : 0 < g.quantum
  dvd_hour : g.quantum ∣ 60
  dvd_opening : g.quantum ∣ (g.hours.opens.minute.val : Int)

theorem standard_regular : standard.Regular := by
  constructor <;> decide

theorem openAligned_iff (h60 : g.quantum ∣ 60) : g.OpenAligned m ↔ g.OpenOn m.wall := by
  unfold OpenAligned OpenOn
  rw [Hours.isOpenAt_iff, ← Moment.aligned_iff_dvd h60]
  simp only [and_assoc]

theorem intoHours_cases (h : g.intoHours m = .ok a) :
    g.hours.isOpenAt m = true ∧ a = m ∨
      g.hours.isOpenAt m = false ∧ m.wall ≤ (g.hours.opening m).wall ∧ a = g.hours.opening m ∨
      g.hours.isOpenAt m = false ∧ (g.hours.opening m).wall < m.wall ∧
        a.wall = (m.wall / daySpan + 1) * daySpan + g.hours.opens.span := by
  unfold intoHours Hours.nextOpening at h
  cases ho : g.hours.isOpenAt m with
  | true =>
    rw [ho, if_pos rfl] at h
    cases h
    exact .inl ⟨rfl, rfl⟩
  | false =>
    rw [ho, if_neg (by decide)] at h
    split at h
    · rename_i hle
      cases h
      exact .inr (.inl ⟨rfl, hle, rfl⟩)
    · rename_i hlt
      obtain ⟨later, hl, rfl⟩ := map_eq_ok.mp h
      refine .inr (.inr ⟨rfl, by omega, ?_⟩)
      rw [Hours.opening, Moment.onDay_wall, Moment.plusDays_wall hl]
      unfold daySpan
      omega

theorem le_intoHours (h : g.intoHours m = .ok a) : m.wall ≤ a.wall := by
  have := g.hours.opens.span_nonneg
  rcases intoHours_cases h with ⟨-, rfl⟩ | ⟨-, hle, rfl⟩ | ⟨-, -, ha⟩
  · exact Int.le_refl _
  · exact hle
  · unfold daySpan at ha
    omega

theorem intoHours_lt (h : g.intoHours m = .ok a) : a.wall < m.wall + daySpan := by
  have := g.hours.opens.span_lt
  rcases intoHours_cases h with ⟨-, rfl⟩ | ⟨-, -, rfl⟩ | ⟨-, hlt, ha⟩
  · unfold daySpan
    omega
  · simp only [Hours.opening, Moment.onDay_wall]
    unfold daySpan at this ⊢
    omega
  · simp only [Hours.opening, Moment.onDay_wall] at hlt
    unfold daySpan at hlt ha ⊢
    omega

/-- Moving into the hours leaves the calendar only past the opening of its last
day. -/
theorem exists_intoHours
    (h : g.hours.isOpenAt m = false → (g.hours.opening m).wall < m.wall →
      m.wall + daySpan < calendarEnd) : ∃ a, g.intoHours m = .ok a := by
  unfold intoHours Hours.nextOpening
  cases hopen : g.hours.isOpenAt m with
  | true => exact ⟨m, rfl⟩
  | false =>
    rw [if_neg (by decide)]
    split
    · exact ⟨_, rfl⟩
    · rename_i hlt
      obtain ⟨later, hlater⟩ := Moment.exists_plusDays (n := 1) (by decide)
        (by rw [Int.one_mul]; exact h hopen (Int.not_le.mp hlt))
      rw [hlater]
      exact ⟨_, rfl⟩

/-- A moment of the hours that is still to come shows that the calendar is not
at its end. -/
theorem exists_intoHours_of_open {t : Moment offset} (ht : g.hours.isOpenAt t = true)
    (hle : m.wall ≤ t.wall) : ∃ a, g.intoHours m = .ok a := by
  refine exists_intoHours fun hclosed hlt => ?_
  rw [← Bool.not_eq_true, Hours.isOpenAt_iff] at hclosed
  rw [Hours.isOpenAt_iff] at ht
  have hend := t.wall_lt
  simp only [Hours.opening, Moment.onDay_wall] at hlt
  unfold daySpan at hclosed ht hlt ⊢
  unfold calendarEnd at hend ⊢
  omega

theorem intoHours_overflow {f : TimeFault} (h : g.intoHours m = .error f) : f.Overflow := by
  unfold intoHours Hours.nextOpening at h
  split at h
  · cases h
  · split at h
    · cases h
    · cases hp : m.plusDays 1 with
      | ok later => rw [hp] at h; cases h
      | error e =>
        rw [hp] at h
        cases h
        exact Moment.ofWall_overflow hp

/-- From a multiple of the spacing, moving into the hours gives the least start
that is not before it. -/
theorem intoHours_isLeast (hg : g.Regular) (hm : g.quantum * minuteSpan ∣ m.wall)
    (h : g.intoHours m = .ok a) :
    g.OpenOn a.wall ∧ m.wall ≤ a.wall ∧ ∀ w, g.OpenOn w → m.wall ≤ w → a.wall ≤ w := by
  have h0 := g.hours.opens.span_nonneg
  have h1 := g.hours.closes.span_lt
  have hopen := hg.opensFirst
  -- Openings are multiples of the spacing, as midnight and the opening's time are.
  have hopening (day : Int) : g.quantum * minuteSpan ∣ day * daySpan + g.hours.opens.span := by
    have hhour : g.quantum * minuteSpan ∣ hourSpan := Int.mul_dvd_mul_right minuteSpan hg.dvd_hour
    refine Int.dvd_add ?_ (Int.dvd_add ?_ (Int.mul_dvd_mul_right _ hg.dvd_opening))
    · rw [show daySpan = hourSpan * 24 from rfl]
      exact Int.dvd_mul_of_dvd_right (Int.dvd_mul_of_dvd_left hhour)
    · exact Int.dvd_mul_of_dvd_right hhour
  refine ⟨?_, le_intoHours h, ?_⟩
  · rcases intoHours_cases h with ⟨hm', rfl⟩ | ⟨-, -, rfl⟩ | ⟨-, -, ha⟩
    · exact ⟨hm, Hours.isOpenAt_iff.mp hm'⟩
    · refine ⟨hopening _, ?_⟩
      simp only [Hours.opening, Moment.onDay_wall]
      unfold daySpan at h1 ⊢
      omega
    · refine ⟨ha ▸ hopening _, ?_⟩
      unfold daySpan at h1 ha ⊢
      omega
  · rintro w ⟨-, hw, hw'⟩ hle
    rcases intoHours_cases h with ⟨-, rfl⟩ | ⟨hc, -, rfl⟩ | ⟨hc, hlt, ha⟩
    · exact hle
    · simp only [Hours.opening, Moment.onDay_wall]
      unfold daySpan at h1 hw hw' ⊢
      omega
    · -- Past the opening and closed, the moment is past the closing of its day.
      rw [← Bool.not_eq_true, Hours.isOpenAt_iff] at hc
      simp only [Hours.opening, Moment.onDay_wall] at hlt
      unfold daySpan at h1 hw hw' hc hlt ha
      omega

/-! ### The first and the next start -/

theorem le_first (hq : 0 < g.quantum) (h : g.first m = .ok a) : m.wall ≤ a.wall := by
  obtain ⟨r, hr, ha⟩ := bind_eq_ok.mp h
  exact Int.le_trans (le_ceilTo hq hr) (le_intoHours ha)

theorem add_le_next (h : g.next m = .ok a) :
    m.wall + g.quantum * minuteSpan ≤ a.wall := by
  obtain ⟨r, hr, ha⟩ := bind_eq_ok.mp h
  rw [← Moment.plusMinutes_wall hr]
  exact le_intoHours ha

theorem first_lt (hq : 0 < g.quantum) (h : g.first m = .ok a) :
    a.wall < m.wall + g.quantum * minuteSpan + daySpan := by
  obtain ⟨r, hr, ha⟩ := bind_eq_ok.mp h
  have := ceilTo_lt hq hr
  have := intoHours_lt ha
  omega

theorem next_lt (h : g.next m = .ok a) :
    a.wall < m.wall + g.quantum * minuteSpan + daySpan := by
  obtain ⟨r, hr, ha⟩ := bind_eq_ok.mp h
  rw [← Moment.plusMinutes_wall hr]
  exact intoHours_lt ha

/-- **The steps of a walk lead to an end**, as each is at least the spacing and
the calendar is finite. -/
theorem next_wellFounded (hq : 0 < g.quantum) :
    WellFounded fun after before : Moment offset => g.next before = .ok after := by
  refine Subrelation.wf (fun {after before} h => ?_)
    (measure fun m : Moment offset => (calendarEnd - m.wall).toNat).wf
  have hstep := add_le_next h
  have hend := after.wall_lt
  show (calendarEnd - after.wall).toNat < (calendarEnd - before.wall).toNat
  unfold minuteSpan at hstep
  omega

/-! In UTC the first and the next start exist as long as the step to them and a
whole day are left in the calendar. -/

theorem exists_first {m : Utc} (hq : 0 < g.quantum)
    (h : m.wall + g.quantum * minuteSpan + daySpan < calendarEnd) : ∃ a, g.first m = .ok a := by
  obtain ⟨r, hr⟩ := exists_ceilTo (m := m) hq (by unfold daySpan at h; omega)
  have hlt := ceilTo_lt hq hr
  obtain ⟨a, ha⟩ := exists_intoHours (g := g) (m := r) fun _ _ => by omega
  exact ⟨a, bind_eq_ok.mpr ⟨r, hr, ha⟩⟩

theorem exists_next {m : Utc} (hq : 0 < g.quantum)
    (h : m.wall + g.quantum * minuteSpan + daySpan < calendarEnd) : ∃ a, g.next m = .ok a := by
  obtain ⟨r, hr⟩ := (Moment.exists_plusMinutes_iff (m := m) (Int.le_of_lt hq)).mpr
    (by unfold daySpan at h; omega)
  have hw := Moment.plusMinutes_wall hr
  obtain ⟨a, ha⟩ := exists_intoHours (g := g) (m := r) fun _ _ => by omega
  exact ⟨a, bind_eq_ok.mpr ⟨r, hr, ha⟩⟩

theorem first_overflow (hq : 0 < g.quantum) {f : TimeFault} (h : g.first m = .error f) :
    f.Overflow := by
  rcases bind_eq_error.mp h with h | ⟨r, -, h⟩
  · exact ceilTo_overflow hq h
  · exact intoHours_overflow h

theorem next_overflow {f : TimeFault} (h : g.next m = .error f) : f.Overflow := by
  rcases bind_eq_error.mp h with h | ⟨r, -, h⟩
  · exact Moment.plusMinutes_overflow h
  · exact intoHours_overflow h

/-- The first start is the least one that is not before a moment. -/
theorem first_isLeast (hg : g.Regular) (h : g.first m = .ok a) :
    g.OpenOn a.wall ∧ m.wall ≤ a.wall ∧ ∀ w, g.OpenOn w → m.wall ≤ w → a.wall ≤ w := by
  obtain ⟨r, hr, ha⟩ := bind_eq_ok.mp h
  obtain ⟨hd, hle, hleast⟩ := ceilTo_isLeast hg.positive hg.dvd_hour hr
  obtain ⟨hopen', hle', hleast'⟩ := intoHours_isLeast hg hd ha
  exact ⟨hopen', Int.le_trans hle hle', fun w hw hmw => hleast' w hw (hleast w hw.1 hmw)⟩

/-- The start that follows a start is the least one after it. -/
theorem next_isLeast (hg : g.Regular) (hm : g.OpenOn m.wall) (h : g.next m = .ok a) :
    g.OpenOn a.wall ∧ m.wall < a.wall ∧ ∀ w, g.OpenOn w → m.wall < w → a.wall ≤ w := by
  obtain ⟨r, hr, ha⟩ := bind_eq_ok.mp h
  have hrw := Moment.plusMinutes_wall hr
  have hd : g.quantum * minuteSpan ∣ r.wall := by
    rw [hrw]
    exact Int.dvd_add hm.1 (Int.dvd_refl _)
  obtain ⟨hopen', hle, hleast⟩ := intoHours_isLeast hg hd ha
  refine ⟨hopen', ?_, fun w hw hmw => hleast w hw ?_⟩
  · have hq := hg.positive
    unfold minuteSpan at hrw
    omega
  · have hgap := Int.le_of_dvd (show 0 < w - m.wall by omega) (Int.dvd_sub hw.1 hm.1)
    omega

/-! On a regular grid they exist exactly as long as there is room for the step and
some start is still to come. -/

theorem exists_first_iff (hg : g.Regular) : (∃ a, g.first m = .ok a) ↔
    (m.Aligned g.quantum ∨ m.HasRoom g.quantum) ∧
      ∃ t : Moment offset, g.OpenOn t.wall ∧ m.wall ≤ t.wall := by
  rw [← exists_ceilTo_iff hg.positive]
  constructor
  · rintro ⟨a, h⟩
    obtain ⟨hopen, hle, -⟩ := first_isLeast hg h
    obtain ⟨r, hr, -⟩ := bind_eq_ok.mp h
    exact ⟨⟨r, hr⟩, a, hopen, hle⟩
  · rintro ⟨⟨r, hr⟩, t, ht, hle⟩
    obtain ⟨-, -, hleast⟩ := ceilTo_isLeast hg.positive hg.dvd_hour hr
    obtain ⟨a, ha⟩ := exists_intoHours_of_open (Hours.isOpenAt_iff.mpr ht.2)
      (hleast t.wall ht.1 hle)
    exact ⟨a, bind_eq_ok.mpr ⟨r, hr, ha⟩⟩

theorem exists_next_iff (hg : g.Regular) (hm : g.OpenOn m.wall) : (∃ a, g.next m = .ok a) ↔
    m.HasRoom g.quantum ∧ ∃ t : Moment offset, g.OpenOn t.wall ∧ m.wall < t.wall := by
  rw [(Moment.Aligned.isFloor hg.positive ((Moment.aligned_iff hg.dvd_hour).mpr hm.1)).hasRoom_iff]
  constructor
  · rintro ⟨a, h⟩
    obtain ⟨hopen, hlt, -⟩ := next_isLeast hg hm h
    obtain ⟨r, hr, -⟩ := bind_eq_ok.mp h
    exact ⟨⟨r, hr⟩, a, hopen, hlt⟩
  · rintro ⟨⟨r, hr⟩, t, ht, hlt⟩
    have hw := Moment.plusMinutes_wall hr
    have hgap := Int.le_of_dvd (show 0 < t.wall - m.wall by omega) (Int.dvd_sub ht.1 hm.1)
    obtain ⟨a, ha⟩ := exists_intoHours_of_open (m := r) (Hours.isOpenAt_iff.mpr ht.2) (by omega)
    exact ⟨a, bind_eq_ok.mpr ⟨r, hr, ha⟩⟩

theorem exists_first_inUtc {before t : Moment offset} (hg : g.Regular)
    (hb : before.Aligned g.quantum) (hbin : before.InUtc) (hbm : before.wall ≤ m.wall)
    (ht : g.OpenOn t.wall) (htin : t.InUtc) (hle : m.wall ≤ t.wall) : ∃ a, g.first m = .ok a := by
  have haligned := (Moment.aligned_iff hg.dvd_hour).mpr ht.1
  refine (exists_first_iff hg).mpr ⟨?_, t, ht, hle⟩
  rcases Int.lt_or_eq_of_le hle with hlt | heq
  · exact .inr (Moment.hasRoom_of_aligned hg.positive hg.dvd_hour hb haligned hbin htin hbm hlt)
  · cases Moment.eq_of_wall heq
    exact .inl haligned

theorem exists_next_inUtc {t : Moment offset} (hg : g.Regular) (hm : g.OpenOn m.wall)
    (hmin : m.InUtc) (ht : g.OpenOn t.wall) (htin : t.InUtc) (hlt : m.wall < t.wall) :
    ∃ a, g.next m = .ok a :=
  (exists_next_iff hg hm).mpr ⟨Moment.hasRoom_of_aligned hg.positive hg.dvd_hour
    ((Moment.aligned_iff hg.dvd_hour).mpr hm.1) ((Moment.aligned_iff hg.dvd_hour).mpr ht.1)
    hmin htin (Int.le_refl _) hlt, t, ht, hlt⟩

theorem exists_first_of_start {m t : Utc} (hg : g.Regular) (ht : g.OpenOn t.wall)
    (hle : m.wall ≤ t.wall) : ∃ a, g.first m = .ok a := by
  -- The calendar itself begins with an aligned moment.
  have hbegin : Moment.Aligned g.quantum (⟨0, by decide, by decide⟩ : Utc) :=
    (Moment.aligned_iff hg.dvd_hour).mpr (Int.dvd_zero _)
  exact exists_first_inUtc hg hbegin (Moment.inUtc_utc _) m.wall_nonneg ht (Moment.inUtc_utc _) hle

theorem exists_next_of_start {m t : Utc} (hg : g.Regular) (hm : g.OpenOn m.wall)
    (ht : g.OpenOn t.wall) (hlt : m.wall < t.wall) : ∃ a, g.next m = .ok a :=
  exists_next_inUtc hg hm (Moment.inUtc_utc _) ht (Moment.inUtc_utc _) hlt

end Grid

end Meetings
