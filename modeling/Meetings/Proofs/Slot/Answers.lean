/-
Exactly when the search for a slot has an answer.

* `Search.Ends` — a moment that ends a walk: a meeting can be held at it, or it
  is a start whose meeting would end after the window, yet within the calendar;
* `ends_of_seek`, `seek_of_ends` — the walk has an answer iff such a moment lies
  ahead of it;
* `RunsOff` — a window has none, so that the walk leaves the calendar;
* **`findSlot_fails_iff`** — on a regular grid the search fails exactly if the
  duration leads out of the calendar or the walk does;
* `findSlot_overflows` — it does both.

Design notes: the walk passes over no start, so what ends it is the first moment
of `Search.Ends`.  Every start before that one is in the calendar together with
its meeting, as these only grow along the walk.
-/
import Meetings.Proofs.Slot.Ending

namespace Meetings

/-- A start of the grid shows a window to be used up: its meeting would end after
the window, and the calendar goes on until then. -/
def Exhausts (g : Grid) (duration : Int) (start stop : Instant) (t : Utc) : Prop :=
  g.OpenAligned t ∧ start ≤ t.instant ∧ stop < t.instant + duration * minuteSpan ∧
    t.instant + duration * minuteSpan < calendarEnd

namespace Search

variable {s : Search} {start t : Utc} {checked : Nat}

/-- A moment ends the walk: a meeting can be held at it, or it shows the window
to be used up. -/
def Ends (s : Search) (t : Utc) : Prop :=
  s.Feasible t ∨ Exhausts s.grid s.duration s.windowStart.instant s.windowStop.instant t

/-- What ends the walk is a start of the window whose meeting is within the
calendar. -/
theorem Ends.isStart (hg : s.grid.Regular) (hd : 0 < s.duration) (h : s.Ends t) :
    s.grid.OpenOn t.wall ∧ s.windowStart.wall ≤ t.wall ∧
      t.wall + s.duration * minuteSpan < calendarEnd := by
  have hend := s.windowStop.wall_lt
  rcases h with hfeasible | ⟨hopen, hwin, -, hin⟩
  · obtain ⟨-, ⟨hwin, hfit⟩, -⟩ := feasible_iff.mp hfeasible
    exact ⟨openOn_of_feasible hg hd hfeasible, hwin, by omega⟩
  · rw [Moment.instant_utc] at hwin hin
    rw [Moment.instant_utc] at hwin
    exact ⟨(Grid.openAligned_iff hg.dvd_hour).mp hopen, hwin, hin⟩

/-- What ends the walk is not passed over, and so lies after a start that is. -/
theorem Ends.lt_of_passed {stop : Utc} (h : s.Ends t) (hle : start.wall ≤ t.wall)
    (hg : s.grid.Regular) (hopen : s.grid.OpenOn start.wall)
    (hwin : s.windowStart.wall ≤ start.wall) (hstop : start.plusMinutes s.duration = .ok stop)
    (hfit : stop.wall ≤ s.windowStop.wall) (hacc : s.accepts start stop = .ok false) :
    start.wall < t.wall := by
  refine Int.lt_iff_le_and_ne.mpr ⟨hle, fun he => ?_⟩
  cases Moment.eq_of_wall he
  rcases h with hfeasible | ⟨-, -, hlate, -⟩
  · exact Bool.false_ne_true ((accepts_iff hg hopen hwin hstop hfit hacc).mpr hfeasible)
  · rw [Moment.instant_utc, Moment.instant_utc, ← Moment.plusMinutes_wall hstop] at hlate
    exact absurd hfit (Int.not_le.mpr hlate)

/-- A walk that has an answer meets a moment that ends it. -/
theorem ends_of_seek {out : Outcome} (hg : s.grid.Regular) (hopen : s.grid.OpenOn start.wall)
    (hwin : s.windowStart.wall ≤ start.wall) (h : s.seek checked start = .ok out) :
    ∃ t, s.Ends t := by
  fun_induction s.seek checked start with
  | case1 checked start f hstop => cases h
  | case2 checked start stop hstop hlate =>
    have hw := Moment.plusMinutes_wall hstop
    have hend := stop.wall_lt
    rw [hw] at hlate hend
    refine ⟨start, .inr ⟨(Grid.openAligned_iff hg.dvd_hour).mpr hopen, ?_⟩⟩
    simp only [Moment.instant_utc]
    exact ⟨hwin, hlate, hend⟩
  | case3 checked start stop hstop hfit f hacc => cases h
  | case4 checked start stop hstop hfit hacc =>
    exact ⟨start, .inl ((accepts_iff hg hopen hwin hstop (by omega) hacc).mp rfl)⟩
  | case5 checked start stop hstop hfit hacc f hnext => cases h
  | case6 checked start stop hstop hfit hacc after hnext hadv hless ih =>
    obtain ⟨hopen', hlt, -⟩ := Grid.next_isLeast hg hopen hnext
    exact ih hopen' (by omega) h
  | case7 checked start stop hstop hfit hacc after hnext hadv => cases h

/-- A walk towards a moment that ends it has an answer. -/
theorem seek_of_ends (hg : s.grid.Regular) (hd : 0 < s.duration)
    (hopen : s.grid.OpenOn start.wall) (hwin : s.windowStart.wall ≤ start.wall) (ht : s.Ends t)
    (hle : start.wall ≤ t.wall) : ∃ out, s.seek checked start = .ok out := by
  obtain ⟨hopen', -, hin⟩ := ht.isStart hg hd
  fun_induction s.seek checked start with
  | case1 checked start f hstop =>
    exact absurd ((Moment.exists_plusMinutes_iff (Int.le_of_lt hd)).mpr (by omega))
      (exists_error_iff.mp ⟨f, hstop⟩)
  | case2 checked start stop hstop hlate => exact ⟨_, rfl⟩
  | case3 checked start stop hstop hfit f hacc =>
    exact absurd (exists_accepts hg.opensFirst start stop) (exists_error_iff.mp ⟨f, hacc⟩)
  | case4 checked start stop hstop hfit hacc => exact ⟨_, rfl⟩
  | case5 checked start stop hstop hfit hacc f hnext =>
    have hlt := ht.lt_of_passed hle hg hopen hwin hstop (by omega) hacc
    exact absurd (Grid.exists_next_of_start hg hopen hopen' hlt) (exists_error_iff.mp ⟨f, hnext⟩)
  | case6 checked start stop hstop hfit hacc after hnext hadv hless ih =>
    have hlt := ht.lt_of_passed hle hg hopen hwin hstop (by omega) hacc
    obtain ⟨hafter, hstep, hleast⟩ := Grid.next_isLeast hg hopen hnext
    exact ih hafter (by omega) (hleast t.wall hopen' hlt)
  | case7 checked start stop hstop hfit hacc after hnext hadv =>
    exact absurd (advances_next hg.positive hnext) hadv

/-- From the first start of the window on, the walk fails iff nothing ends it. -/
theorem walk_fails_iff (hg : s.grid.Regular) (hd : 0 < s.duration) :
    (∃ f, (s.grid.first s.windowStart >>= s.seek 0) = .error f) ↔ ∀ t, ¬s.Ends t := by
  rw [exists_error_iff, ← not_exists]
  refine not_congr ⟨?_, ?_⟩
  · rintro ⟨out, h⟩
    obtain ⟨start, hstart, h⟩ := bind_eq_ok.mp h
    obtain ⟨hopen, hle, -⟩ := Grid.first_isLeast hg hstart
    exact ends_of_seek hg hopen hle h
  · rintro ⟨t, ht⟩
    obtain ⟨hopen', hwin, -⟩ := ht.isStart hg hd
    obtain ⟨start, hstart⟩ := Grid.exists_first_of_start hg hopen' hwin
    obtain ⟨hopen, hle, hleast⟩ := Grid.first_isLeast hg hstart
    obtain ⟨out, hout⟩ := seek_of_ends hg hd hopen hle ht (hleast t.wall hopen' hwin)
    exact ⟨out, bind_eq_ok.mpr ⟨start, hstart, hout⟩⟩

theorem run_fails_iff (hg : s.grid.Regular) (hd : 0 < s.duration) :
    (∃ f, s.run = .error f) ↔ s.windowStart.instant < s.windowStop.instant ∧
      (calendarEnd ≤ s.windowStart.instant + s.duration * minuteSpan ∨
        s.windowStart.instant + s.duration * minuteSpan < s.windowStop.instant ∧
          ∀ t, ¬s.Ends t) := by
  rw [run_fails_iff_seek hd, walk_fails_iff hg hd]
  simp only [Moment.instant_utc]

end Search

/-- A search runs off the calendar: somebody is asked for, the duration ends
before the window does, and yet no meeting can be held and no start shows the
window to be used up. -/
def RunsOff (g : Grid) (people : Option (List PersonRef)) (duration : Option Int)
    (start stop : Instant) (existing : List (Option Commitment)) : Prop :=
  people.getD [] ≠ [] ∧ ∃ d, duration = some d ∧ 0 < d ∧ start + d * minuteSpan < stop ∧
    ∀ t, ¬CanMeet g (people.getD []) d start stop existing t ∧ ¬Exhausts g d start stop t

variable {g : Grid} {start stop : Zoned} {first last : Utc}

theorem findSlot_fails_iff_leaves (hg : g.Regular) (hstart : start.toUtc = .ok first)
    (hstop : stop.toUtc = .ok last) (people : Option (List PersonRef)) (duration : Option Int)
    (existing : List (Option Commitment)) :
    (∃ f, findSlot g people duration start stop existing = .error f) ↔
      Overruns people duration start.instant stop.instant ∨
        RunsOff g people duration start.instant stop.instant existing := by
  have hrun (d : Int) (hd : 0 < d) :=
    Search.run_fails_iff (s := ⟨g, people.getD [], d, first, last, existing⟩) hg hd
  rw [findSlot_fails_iff_run hstart hstop, Overruns, RunsOff, ← Zoned.toUtc_instant hstart,
    ← Zoned.toUtc_instant hstop]
  constructor
  · rintro ⟨hpeople, d, rfl, hd, hf⟩
    obtain ⟨hlt, hover | ⟨hfit, hnone⟩⟩ := (hrun d hd).mp hf
    · exact .inl ⟨hpeople, hlt, d, rfl, hd, hover⟩
    · exact .inr ⟨hpeople, d, rfl, hd, hfit, fun t => not_or.mp (hnone t)⟩
  · rintro (⟨hpeople, hlt, d, rfl, hd, hover⟩ | ⟨hpeople, d, rfl, hd, hfit, hnone⟩)
    · exact ⟨hpeople, d, rfl, hd, (hrun d hd).mpr ⟨hlt, .inl hover⟩⟩
    · have hlt : first.instant < last.instant :=
        Int.lt_trans (Int.lt_add_of_pos_right _ (Int.mul_pos hd (by decide))) hfit
      exact ⟨hpeople, d, rfl, hd, (hrun d hd).mpr ⟨hlt, .inr ⟨hfit, fun t => not_or.mpr (hnone t)⟩⟩⟩

/-- **Exactly when the search fails.**  Between two readings that have their like
in UTC, the search on a regular grid fails if and only if the duration leads out
of the calendar from the start of the window, or the window is long enough and
the walk through it runs off the calendar.  It then fails by leaving the
calendar, and in no other way.  In particular there is no slot, and the search
says so, if the duration does not end before the window but within the
calendar. -/
theorem findSlot_fails_iff (hg : g.Regular) (hstart : start.toUtc = .ok first)
    (hstop : stop.toUtc = .ok last) (people : Option (List PersonRef)) (duration : Option Int)
    (existing : List (Option Commitment)) :
    ((∃ f, findSlot g people duration start stop existing = .error f) ↔
      Overruns people duration start.instant stop.instant ∨
        RunsOff g people duration start.instant stop.instant existing) ∧
    (∀ f, findSlot g people duration start stop existing = .error f → f.Overflow) ∧
    ∀ d, duration = some d → stop.instant ≤ start.instant + d * minuteSpan →
      start.instant + d * minuteSpan < calendarEnd →
        ∃ out, findSlot g people duration start stop existing = .ok out ∧ out.slot = none := by
  have hleaves := findSlot_fails_iff_leaves hg hstart hstop people duration existing
  refine ⟨hleaves, fun f hf => ?_, ?_⟩
  · rcases findSlot_overflow hg hf with hover | ⟨-, hoffset | hoffset⟩
    · exact hover
    · exact absurd (Moment.offset_of_toUtc hstart) (Nat.not_lt.mpr hoffset)
    · exact absurd (Moment.offset_of_toUtc hstop) (Nat.not_lt.mpr hoffset)
  · rintro d rfl hlong hin
    cases hfind : findSlot g people (some d) start stop existing with
    | ok out =>
      exact ⟨out, rfl, (findSlot_earliest hg hfind).1.mpr (.inr (.inr (.inr (.inl hlong))))⟩
    | error f =>
      rcases hleaves.mp ⟨f, hfind⟩ with ⟨-, -, d', ⟨⟩, -, hover⟩ | ⟨-, d', ⟨⟩, -, hfit, -⟩
      · exact absurd hin (Int.not_lt.mpr hover)
      · exact absurd hfit (Int.not_lt.mpr hlong)

/-- On the last day of the calendar, an hour from half past four on finds no
place before closing, and the walk runs off into the next day. -/
theorem findSlot_fails_iff_lastDay :
    Grid.standard.Regular ∧
      (Moment.beforeEnd 0 990).zoned.toUtc = .ok (Moment.beforeEnd 0 990) ∧
      (Moment.beforeEnd 0 1380).zoned.toUtc = .ok (Moment.beforeEnd 0 1380) ∧
      RunsOff Grid.standard (some [.number 1]) (some 60) (Moment.beforeEnd 0 990).zoned.instant
        (Moment.beforeEnd 0 1380).zoned.instant [] := by
  have hstart : (Moment.beforeEnd 0 990).zoned.toUtc = .ok (Moment.beforeEnd 0 990) :=
    Moment.toUtc_utc _
  have hstop : (Moment.beforeEnd 0 1380).zoned.toUtc = .ok (Moment.beforeEnd 0 1380) :=
    Moment.toUtc_utc _
  have hfind : findSlot Grid.standard (some [.number 1]) (some 60) (Moment.beforeEnd 0 990).zoned
      (Moment.beforeEnd 0 1380).zoned [] = .error .outsideCalendar := by cbv
  refine ⟨Grid.standard_regular, hstart, hstop, ?_⟩
  have hfails :=
    (findSlot_fails_iff Grid.standard_regular hstart hstop (some [.number 1]) (some 60) []).1
  rcases hfails.mp ⟨_, hfind⟩ with ⟨-, -, d, ⟨⟩, -, hover⟩ | hruns
  · exact absurd hover (by decide)
  · exact hruns

/-- Ten thousand million minutes from a Saturday on lead out of the calendar, and
so does the walk through the last evening of it. -/
theorem findSlot_overflows :
    (findSlot Grid.standard (some [.number 1]) (some 10000000000) (Moment.saturday 540).zoned
      (Moment.saturday 1020).zoned [] = .error .outsideCalendar ∧
      (Moment.saturday 1020).zoned.instant ≤
        (Moment.saturday 540).zoned.instant + 10000000000 * minuteSpan) ∧
    findSlot Grid.standard (some [.number 1]) (some 60) (Moment.beforeEnd 0 990).zoned
      (Moment.beforeEnd 0 1380).zoned [] = .error .outsideCalendar :=
  ⟨⟨by cbv, by decide⟩, by cbv⟩

end Meetings
