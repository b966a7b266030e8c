/-
The search for a slot comes to an end.

* `seek_answers` — as long as a step of the grid and a whole day are left after
  the window, the walk from start to start has an answer;
* `run_fails_iff_seek` — before the walk, the search fails only if the duration
  leads out of the calendar;
* `Overruns` — the duration does so from the start of the window;
* **`search_ends`** — whatever the hours, every step of the walk is at least the
  spacing, so that none goes on for ever; and with hours that are a range and a
  window that ends a day before the calendar does, `Overruns` is the only way to
  fail;
* `search_overruns` — it is one indeed.

Design notes: what keeps the walk in the calendar is that rounding and stepping
go less than the spacing and a day ahead (`first_lt`, `next_lt`), and that the
walk stops where a meeting would end after the window.  Both bounds together
hold for every start that is looked at.
-/
import Meetings.Proofs.Slot.Exact

namespace Meetings

namespace Search

variable {s : Search} {start : Utc} {checked : Nat}

theorem exists_accepts (hopens : s.grid.hours.opens.span < s.grid.hours.closes.span)
    (start stop : Utc) : ∃ b, s.accepts start stop = .ok b := by
  cases hacc : s.accepts start stop with
  | ok b => exact ⟨b, rfl⟩
  | error f => exact absurd hopens (Int.not_lt.mpr (accepts_fault hacc).1)

/-- **The walk has an answer** if the window ends early enough for a step and a
day after it, and the first meeting to be looked at ends within the calendar. -/
theorem seek_answers (hopens : s.grid.hours.opens.span < s.grid.hours.closes.span)
    (hq : 0 < s.grid.quantum) (hd : 0 < s.duration)
    (hroom : s.windowStop.wall + s.grid.quantum * minuteSpan + daySpan ≤ calendarEnd)
    (hstart : start.wall + s.duration * minuteSpan < calendarEnd) :
    ∃ out, s.seek checked start = .ok out := by
  fun_induction s.seek checked start with
  | case1 checked start f hstop =>
    exact absurd ((Moment.exists_plusMinutes_iff (Int.le_of_lt hd)).mpr hstart)
      (exists_error_iff.mp ⟨f, hstop⟩)
  | case2 checked start stop hstop hlate => exact ⟨_, rfl⟩
  | case3 checked start stop hstop hfit f hacc =>
    exact absurd (exists_accepts hopens start stop) (exists_error_iff.mp ⟨f, hacc⟩)
  | case4 checked start stop hstop hfit hacc => exact ⟨_, rfl⟩
  | case5 checked start stop hstop hfit hacc f hnext =>
    have hw := Moment.plusMinutes_wall hstop
    unfold minuteSpan at hw
    exact absurd (Grid.exists_next hq (by omega)) (exists_error_iff.mp ⟨f, hnext⟩)
  | case6 checked start stop hstop hfit hacc after hnext hadv hless ih =>
    have hw := Moment.plusMinutes_wall hstop
    have hlt := Grid.next_lt hnext
    exact ih (by omega)
  | case7 checked start stop hstop hfit hacc after hnext hadv =>
    exact absurd (advances_next hq hnext) hadv

/-- Before it walks, the search fails only if the duration leads out of the
calendar from the start of a window that is not empty. -/
theorem run_fails_iff_seek (hd : 0 < s.duration) :
    (∃ f, s.run = .error f) ↔ s.windowStart.wall < s.windowStop.wall ∧
      (calendarEnd ≤ s.windowStart.wall + s.duration * minuteSpan ∨
        s.windowStart.wall + s.duration * minuteSpan < s.windowStop.wall ∧
          ∃ f, (s.grid.first s.windowStart >>= s.seek 0) = .error f) := by
  have hend := s.windowStop.wall_lt
  unfold run
  by_cases hempty : s.windowStop.wall ≤ s.windowStart.wall
  · rw [if_pos hempty]
    constructor
    · rintro ⟨f, hf⟩
      cases hf
    · rintro ⟨hlt, -⟩
      omega
  · rw [if_neg hempty]
    cases hfit : s.windowStart.plusMinutes s.duration with
    | error f =>
      have hover := mt (Moment.exists_plusMinutes_iff (m := s.windowStart) (Int.le_of_lt hd)).mpr
        (exists_error_iff.mp ⟨f, hfit⟩)
      exact ⟨fun _ => ⟨by omega, .inl (by omega)⟩, fun _ => ⟨f, rfl⟩⟩
    | ok fit =>
      have hw := Moment.plusMinutes_wall hfit
      have hin := fit.wall_lt
      rw [ok_bind]
      by_cases hlate : s.windowStop.wall ≤ fit.wall
      · rw [if_pos hlate]
        constructor
        · rintro ⟨f, hf⟩
          cases hf
        · rintro ⟨-, hover | ⟨hlt, -⟩⟩
          · omega
          · omega
      · rw [if_neg hlate]
        constructor
        · rintro hf
          exact ⟨by omega, .inr ⟨by omega, hf⟩⟩
        · rintro ⟨-, hover | ⟨-, hf⟩⟩
          · omega
          · exact hf

/-- With a step and a day to spare after the window, the search fails only if
the duration leads out of the calendar. -/
theorem run_fails_iff_of_room (hopens : s.grid.hours.opens.span < s.grid.hours.closes.span)
    (hq : 0 < s.grid.quantum) (hd : 0 < s.duration)
    (hroom : s.windowStop.wall + s.grid.quantum * minuteSpan + daySpan ≤ calendarEnd) :
    (∃ f, s.run = .error f) ↔ s.windowStart.wall < s.windowStop.wall ∧
      calendarEnd ≤ s.windowStart.wall + s.duration * minuteSpan := by
  rw [run_fails_iff_seek hd]
  constructor
  · rintro ⟨hlt, hover | ⟨hfit, f, hf⟩⟩
    · exact ⟨hlt, hover⟩
    · obtain ⟨start, hstart⟩ := Grid.exists_first (m := s.windowStart) hq (by omega)
      have hnear := Grid.first_lt hq hstart
      obtain ⟨out, hout⟩ : ∃ out, s.seek 0 start = .ok out :=
        seek_answers hopens hq hd hroom (by omega)
      rw [hstart, ok_bind, hout] at hf
      cases hf
  · rintro ⟨hlt, hover⟩
    exact ⟨hlt, .inl hover⟩

end Search

/-- Somebody is asked for, the window is not empty, and a meeting of the given
duration, put at the start of the window, would end after the calendar does. -/
def Overruns (people : Option (List PersonRef)) (duration : Option Int)
    (start stop : Instant) : Prop :=
  people.getD [] ≠ [] ∧ start < stop ∧
    ∃ d, duration = some d ∧ 0 < d ∧ calendarEnd ≤ start + d * minuteSpan

/-- With hours that are a range and a window that ends a day before the calendar
does, the search fails only if the duration leads out of the calendar. -/
theorem findSlot_fails_iff_overruns {g : Grid} {people : Option (List PersonRef)}
    {duration : Option Int} {start stop : Zoned} {existing : List (Option Commitment)}
    {first last : Utc} (hopens : g.hours.opens.span < g.hours.closes.span) (hq : 0 < g.quantum)
    (hhour : g.quantum ≤ 60) (hstart : start.toUtc = .ok first) (hstop : stop.toUtc = .ok last)
    (hlast : stop.instant ≤ calendarEnd - 2 * daySpan) :
    (∃ f, findSlot g people duration start stop existing = .error f) ↔
      Overruns people duration start.instant stop.instant := by
  have hfirst : first.wall = start.instant := Moment.toUtc_wall hstart
  have hstop' : last.wall = stop.instant := Moment.toUtc_wall hstop
  have hroom : last.wall + g.quantum * minuteSpan + daySpan ≤ calendarEnd := by
    have hlast : last.wall ≤ calendarEnd - 2 * daySpan := hstop' ▸ hlast
    unfold daySpan at hlast ⊢
    unfold minuteSpan
    omega
  have hrun (d : Int) (hd : 0 < d) := Search.run_fails_iff_of_room
    (s := ⟨g, people.getD [], d, first, last, existing⟩) hopens hq hd hroom
  rw [findSlot_fails_iff_run hstart hstop, Overruns, ← hfirst, ← hstop']
  constructor
  · rintro ⟨hpeople, d, rfl, hd, hf⟩
    obtain ⟨hlt, hover⟩ := (hrun d hd).mp hf
    exact ⟨hpeople, hlt, d, rfl, hd, hover⟩
  · rintro ⟨hpeople, hlt, d, rfl, hd, hover⟩
    exact ⟨hpeople, d, rfl, hd, (hrun d hd).mpr ⟨hlt, hover⟩⟩

/-- **The search comes to an end.**  On any hours and any positive spacing, the
start that follows a moment is at least the spacing after it and the first start
from a moment on is not before it; no sequence of starts goes on for ever, and
the search never finds its steps standing still.  If the hours open before they
close, it fails only by leaving the calendar, or on an offset of a day or more.
If moreover the spacing is at most an hour and the window ends a day before the
last day of the calendar, it fails exactly when the duration leads out of the
calendar from the start of the window. -/
theorem search_ends {g : Grid} (hq : 0 < g.quantum) :
    (∀ {offset : Int} (m a : Moment offset),
      (g.next m = .ok a → m.instant + g.quantum * minuteSpan ≤ a.instant) ∧
        (g.first m = .ok a → m.instant ≤ a.instant)) ∧
    (∀ offset, WellFounded fun after before : Moment offset => g.next before = .ok after) ∧
    ∀ people duration start stop existing,
      findSlot g people duration start stop existing ≠ .error .endless ∧
      (g.hours.opens.span < g.hours.closes.span →
        (∀ f, findSlot g people duration start stop existing = .error f →
          f.Overflow ∨ f = .offsetTooLarge ∧
            (86400 ≤ start.offset.natAbs ∨ 86400 ≤ stop.offset.natAbs)) ∧
        (g.quantum ≤ 60 → ∀ first last, start.toUtc = .ok first → stop.toUtc = .ok last →
          stop.instant ≤ calendarEnd - 2 * daySpan →
          ((∃ f, findSlot g people duration start stop existing = .error f) ↔
            Overruns people duration start.instant stop.instant))) := by
  refine ⟨fun m a => ⟨fun h => ?_, fun h => ?_⟩, fun offset => Grid.next_wellFounded hq,
    fun people duration start stop existing => ⟨fun h => ?_, fun hopens => ⟨fun f h => ?_, ?_⟩⟩⟩
  · have hstep := Grid.add_le_next h
    show m.wall - _ + _ ≤ a.wall - _
    omega
  · exact Int.sub_le_sub_right (Grid.le_first hq h) _
  · rcases findSlot_fault hq h with (hover | ⟨hoffset, -⟩) | ⟨-, a, b, hinverted⟩
    · exact hover
    · cases hoffset
    · cases hinverted
  · rcases findSlot_fault hq h with hover | ⟨hle, -⟩
    · exact hover
    · exact absurd hopens (Int.not_lt.mpr hle)
  · intro hhour first last hstart hstop hlast
    exact findSlot_fails_iff_overruns hopens hq hhour hstart hstop hlast

/-- Half an hour of Ada in the evening of a Saturday: there is no such slot, and
the search comes to say so. -/
theorem search_ends_saturday :
    0 < Grid.standard.quantum ∧
      Grid.standard.hours.opens.span < Grid.standard.hours.closes.span ∧
      Grid.standard.quantum ≤ 60 ∧
      (Moment.saturday 1320).zoned.instant ≤ calendarEnd - 2 * daySpan ∧
      ¬∃ f, findSlot Grid.standard (some [.number 1]) (some 30) (Moment.saturday 1080).zoned
        (Moment.saturday 1320).zoned [] = .error f := by
  have hq : 0 < Grid.standard.quantum := by decide
  have hopens : Grid.standard.hours.opens.span < Grid.standard.hours.closes.span := by decide
  have hhour : Grid.standard.quantum ≤ 60 := by decide
  have hlast : (Moment.saturday 1320).zoned.instant ≤ calendarEnd - 2 * daySpan := by decide
  refine ⟨hq, hopens, hhour, hlast, fun hf => ?_⟩
  obtain ⟨-, -, d, ⟨⟩, -, hover⟩ :=
    ((((search_ends hq).2.2 (some [.number 1]) (some 30) (Moment.saturday 1080).zoned
      (Moment.saturday 1320).zoned []).2 hopens).2 hhour _ _ (Moment.toUtc_utc _)
      (Moment.toUtc_utc _) hlast).mp hf
  exact absurd hover (by decide)

/-- Of a window of fifteen hours that ends two days before the calendar does, a
duration of five thousand minutes leads out of the calendar. -/
theorem search_overruns :
    (5000 : Int) ≤ 2 ^ 31 - 1 ∧
      (Moment.beforeEnd 1 0).zoned.instant ≤ calendarEnd - 2 * daySpan ∧
      findSlot Grid.standard (some [.number 1]) (some 5000) (Moment.beforeEnd 2 540).zoned
        (Moment.beforeEnd 1 0).zoned [] = .error .outsideCalendar :=
  ⟨by decide, by decide, by cbv⟩

end Meetings
