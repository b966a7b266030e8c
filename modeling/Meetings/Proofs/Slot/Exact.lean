/-
The search for a slot is exact.

* `CanMeet` — a moment at which a meeting could be held within a window, in
  terms of points of time alone;
* `Search.Earliest` — a slot is the earliest feasible moment, and no slot means
  that none is feasible;
* `seek_earliest` — the walk from start to start finds it;
* `findSlot_fault` — on any grid of positive spacing the search fails only where
  time arithmetic leaves the calendar, or at hours that are no range;
* **`findSlot_exact`** — so does the search as it is asked, on every regular
  grid, and it fails only where time arithmetic leaves the calendar.

Design notes: the invariant of the walk is that no feasible moment lies before
the start it looks at.  A step keeps it since feasible moments are starts, and
the next start is the least one after a start.
-/
import Mathlib
import Meetings.Proofs.Commitment
import Meetings.Proofs.Slot.Grid
import Meetings.Slot.Search

namespace Meetings

/-- A meeting of some people could be held at a moment: it is a multiple of the
spacing, to the microsecond; the meeting lies within the window and within the
hours of its day; and no commitment of any of the people meets it. -/
def CanMeet (g : Grid) (people : List PersonRef) (duration : Int) (start stop : Instant)
    (existing : List (Option Commitment)) (t : Utc) : Prop :=
  g.quantum ∣ t.minute ∧ t.second = 0 ∧ t.microsecond = 0 ∧
    start ≤ t.instant ∧ t.instant + duration * minuteSpan ≤ stop ∧
    (g.hours.opening t).instant ≤ t.instant ∧
    t.instant + duration * minuteSpan ≤ (g.hours.closing t).instant ∧
    ∀ c, some c ∈ existing → sharesPerson people c.people = true →
      ¬(t.instant < c.stop ∧ c.start < t.instant + duration * minuteSpan)

namespace Search

variable {s : Search} {start stop after t : Utc} {checked : Nat} {out : Outcome} {f : TimeFault}

/-- A moment at which the meeting that is asked for could be held. -/
def Feasible (s : Search) (t : Utc) : Prop :=
  CanMeet s.grid s.people s.duration s.windowStart.instant s.windowStop.instant s.existing t

/-- Feasibility on wall readings. -/
theorem feasible_iff : s.Feasible t ↔
    (s.grid.quantum ∣ t.minute ∧ t.second = 0 ∧ t.microsecond = 0) ∧
      (s.windowStart.wall ≤ t.wall ∧
        t.wall + s.duration * minuteSpan ≤ s.windowStop.wall) ∧
      (t.wall / daySpan * daySpan + s.grid.hours.opens.span ≤ t.wall ∧
        t.wall + s.duration * minuteSpan ≤
          t.wall / daySpan * daySpan + s.grid.hours.closes.span) ∧
      ∀ c, some c ∈ s.existing → sharesPerson s.people c.people = true →
        ¬(t.wall < c.stop ∧ c.start < t.wall + s.duration * minuteSpan) := by
  unfold Feasible CanMeet
  simp only [Moment.instant_utc, Hours.opening, Hours.closing, Moment.onDay_wall, and_assoc]

/-- A slot is the earliest feasible moment; no slot means that there is none. -/
def Earliest (s : Search) : Option Utc → Prop
  | none => ∀ t, ¬s.Feasible t
  | some t => s.Feasible t ∧ ∀ u, s.Feasible u → t.wall ≤ u.wall

/-- Feasible moments are starts of the grid. -/
theorem openOn_of_feasible (hg : s.grid.Regular) (hd : 0 < s.duration) (h : s.Feasible t) :
    s.grid.OpenOn t.wall := by
  obtain ⟨haligned, -, ⟨hopen, hclose⟩, -⟩ := feasible_iff.mp h
  refine ⟨(Moment.aligned_iff_dvd hg.dvd_hour).mp haligned, hopen, ?_⟩
  unfold minuteSpan at hclose
  omega

/-- A start within the window is accepted iff it is feasible. -/
theorem accepts_iff {b : Bool} (hg : s.grid.Regular) (hstart : s.grid.OpenOn start.wall)
    (hwin : s.windowStart.wall ≤ start.wall) (hstop : start.plusMinutes s.duration = .ok stop)
    (hfit : stop.wall ≤ s.windowStop.wall) (hacc : s.accepts start stop = .ok b) :
    b = true ↔ s.Feasible start := by
  have hw := Moment.plusMinutes_wall hstop
  have haligned := (Moment.aligned_iff_dvd hg.dvd_hour).mpr hstart.1
  -- Spacing and window hold by hypothesis; hours and commitments are what is looked at.
  have hfeasible : s.Feasible start ↔
      s.grid.hours.spans start stop.zoned = true ∧
        conflictsWithAny (s.commitment start stop) s.existing = false := by
    rw [feasible_iff, Hours.spans_iff, conflictsWithAny_eq_false_iff, ← hw]
    simp only [commitment, Moment.instant_utc]
    constructor
    · rintro ⟨-, -, hspan, hfree⟩
      exact ⟨hspan, hfree⟩
    · rintro ⟨hspan, hfree⟩
      exact ⟨haligned, ⟨hwin, hfit⟩, hspan, hfree⟩
  unfold accepts at hacc
  rw [Hours.contains_eq hg.opensFirst, ok_bind] at hacc
  rw [hfeasible]
  cases hsp : s.grid.hours.spans start stop.zoned with
  | false =>
    rw [hsp] at hacc
    cases hacc
    simp
  | true =>
    rw [hsp] at hacc
    cases hacc
    simp

/-! ### The walk -/

/-- From a start before which nothing is feasible, the walk finds the earliest
feasible moment. -/
theorem seek_earliest (hg : s.grid.Regular) (hd : 0 < s.duration)
    (hstart : s.grid.OpenOn start.wall) (hwin : s.windowStart.wall ≤ start.wall)
    (hbefore : ∀ t, s.Feasible t → start.wall ≤ t.wall)
    (h : s.seek checked start = .ok out) : s.Earliest out.slot := by
  fun_induction s.seek checked start with
  | case1 checked start f hstop => cases h
  | case2 checked start stop hstop hlate =>
    -- The meeting would end too late here, and so it would at every later moment.
    cases h
    intro t ht
    have hle := hbefore t ht
    have hw := Moment.plusMinutes_wall hstop
    obtain ⟨-, ⟨-, hfit⟩, -⟩ := feasible_iff.mp ht
    omega
  | case3 checked start stop hstop hfit f hacc => cases h
  | case4 checked start stop hstop hfit hacc =>
    cases h
    exact ⟨(accepts_iff hg hstart hwin hstop (by omega) hacc).mp rfl, hbefore⟩
  | case5 checked start stop hstop hfit hacc f hnext => cases h
  | case6 checked start stop hstop hfit hacc after hnext hadv ih1 ih2 =>
    -- The start is refused, so no feasible moment is at it, nor before the next one.
    obtain ⟨hopen, hlt, hleast⟩ := Grid.next_isLeast hg hstart hnext
    refine ih2 hopen (by omega) (fun t ht => hleast t.wall (openOn_of_feasible hg hd ht) ?_) h
    have hle := hbefore t ht
    have hne : start.wall ≠ t.wall := fun he => by
      cases Moment.eq_of_wall he
      exact Bool.false_ne_true ((accepts_iff hg hstart hwin hstop (by omega) hacc).mpr ht)
    omega
  | case7 checked start stop hstop hfit hacc after hnext hadv => cases h

theorem advances_next (hq : 0 < s.grid.quantum) (h : s.grid.next start = .ok after) :
    s.advances start after = true := by
  have := Grid.add_le_next h
  unfold minuteSpan at this
  unfold advances
  rw [if_pos hq, decide_eq_true_iff]
  omega

theorem accepts_fault (h : s.accepts start stop = .error f) :
    s.grid.hours.closes.span ≤ s.grid.hours.opens.span ∧ ∃ a b, f = .inverted a b := by
  unfold accepts at h
  rcases bind_eq_error.mp h with h | ⟨within, -, h⟩
  · obtain ⟨hle, rfl⟩ := Hours.contains_fault h
    exact ⟨hle, _, _, rfl⟩
  · split at h
    · cases h
    · cases h

/-- The walk breaks off only at the end of the calendar, or at hours that are
no range. -/
theorem seek_fault (hq : 0 < s.grid.quantum) (h : s.seek checked start = .error f) :
    f.Overflow ∨
      s.grid.hours.closes.span ≤ s.grid.hours.opens.span ∧ ∃ a b, f = .inverted a b := by
  fun_induction s.seek checked start with
  | case1 checked start g hstop =>
    cases h
    exact .inl (Moment.plusMinutes_overflow hstop)
  | case2 => cases h
  | case3 checked start stop hstop hfit g hacc =>
    cases h
    exact .inr (accepts_fault hacc)
  | case4 => cases h
  | case5 checked start stop hstop hfit hacc g hnext =>
    cases h
    exact .inl (Grid.next_overflow hnext)
  | case6 checked start stop hstop hfit hacc after hnext hadv ih1 ih2 => exact ih2 h
  | case7 checked start stop hstop hfit hacc after hnext hadv =>
    exact absurd (advances_next hq hnext) hadv

/-- With sensible people and duration, the answer is a slot exactly when the
duration ends before the window does and something is feasible, and the slot is
then the earliest. -/
theorem run_earliest (hg : s.grid.Regular) (hd : 0 < s.duration) (h : s.run = .ok out) :
    (s.windowStart.wall < s.windowStop.wall ∧
      s.windowStart.wall + s.duration * minuteSpan < s.windowStop.wall ∧ s.Earliest out.slot) ∨
    ((s.windowStop.wall ≤ s.windowStart.wall ∨
      s.windowStop.wall ≤ s.windowStart.wall + s.duration * minuteSpan) ∧ out.slot = none) := by
  unfold run at h
  split at h
  · rename_i hempty
    cases h
    exact .inr ⟨.inl hempty, rfl⟩
  · rename_i hwindow
    obtain ⟨fit, hfit, h⟩ := bind_eq_ok.mp h
    rw [← Moment.plusMinutes_wall hfit]
    split at h
    · rename_i hlate
      cases h
      exact .inr ⟨.inr hlate, rfl⟩
    · rename_i hroom
      obtain ⟨start, hstart, h⟩ := bind_eq_ok.mp h
      obtain ⟨hopen, hle, hleast⟩ := Grid.first_isLeast hg hstart
      refine .inl ⟨by omega, by omega, seek_earliest hg hd hopen hle (fun t ht => ?_) h⟩
      obtain ⟨-, ⟨hwin, -⟩, -⟩ := feasible_iff.mp ht
      exact hleast t.wall (openOn_of_feasible hg hd ht) hwin

theorem run_fault (hq : 0 < s.grid.quantum) (h : s.run = .error f) :
    f.Overflow ∨
      s.grid.hours.closes.span ≤ s.grid.hours.opens.span ∧ ∃ a b, f = .inverted a b := by
  unfold run at h
  split at h
  · cases h
  · rcases bind_eq_error.mp h with h | ⟨fit, -, h⟩
    · exact .inl (Moment.plusMinutes_overflow h)
    · split at h
      · cases h
      · rcases bind_eq_error.mp h with h | ⟨start, -, h⟩
        · exact .inl (Grid.first_overflow hq h)
        · exact seek_fault hq h

end Search

/-! ### The search as it is asked -/

/-- There is nothing to find: nobody is asked for, the duration is absent or not
positive, the window is empty or no longer than the duration, or a meeting can
be held at no moment. -/
def NothingToFind (g : Grid) (people : Option (List PersonRef)) (duration : Option Int)
    (start stop : Instant) (existing : List (Option Commitment)) : Prop :=
  people.getD [] = [] ∨ match duration with
    | none => True
    | some d => d ≤ 0 ∨ stop ≤ start ∨ stop ≤ start + d * minuteSpan ∨
        ∀ t, ¬CanMeet g (people.getD []) d start stop existing t

/-- A meeting can be held at a moment, and at none before it. -/
def EarliestMeeting (g : Grid) (people : Option (List PersonRef)) (duration : Option Int)
    (start stop : Instant) (existing : List (Option Commitment)) (t : Utc) : Prop :=
  ∃ d, duration = some d ∧ CanMeet g (people.getD []) d start stop existing t ∧
    ∀ u, CanMeet g (people.getD []) d start stop existing u → t.instant ≤ u.instant

variable {g : Grid} {people : Option (List PersonRef)} {duration : Option Int}
  {start stop : Zoned} {existing : List (Option Commitment)} {out : Outcome} {f : TimeFault}

/-- Beyond its first checks the search as it is asked is a search of the window
in UTC. -/
theorem findSlot_cases (g : Grid) (people : Option (List PersonRef)) (duration : Option Int)
    (start stop : Zoned) (existing : List (Option Commitment)) :
    (∃ out, findSlot g people duration start stop existing = .ok out ∧ out.slot = none ∧
      NothingToFind g people duration start.instant stop.instant existing) ∨
    (∃ d, duration = some d ∧ 0 < d ∧ people.getD [] ≠ [] ∧
      findSlot g people duration start stop existing = do
        Search.run ⟨g, people.getD [], d, ← start.toUtc, ← stop.toUtc, existing⟩) := by
  unfold findSlot NothingToFind
  cases people.getD [] with
  | nil => exact .inl ⟨.nobody, rfl, rfl, .inl rfl⟩
  | cons p ps =>
    cases duration with
    | none => exact .inl ⟨.badDuration none, rfl, rfl, .inr trivial⟩
    | some d =>
      by_cases hd : d ≤ 0
      · refine .inl ⟨.badDuration (some d), ?_, rfl, .inr (.inl hd)⟩
        simp only [hd, if_true]
      · refine .inr ⟨d, rfl, by omega, List.cons_ne_nil p ps, ?_⟩
        simp only [hd, if_false]

/-- Between two readings that have their like in UTC, the search fails exactly
when its questions are sensible and the search of the window in UTC fails. -/
theorem findSlot_fails_iff_run {first last : Utc} (hstart : start.toUtc = .ok first)
    (hstop : stop.toUtc = .ok last) :
    (∃ f, findSlot g people duration start stop existing = .error f) ↔
      people.getD [] ≠ [] ∧ ∃ d, duration = some d ∧ 0 < d ∧
        ∃ f, Search.run ⟨g, people.getD [], d, first, last, existing⟩ = .error f := by
  unfold findSlot
  cases people.getD [] with
  | nil => simp
  | cons p ps =>
    cases duration with
    | none => simp
    | some d =>
      by_cases hd : d ≤ 0
      · simp only [hd, if_true]
        constructor
        · rintro ⟨f, hf⟩
          cases hf
        · rintro ⟨-, d', ⟨⟩, hpos, -⟩
          omega
      · simp only [hd, if_false, hstart, hstop, ok_bind]
        constructor
        · intro hf
          exact ⟨List.cons_ne_nil p ps, d, rfl, by omega, hf⟩
        · rintro ⟨-, d', ⟨⟩, -, hf⟩
          exact hf

theorem findSlot_fault (hq : 0 < g.quantum)
    (h : findSlot g people duration start stop existing = .error f) :
    (f.Overflow ∨ f = .offsetTooLarge ∧
      (86400 ≤ start.offset.natAbs ∨ 86400 ≤ stop.offset.natAbs)) ∨
    g.hours.closes.span ≤ g.hours.opens.span ∧ ∃ a b, f = .inverted a b := by
  rcases findSlot_cases g people duration start stop existing with
    ⟨out, hout, -⟩ | ⟨d, rfl, hd, hne, heq⟩
  · rw [h] at hout
    cases hout
  · rw [heq] at h
    rcases bind_eq_error.mp h with h | ⟨first, -, h⟩
    · rcases Moment.toUtc_overflow h with h | ⟨h, ho⟩
      · exact .inl (.inl h)
      · exact .inl (.inr ⟨h, .inl ho⟩)
    · rcases bind_eq_error.mp h with h | ⟨last, -, h⟩
      · rcases Moment.toUtc_overflow h with h | ⟨h, ho⟩
        · exact .inl (.inl h)
        · exact .inl (.inr ⟨h, .inr ho⟩)
      · rcases Search.run_fault hq h with h | h
        · exact .inl (.inl h)
        · exact .inr h

theorem findSlot_overflow (hg : g.Regular)
    (h : findSlot g people duration start stop existing = .error f) :
    f.Overflow ∨ f = .offsetTooLarge ∧
      (86400 ≤ start.offset.natAbs ∨ 86400 ≤ stop.offset.natAbs) := by
  rcases findSlot_fault hg.positive h with h | ⟨hle, -⟩
  · exact h
  · exact absurd hg.opensFirst (Int.not_lt.mpr hle)

theorem findSlot_earliest (hg : g.Regular)
    (h : findSlot g people duration start stop existing = .ok out) :
    (out.slot = none ↔ NothingToFind g people duration start.instant stop.instant existing) ∧
      ∀ t, out.slot = some t →
        EarliestMeeting g people duration start.instant stop.instant existing t := by
  rcases findSlot_cases g people duration start stop existing with
    ⟨out', hout, hslot, hnone⟩ | ⟨d, rfl, hd, hne, heq⟩
  · rw [h] at hout
    cases hout
    exact ⟨⟨fun _ => hnone, fun _ => hslot⟩, fun t ht => by rw [hslot] at ht; cases ht⟩
  · rw [heq] at h
    obtain ⟨first, hfirst, h⟩ := bind_eq_ok.mp h
    obtain ⟨last, hlast, h⟩ := bind_eq_ok.mp h
    have hfirst : start.instant = first.wall := (Moment.toUtc_wall hfirst).symm
    have hlast : stop.instant = last.wall := (Moment.toUtc_wall hlast).symm
    -- A meeting depends on the points of time only, so the window may be one in UTC.
    have hcan (t : Utc) : CanMeet g (people.getD []) d start.instant stop.instant existing t ↔
        Search.Feasible ⟨g, people.getD [], d, first, last, existing⟩ t := by
      rw [hfirst, hlast, ← Moment.instant_utc first, ← Moment.instant_utc last, Search.Feasible]
    simp only [NothingToFind, hcan, hne, false_or]
    rcases Search.run_earliest hg hd h with ⟨hwindow, hroom, hearliest⟩ | ⟨hshort, hslot⟩
    · cases hslot : out.slot with
      | none =>
        rw [hslot] at hearliest
        exact ⟨⟨fun _ => .inr (.inr (.inr hearliest)), fun _ => rfl⟩, by rintro t ⟨⟩⟩
      | some t =>
        rw [hslot] at hearliest
        obtain ⟨hfeasible, hleast⟩ := hearliest
        rw [hfirst, hlast]
        refine ⟨⟨by rintro ⟨⟩, fun hno => ?_⟩, ?_⟩
        · rcases hno with hno | hno | hno | hno
          · omega
          · exact absurd hwindow (Int.not_lt.mpr hno)
          · exact absurd hroom (Int.not_lt.mpr hno)
          · exact absurd hfeasible (hno t)
        · rintro t ⟨⟩
          rw [← hfirst, ← hlast]
          refine ⟨d, rfl, (hcan t).mpr hfeasible, fun u hu => ?_⟩
          rw [Moment.instant_utc, Moment.instant_utc]
          exact hleast u ((hcan u).mp hu)
    · refine ⟨⟨fun _ => .inr ?_, fun _ => hslot⟩, fun t ht => by rw [hslot] at ht; cases ht⟩
      rw [hfirst, hlast]
      rcases hshort with hshort | hshort
      · exact .inl hshort
      · exact .inr (.inl hshort)

/-- **The search is exact.**  On a regular grid it gives no slot exactly when
there is nothing to find, and a slot that it gives is the earliest at which the
meeting can be held.  It fails only by leaving the calendar, or on an offset of
a day or more. -/
theorem findSlot_exact {g : Grid} (hg : g.Regular) (people : Option (List PersonRef))
    (duration : Option Int) (start stop : Zoned) (existing : List (Option Commitment)) :
    (∀ out, findSlot g people duration start stop existing = .ok out →
      (out.slot = none ↔ NothingToFind g people duration start.instant stop.instant existing) ∧
      ∀ t, out.slot = some t →
        EarliestMeeting g people duration start.instant stop.instant existing t) ∧
    ∀ f, findSlot g people duration start stop existing = .error f →
      f.Overflow ∨ f = .offsetTooLarge ∧
        (86400 ≤ start.offset.natAbs ∨ 86400 ≤ stop.offset.natAbs) :=
  ⟨fun _ => findSlot_earliest hg, fun _ => findSlot_overflow hg⟩

/-- Ada is taken from nine to ten; in a window from eight to twelve, half an
hour at ten is the earliest. -/
theorem findSlot_exact_saturday :
    Grid.standard.Regular ∧
      findSlot Grid.standard (some [.number 1]) (some 30) (Moment.saturday 480).zoned
        (Moment.saturday 720).zoned
        [some ⟨[.number 1], (Moment.saturday 540).instant, (Moment.saturday 600).instant⟩, none] =
        .ok (.found 5 (Moment.saturday 600) (Moment.saturday 630)) ∧
      EarliestMeeting Grid.standard (some [.number 1]) (some 30)
        (Moment.saturday 480).zoned.instant (Moment.saturday 720).zoned.instant
        [some ⟨[.number 1], (Moment.saturday 540).instant, (Moment.saturday 600).instant⟩, none]
        (Moment.saturday 600) := by
  have hfound : findSlot Grid.standard (some [.number 1]) (some 30) (Moment.saturday 480).zoned
      (Moment.saturday 720).zoned
      [some ⟨[.number 1], (Moment.saturday 540).instant, (Moment.saturday 600).instant⟩, none] =
      .ok (.found 5 (Moment.saturday 600) (Moment.saturday 630)) := by cbv
  exact ⟨Grid.standard_regular, hfound,
    ((findSlot_exact Grid.standard_regular _ _ _ _ _).1 _ hfound).2 _ rfl⟩

end Meetings
