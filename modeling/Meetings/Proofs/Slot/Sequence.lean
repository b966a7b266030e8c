/-
The sequence of starts has no gaps.

* `Grid.openAligned_iff_timeOfDay` — a start is an aligned moment whose time of day
  lies between the opening and the closing;
* `Grid.first_yieldsEarliest`, `Grid.next_yieldsEarliest` — the first start from a
  moment on is the earliest one, and so is the next one after a start;
* `Grid.ListsStarts` — a list holds all the starts from one moment to another and
  nothing else, in their order; `ListsStarts.cons` is the step from a start to the
  next, and `listsStarts_of_following` the sequence of steps;
* `Grid.exists_following` — every later start is reached;
* **`starts_without_gaps`** — all of it for the sequence that begins at any moment.

Design notes: that the starts before the last entry are all there is carried by the
list itself (`mem_iff`), which a step extends at its front since nothing lies between
a start and the next.  That a given start is reached is an induction along the steps,
which end because the calendar does.
-/
import Meetings.Proofs.Slot.Grid

namespace Meetings

variable {offset : Int}

/-- A step gives the earliest moment with a property if there is room for it and if
the calendar has such a moment, and fails otherwise by leaving the calendar. -/
structure Moment.YieldsEarliest (room : Prop) (P : Moment offset → Prop)
    (step : Except TimeFault (Moment offset)) : Prop where
  earliest : ∀ a, step = .ok a → Moment.IsEarliest P a
  exists_iff : (∃ a, step = .ok a) ↔ room ∧ ∃ t, P t
  overflow : ∀ f, step = .error f → f.Overflow

namespace Grid

variable {g : Grid} {m a c t after last : Moment offset} {count : Nat}
  {starts rest : List (Moment offset)}

theorem openAligned_iff_timeOfDay : g.OpenAligned t ↔ t.Aligned g.quantum ∧
    g.hours.opens.span ≤ t.sinceMidnight ∧ t.sinceMidnight < g.hours.closes.span := by
  have htime : g.hours.isOpenAt t = true ↔
      g.hours.opens.span ≤ t.sinceMidnight ∧ t.sinceMidnight < g.hours.closes.span := by
    rw [Hours.isOpenAt_iff]
    unfold Moment.sinceMidnight daySpan
    omega
  unfold OpenAligned Moment.Aligned
  rw [htime]
  simp only [and_assoc]

/-- On a regular grid what holds of the readings of the starts holds of the starts. -/
theorem yieldsEarliest_of_wall {room : Prop} {R : Int → Prop} {P : Moment offset → Prop}
    {step : Except TimeFault (Moment offset)} (hg : g.Regular)
    (hP : ∀ t, P t ↔ g.OpenAligned t ∧ R t.wall)
    (hleast : ∀ a, step = .ok a →
      g.OpenOn a.wall ∧ R a.wall ∧ ∀ w, g.OpenOn w → R w → a.wall ≤ w)
    (hexists : (∃ a, step = .ok a) ↔ room ∧ ∃ t : Moment offset, g.OpenOn t.wall ∧ R t.wall)
    (hover : ∀ f, step = .error f → f.Overflow) : Moment.YieldsEarliest room P step := by
  have hP (t : Moment offset) : P t ↔ g.OpenOn t.wall ∧ R t.wall := by
    rw [hP, openAligned_iff hg.dvd_hour]
  refine ⟨fun a h => ?_, ?_, hover⟩
  · obtain ⟨hopen, hR, hleast⟩ := hleast a h
    refine ⟨(hP a).mpr ⟨hopen, hR⟩, fun t ht => Moment.instant_le_iff.mpr ?_⟩
    exact hleast t.wall ((hP t).mp ht).1 ((hP t).mp ht).2
  · simp only [hP]
    exact hexists

theorem first_yieldsEarliest (hg : g.Regular) (m : Moment offset) :
    Moment.YieldsEarliest (m.Aligned g.quantum ∨ m.HasRoom g.quantum)
      (fun t => g.OpenAligned t ∧ m.instant ≤ t.instant) (g.first m) :=
  yieldsEarliest_of_wall (R := fun w => m.wall ≤ w) hg
    (fun _ => and_congr_right fun _ => Moment.instant_le_iff) (fun _ => first_isLeast hg)
    (exists_first_iff hg) (fun _ => first_overflow hg.positive)

theorem next_yieldsEarliest (hg : g.Regular) (hc : g.OpenAligned c) :
    Moment.YieldsEarliest (c.HasRoom g.quantum)
      (fun t => g.OpenAligned t ∧ c.instant < t.instant) (g.next c) :=
  have hc := (openAligned_iff hg.dvd_hour).mp hc
  yieldsEarliest_of_wall (R := fun w => c.wall < w) hg
    (fun _ => and_congr_right fun _ => Moment.instant_lt_iff) (fun _ => next_isLeast hg hc)
    (exists_next_iff hg hc) (fun _ => next_overflow)

/-! ### The sequence -/

/-- A list holds the starts from one moment to another, in their order, and the last
of them is its last entry. -/
structure ListsStarts (g : Grid) (m last : Moment offset) (starts : List (Moment offset)) :
    Prop where
  ends : starts.getLast? = some last
  increasing : starts.Pairwise fun s t => s.instant < t.instant
  mem_iff : ∀ t, t ∈ starts ↔
    g.OpenAligned t ∧ m.instant ≤ t.instant ∧ t.instant ≤ last.instant

theorem ListsStarts.last_ge (h : g.ListsStarts m last starts) : m.instant ≤ last.instant :=
  ((h.mem_iff last).mp (List.mem_of_getLast? h.ends)).2.1

theorem listsStarts_single (hm : g.OpenAligned m) : g.ListsStarts m m [m] := by
  refine ⟨rfl, List.pairwise_singleton _ _, fun t => ?_⟩
  rw [List.mem_singleton]
  constructor
  · rintro rfl
    exact ⟨hm, Int.le_refl _, Int.le_refl _⟩
  · rintro ⟨-, hle, hge⟩
    rw [Moment.instant_le_iff] at hle hge
    exact Moment.eq_of_wall (Int.le_antisymm hge hle)

/-- **The step of the sequence**: nothing lies between a start and the next. -/
theorem ListsStarts.cons (hm : g.OpenAligned m)
    (hnext : Moment.IsEarliest (fun t => g.OpenAligned t ∧ m.instant < t.instant) after)
    (h : g.ListsStarts after last rest) : g.ListsStarts m last (m :: rest) := by
  obtain ⟨⟨hopen, hlt⟩, hleast⟩ := hnext
  refine ⟨?_, List.pairwise_cons.mpr ⟨fun t ht => ?_, h.increasing⟩, fun t => ?_⟩
  · rw [List.getLast?_cons, h.ends]
    rfl
  · exact Int.lt_of_lt_of_le hlt ((h.mem_iff t).mp ht).2.1
  · rw [List.mem_cons, h.mem_iff]
    constructor
    · rintro (rfl | ⟨ht, hle, hend⟩)
      · exact ⟨hm, Int.le_refl _, Int.le_trans (Int.le_of_lt hlt) h.last_ge⟩
      · exact ⟨ht, Int.le_trans (Int.le_of_lt hlt) hle, hend⟩
    · rintro ⟨ht, hle, hend⟩
      rcases Int.lt_or_eq_of_le (Moment.instant_le_iff.mp hle) with hlater | hsame
      · exact .inr ⟨ht, hleast t ⟨ht, Moment.instant_lt_iff.mpr hlater⟩, hend⟩
      · exact .inl (Moment.eq_of_wall hsame.symm)

/-- The starts from a moment on are those from the first of them on. -/
theorem ListsStarts.of_first
    (hfirst : Moment.IsEarliest (fun t => g.OpenAligned t ∧ m.instant ≤ t.instant) a)
    (h : g.ListsStarts a last starts) : g.ListsStarts m last starts := by
  obtain ⟨⟨-, hle⟩, hleast⟩ := hfirst
  refine ⟨h.ends, h.increasing, fun t => (h.mem_iff t).trans ?_⟩
  constructor
  · rintro ⟨ht, hat, hend⟩
    exact ⟨ht, Int.le_trans hle hat, hend⟩
  · rintro ⟨ht, hmt, hend⟩
    exact ⟨ht, hleast t ⟨ht, hmt⟩, hend⟩

theorem following_succ_eq_ok_iff : g.following (count + 1) m = .ok starts ↔
    ∃ after rest, g.next m = .ok after ∧ g.following count after = .ok rest ∧
      starts = m :: rest := by
  rw [following]
  constructor
  · intro h
    obtain ⟨after, hafter, h⟩ := bind_eq_ok.mp h
    obtain ⟨rest, hrest, h⟩ := bind_eq_ok.mp h
    cases h
    exact ⟨after, rest, hafter, hrest, rfl⟩
  · rintro ⟨after, rest, hafter, hrest, rfl⟩
    rw [hafter, ok_bind, hrest, ok_bind]
    rfl

/-- From a start on, the steps list every start that they pass. -/
theorem listsStarts_of_following (hg : g.Regular) (hm : g.OpenAligned m)
    (h : g.following count m = .ok starts) :
    starts.length = count + 1 ∧ ∃ last, g.ListsStarts m last starts := by
  induction count generalizing m starts with
  | zero =>
    cases h
    exact ⟨rfl, m, listsStarts_single hm⟩
  | succ count ih =>
    obtain ⟨after, rest, hafter, hrest, rfl⟩ := following_succ_eq_ok_iff.mp h
    have hnext := (next_yieldsEarliest hg hm).earliest after hafter
    obtain ⟨hlength, last, hlists⟩ := ih hnext.1.1 hrest
    exact ⟨congrArg (· + 1) hlength, last, hlists.cons hm hnext⟩

theorem following_overflow {f : TimeFault} (h : g.following count m = .error f) : f.Overflow := by
  induction count generalizing m with
  | zero => cases h
  | succ count ih =>
    rcases bind_eq_error.mp h with h | ⟨after, -, h⟩
    · exact next_overflow h
    · rcases bind_eq_error.mp h with h | ⟨rest, -, h⟩
      · exact ih h
      · cases h

/-- **Every later start is reached**, as long as it has its like in UTC. -/
theorem exists_following (hg : g.Regular) (hm : g.OpenAligned m) (hmin : m.InUtc)
    (ht : g.OpenAligned t) (htin : t.InUtc) (hle : m.wall ≤ t.wall) :
    ∃ count starts, g.following count m = .ok starts ∧ starts.getLast? = some t := by
  induction m using (next_wellFounded hg.positive).induction with
  | _ m ih =>
    rcases Int.lt_or_eq_of_le hle with hlt | hsame
    · have hopen := (openAligned_iff hg.dvd_hour).mp hm
      have hopen' := (openAligned_iff hg.dvd_hour).mp ht
      obtain ⟨after, hafter⟩ := exists_next_inUtc hg hopen hmin hopen' htin hlt
      obtain ⟨haopen, hmlt, hleast⟩ := next_isLeast hg hopen hafter
      have hat := hleast t.wall hopen' hlt
      obtain ⟨count, rest, hrest, hlast⟩ := ih after hafter
        ((openAligned_iff hg.dvd_hour).mpr haopen) (hmin.between htin (Int.le_of_lt hmlt) hat) hat
      refine ⟨count + 1, m :: rest, ?_, ?_⟩
      · exact following_succ_eq_ok_iff.mpr ⟨after, rest, hafter, hrest, rfl⟩
      · rw [List.getLast?_cons, hlast]
        rfl
    · exact ⟨0, [m], rfl, congrArg some (Moment.eq_of_wall hsame)⟩

end Grid

/-- **The sequence of starts has no gaps.**  On a regular grid the starts are the
aligned moments whose time of day lies within the hours.  From any moment on, on any
clock, the first of the sequence is the earliest start that is not before the moment,
and the one after a start is the earliest start after it; so many entries are in
increasing order and are all the starts from the moment to the last entry.  Every
start that has its like in UTC is reached from a moment that comes no earlier than
some aligned one that has.  Nothing but the calendar ends the sequence: either the
step by the spacing has no room in it, or no start is left in it. -/
theorem starts_without_gaps {g : Grid} (hg : g.Regular) {offset : Int} (m : Moment offset) :
    (∀ t : Moment offset, g.OpenAligned t ↔ t.Aligned g.quantum ∧
      g.hours.opens.span ≤ t.sinceMidnight ∧ t.sinceMidnight < g.hours.closes.span) ∧
    Moment.YieldsEarliest (m.Aligned g.quantum ∨ m.HasRoom g.quantum)
      (fun t => g.OpenAligned t ∧ m.instant ≤ t.instant) (g.first m) ∧
    (∀ c : Moment offset, g.OpenAligned c → Moment.YieldsEarliest (c.HasRoom g.quantum)
      (fun t => g.OpenAligned t ∧ c.instant < t.instant) (g.next c)) ∧
    (∀ count starts, (g.first m >>= g.following count) = .ok starts →
      starts.length = count + 1 ∧ ∃ last, g.ListsStarts m last starts) ∧
    (∀ count f, (g.first m >>= g.following count) = .error f → f.Overflow) ∧
    ∀ t : Moment offset, g.OpenAligned t → m.instant ≤ t.instant → t.InUtc →
      (∃ before : Moment offset, before.Aligned g.quantum ∧ before.InUtc ∧
        before.instant ≤ m.instant) →
      ∃ count starts, (g.first m >>= g.following count) = .ok starts ∧
        starts.getLast? = some t := by
  have hfirst := Grid.first_yieldsEarliest hg m
  refine ⟨fun t => Grid.openAligned_iff_timeOfDay, hfirst,
    fun c => Grid.next_yieldsEarliest hg, fun count starts h => ?_, fun count f h => ?_, ?_⟩
  · obtain ⟨a, ha, h⟩ := bind_eq_ok.mp h
    have hearliest := hfirst.earliest a ha
    obtain ⟨hlength, last, hlists⟩ := Grid.listsStarts_of_following hg hearliest.1.1 h
    exact ⟨hlength, last, hlists.of_first hearliest⟩
  · rcases bind_eq_error.mp h with h | ⟨a, -, h⟩
    · exact hfirst.overflow f h
    · exact Grid.following_overflow h
  · rintro t ht hle htin ⟨before, hb, hbin, hbm⟩
    rw [Moment.instant_le_iff] at hle hbm
    obtain ⟨a, ha⟩ := Grid.exists_first_inUtc hg hb hbin hbm
      ((Grid.openAligned_iff hg.dvd_hour).mp ht) htin hle
    obtain ⟨⟨hopen, hma⟩, hleast⟩ := hfirst.earliest a ha
    have hat := hleast t ⟨ht, Moment.instant_le_iff.mpr hle⟩
    rw [Moment.instant_le_iff] at hma hat
    have hain : a.InUtc := hbin.between htin (Int.le_trans hbm hma) hat
    obtain ⟨count, starts, hstarts, hlast⟩ := Grid.exists_following hg hopen hain ht htin hat
    exact ⟨count, starts, bind_eq_ok.mpr ⟨a, ha, hstarts⟩, hlast⟩

/-- From twenty to five on a Saturday, on a clock that is 345 minutes ahead: a quarter
to five, and then nine o'clock and a quarter past on Sunday. -/
theorem starts_without_gaps_saturday :
    Grid.standard.Regular ∧
      ∃ nine quarter : Moment (Moment.saturdayAhead 345 1000).offset,
        nine.date = ⟨2024, 6, 16⟩ ∧ nine.hour = 9 ∧ nine.minute = 0 ∧
        quarter.instant = nine.instant + 15 * minuteSpan ∧
        (Grid.standard.first (Moment.saturdayAhead 345 1000).moment >>=
          Grid.standard.following 2) =
            .ok [(Moment.saturdayAhead 345 1005).moment, nine, quarter] ∧
        Grid.standard.ListsStarts (Moment.saturdayAhead 345 1000).moment quarter
          [(Moment.saturdayAhead 345 1005).moment, nine, quarter] := by
  have hrun : (Grid.standard.first (Moment.saturdayAhead 345 1000).moment >>=
      Grid.standard.following 2) = .ok [(Moment.saturdayAhead 345 1005).moment,
        ⟨739052 * daySpan + 540 * minuteSpan, by decide, by decide⟩,
        ⟨739052 * daySpan + 555 * minuteSpan, by decide, by decide⟩] := rfl
  obtain ⟨-, last, hlists⟩ :=
    (starts_without_gaps Grid.standard_regular _).2.2.2.1 2 _ hrun
  cases hlists.ends
  exact ⟨Grid.standard_regular, _, _, by decide, by decide, by decide, by decide, hrun, hlists⟩

end Meetings
