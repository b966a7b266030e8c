/-
Commitments outside the window do not matter.

* `SameWithin` — two lists hold the same commitments of some people, as far as
  these meet an interval of time;
* `seek_congr` — the walk gives the same answer on both, from any start within
  the window on;
* **`findSlot_congr`** — so does the search as it is asked, for any hours and
  any positive spacing, with the same number of starts looked at and the same
  fault if it fails.

Design notes: every slot that the walk offers lies between the ends of the
window, since rounding and stepping only move forward.  So what meets a slot
meets the window, and the two walks take the same branch at each start.
-/
import Meetings.Proofs.Commitment
import Meetings.Proofs.Slot.Grid
import Meetings.Slot.Search

namespace Meetings

/-- The lists hold the same commitments of some people, as far as these meet an
interval of time. -/
def SameWithin (people : List PersonRef) (start stop : Instant)
    (l l' : List (Option Commitment)) : Prop :=
  ∀ c, sharesPerson people c.people = true → overlaps c.start c.stop start stop = true →
    (some c ∈ l ↔ some c ∈ l')

variable {people : List PersonRef} {start stop : Instant} {l l' : List (Option Commitment)}

theorem SameWithin.symm (h : SameWithin people start stop l l') :
    SameWithin people start stop l' l :=
  fun c hs ho => (h c hs ho).symm

/-- A slot within the interval is free of both lists or of neither. -/
theorem conflictsWithAny_congr {slot : Commitment}
    (h : SameWithin slot.people start stop l l') (hstart : start ≤ slot.start)
    (hstop : slot.stop ≤ stop) : conflictsWithAny slot l = conflictsWithAny slot l' := by
  -- One direction will do, as `SameWithin` has none.
  have one {l l' : List (Option Commitment)} (h : SameWithin slot.people start stop l l') :
      conflictsWithAny slot l = true → conflictsWithAny slot l' = true := by
    rw [conflictsWithAny_eq_true_iff, conflictsWithAny_eq_true_iff]
    rintro ⟨c, hc, hconf⟩
    obtain ⟨⟨hlt, hlt'⟩, hs⟩ := Commitment.conflicts_iff.mp hconf
    have ho : overlaps c.start c.stop start stop = true :=
      overlaps_iff.mpr ⟨Int.lt_of_lt_of_le hlt' hstop, Int.lt_of_le_of_lt hstart hlt⟩
    exact ⟨c, (h c hs ho).mp hc, hconf⟩
  rw [Bool.eq_iff_iff]
  exact ⟨one h, one h.symm⟩

namespace Search

variable {s : Search}

/-- The search for the same slot among other commitments. -/
abbrev among (s : Search) (l : List (Option Commitment)) : Search := { s with existing := l }

theorem accepts_congr {t e : Utc}
    (h : SameWithin s.people s.windowStart.wall s.windowStop.wall l l')
    (ht : s.windowStart.wall ≤ t.wall) (he : e.wall ≤ s.windowStop.wall) :
    (s.among l).accepts t e = (s.among l').accepts t e := by
  have hslot : conflictsWithAny (s.commitment t e) l = conflictsWithAny (s.commitment t e) l' :=
    conflictsWithAny_congr h (by simpa [commitment] using ht) (by simpa [commitment] using he)
  unfold accepts
  rw [show conflictsWithAny ((s.among l).commitment t e) (s.among l).existing =
    conflictsWithAny ((s.among l').commitment t e) (s.among l').existing from hslot]

/-- From a start within the window on, the walk gives the same answer. -/
theorem seek_congr (hq : 0 < s.grid.quantum)
    (h : SameWithin s.people s.windowStart.wall s.windowStop.wall l l') {checked : Nat} {t : Utc}
    (ht : s.windowStart.wall ≤ t.wall) :
    (s.among l).seek checked t = (s.among l').seek checked t := by
  fun_induction (s.among l).seek checked t with
  | case1 checked t f hstop =>
    rw [Search.seek]
    simp only [hstop]
  | case2 checked t e hstop hlate =>
    rw [Search.seek]
    simp only [hstop, if_pos hlate]
  | case3 checked t e hstop hfit f hacc =>
    rw [accepts_congr h ht (Int.not_lt.mp hfit)] at hacc
    rw [Search.seek]
    simp only [hstop, if_neg hfit, hacc]
  | case4 checked t e hstop hfit hacc =>
    rw [accepts_congr h ht (Int.not_lt.mp hfit)] at hacc
    rw [Search.seek]
    simp only [hstop, if_neg hfit, hacc]
  | case5 checked t e hstop hfit hacc f hnext =>
    rw [accepts_congr h ht (Int.not_lt.mp hfit)] at hacc
    rw [Search.seek]
    simp only [hstop, if_neg hfit, hacc, hnext]
  | case6 checked t e hstop hfit hacc after hnext hadv hroom ih =>
    rw [accepts_congr h ht (Int.not_lt.mp hfit)] at hacc
    have hlt := Grid.add_le_next (show s.grid.next t = .ok after from hnext)
    have hafter : s.windowStart.wall ≤ after.wall := by
      unfold minuteSpan at hlt
      omega
    have hadv' : (s.among l').advances t after = true := hadv
    rw [ih hafter]
    -- Only the walk on the right is at `t`; the other is at the next start already.
    conv => rhs; rw [Search.seek]
    simp only [hstop, if_neg hfit, hacc, hnext, dif_pos hadv']
  | case7 checked t e hstop hfit hacc after hnext hadv =>
    rw [accepts_congr h ht (Int.not_lt.mp hfit)] at hacc
    have hadv' : ¬(s.among l').advances t after = true := hadv
    rw [Search.seek]
    simp only [hstop, if_neg hfit, hacc, hnext, dif_neg hadv']

theorem run_congr (hq : 0 < s.grid.quantum)
    (h : SameWithin s.people s.windowStart.wall s.windowStop.wall l l') :
    (s.among l).run = (s.among l').run := by
  unfold run
  split
  · rfl
  · refine congrArg _ (funext fun fit => ?_)
    split
    · rfl
    · cases hfirst : s.grid.first s.windowStart with
      | error f => rfl
      | ok t => exact seek_congr hq h (Grid.le_first hq hfirst)

end Search

/-- **Commitments outside the window do not matter**: on two lists that are the
same within the window, the search gives the same answer or the same fault. -/
theorem findSlot_congr {g : Grid} (hq : 0 < g.quantum) {people : Option (List PersonRef)}
    {duration : Option Int} {start stop : Zoned}
    (h : SameWithin (people.getD []) start.instant stop.instant l l') :
    findSlot g people duration start stop l = findSlot g people duration start stop l' := by
  unfold findSlot
  cases hpeople : people.getD [] with
  | nil => rfl
  | cons p ps =>
    cases duration with
    | none => rfl
    | some d =>
      dsimp only
      split
      · rfl
      · cases hstart : start.toUtc with
        | error f => rfl
        | ok first =>
          cases hstop : stop.toUtc with
          | error f => rfl
          | ok last =>
            have hfirst : first.wall = start.instant := Moment.toUtc_wall hstart
            have hlast : last.wall = stop.instant := Moment.toUtc_wall hstop
            rw [hpeople, ← hfirst, ← hlast] at h
            exact Search.run_congr (s := ⟨g, p :: ps, d, first, last, []⟩) hq h

end Meetings
