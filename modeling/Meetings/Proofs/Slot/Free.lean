/-
A slot that is found is free, on any grid.

* `seek_free` — the walk stops at a start that it accepts;
* **`findSlot_free`** — the meeting of a slot that is found ends within the
  calendar and collides with none of the commitments.
-/
import Meetings.Proofs.Slot.Exact

namespace Meetings

namespace Search

variable {s : Search} {start t : Utc} {checked : Nat} {out : Outcome}

/-- The meeting at a moment ends within the calendar, and nothing meets it. -/
def Free (s : Search) (t : Utc) : Prop :=
  ∃ stop, t.plusMinutes s.duration = .ok stop ∧
    conflictsWithAny (s.commitment t stop) s.existing = false

theorem accepts_free {stop : Utc} (h : s.accepts start stop = .ok true) :
    conflictsWithAny (s.commitment start stop) s.existing = false := by
  obtain ⟨within, -, h⟩ := bind_eq_ok.mp h
  split at h
  · simpa using Except.ok.inj h
  · cases h

/-- The walk stops at a start that it accepts. -/
theorem seek_free (h : s.seek checked start = .ok out) (ht : out.slot = some t) : s.Free t := by
  fun_induction s.seek checked start with
  | case1 checked start f hstop => cases h
  | case2 checked start stop hstop hlate =>
    cases h
    cases ht
  | case3 checked start stop hstop hfit f hacc => cases h
  | case4 checked start stop hstop hfit hacc =>
    cases h
    cases ht
    exact ⟨stop, hstop, accepts_free hacc⟩
  | case5 checked start stop hstop hfit hacc f hnext => cases h
  | case6 checked start stop hstop hfit hacc after hnext hadv hroom ih => exact ih h
  | case7 checked start stop hstop hfit hacc after hnext hadv => cases h

theorem run_free (h : s.run = .ok out) (ht : out.slot = some t) : s.Free t := by
  unfold run at h
  split at h
  · cases h
    cases ht
  · obtain ⟨fit, -, h⟩ := bind_eq_ok.mp h
    split at h
    · cases h
      cases ht
    · obtain ⟨first, -, h⟩ := bind_eq_ok.mp h
      exact seek_free h ht

end Search

/-- **A slot that is found is free.** -/
theorem findSlot_free {g : Grid} {people : List PersonRef} {d : Int} {start stop : Zoned}
    {existing : List (Option Commitment)} {out : Outcome} {t : Utc}
    (h : findSlot g (some people) (some d) start stop existing = .ok out)
    (ht : out.slot = some t) :
    ∃ e, t.plusMinutes d = .ok e ∧
      conflictsWithAny ⟨people, t.instant, e.instant⟩ existing = false := by
  rcases findSlot_cases g (some people) (some d) start stop existing with
    ⟨out', hout, hnone, -⟩ | ⟨d', hd, -, -, hrun⟩
  · rw [h] at hout
    cases hout
    rw [hnone] at ht
    cases ht
  · cases hd
    rw [hrun] at h
    obtain ⟨first, -, h⟩ := bind_eq_ok.mp h
    obtain ⟨last, -, h⟩ := bind_eq_ok.mp h
    exact Search.run_free h ht

end Meetings
