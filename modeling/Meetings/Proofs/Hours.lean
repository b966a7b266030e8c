/-
Business hours on wall readings.

* `isOpenAt_iff`, `spans_iff` — a moment or a meeting lies within the hours of
  its day, whose midnight is the reading rounded down to days;
* **`contains_eq`** — hours that open before they close are a range on every
  day, so that the test of a meeting against them always has an answer;
* `contains_fault` — other hours are a range on no day, and the test says so.
-/
import Meetings.Hours
import Meetings.Proofs.Moment

namespace Meetings

namespace Hours

variable {offset : Int} {h : Hours} {m : Moment offset} {start stop : Utc} {f : TimeFault}

theorem isOpenAt_iff : h.isOpenAt m = true ↔
    m.wall / daySpan * daySpan + h.opens.span ≤ m.wall ∧
      m.wall < m.wall / daySpan * daySpan + h.closes.span := by
  unfold isOpenAt
  rw [Bool.and_eq_true, decide_eq_true_iff, decide_eq_true_iff]
  exact Iff.rfl

theorem spans_iff : h.spans start stop.zoned = true ↔
    start.wall / daySpan * daySpan + h.opens.span ≤ start.wall ∧
      stop.wall ≤ start.wall / daySpan * daySpan + h.closes.span := by
  unfold spans
  rw [Bool.and_eq_true, decide_eq_true_iff, decide_eq_true_iff]
  simp only [Zoned.instant, Moment.zoned, Moment.instant_utc, opening, closing, Moment.onDay_wall]

theorem contains_eq (hopens : h.opens.span < h.closes.span) (m : Moment offset) (stop : Zoned) :
    h.contains m stop = .ok (h.spans m stop) := by
  have hlt : (h.opening m).zoned.instant < (h.closing m).zoned.instant := by
    simp only [Zoned.instant, Moment.zoned, Moment.instant, opening, closing, Moment.onDay_wall]
    exact Int.sub_lt_sub_right (Int.add_lt_add_left hopens _) _
  simp only [contains, dayRange, TimeRange.make, dif_pos hlt, ok_bind]
  rfl

theorem contains_fault {stop : Zoned} (hf : h.contains m stop = .error f) :
    h.closes.span ≤ h.opens.span ∧ f = .inverted (h.opening m).zoned (h.closing m).zoned := by
  refine ⟨Int.not_lt.mp fun hopens => ?_, ?_⟩
  · rw [contains_eq hopens] at hf
    cases hf
  · rcases bind_eq_error.mp hf with hf | ⟨range, -, hf⟩
    · unfold dayRange TimeRange.make at hf
      split at hf
      · cases hf
      · cases hf
        rfl
    · cases hf

end Hours

end Meetings
