/-
The rules of a booking said with points of time.

* `WithinWorkday` — an interval lies between nine and five of the day in UTC on
  which it starts;
* `withinHours_iff_workday`, `contains_standard` — the test of the standard
  hours says just that, and always has an answer;
* `ofUtc_kind` — of several rules that are broken, the first is reported;
* **`make_exact`** — a booking is made iff it obeys all rules, and is otherwise
  refused for the first one that it breaks.

Design notes: the ends of a booking may be given at different offsets, so the
day is one of the points of time, and no calendar of an offset occurs.
-/
import Meetings.Booking
import Meetings.Proofs.Commitment
import Meetings.Proofs.Hours

namespace Meetings

namespace Booking

/-- An interval starts at nine or later on its day in UTC, and stops at five of
that same day or earlier. -/
def WithinWorkday (start stop : Instant) : Prop :=
  9 * hourSpan ≤ start % daySpan ∧ stop ≤ start / daySpan * daySpan + 17 * hourSpan

instance (start stop : Instant) : Decidable (WithinWorkday start stop) := by
  unfold WithinWorkday; infer_instance

/-- An interval that is not empty and lies within the hours of a day stops on
the day on which it starts. -/
theorem WithinWorkday.sameDay {start stop : Int} (h : WithinWorkday start stop)
    (hlt : start < stop) : stop / daySpan = start / daySpan := by
  have hopen : 9 * hourSpan ≤ start % daySpan := h.1
  have hclose : stop ≤ start / daySpan * daySpan + 17 * hourSpan := h.2
  unfold daySpan hourSpan at *
  omega

/-- The day on which an interval starts is the only one within whose hours it can
lie. -/
theorem withinWorkday_iff_exists_day {start stop : Int} (h : start < stop) :
    WithinWorkday start stop ↔ ∃ day : Int,
      day * daySpan + 9 * hourSpan ≤ start ∧ stop ≤ day * daySpan + 17 * hourSpan := by
  unfold WithinWorkday
  constructor
  · rintro ⟨hopen, hclose⟩
    refine ⟨start / daySpan, ?_, hclose⟩
    have hopen : 9 * hourSpan ≤ start % daySpan := hopen
    unfold daySpan at hopen ⊢
    omega
  · rintro ⟨day, hopen, hclose⟩
    have hday : start / daySpan = day := by
      unfold daySpan hourSpan at *
      omega
    refine ⟨?_, hday ▸ hclose⟩
    show 9 * hourSpan ≤ start % daySpan
    unfold daySpan at hopen hday ⊢
    omega

theorem withinHours_iff_workday {start stop : Utc} :
    withinHours start stop = true ↔ WithinWorkday start.instant stop.instant := by
  have hopens : Hours.standard.opens.span = 9 * hourSpan := by decide
  have hcloses : Hours.standard.closes.span = 17 * hourSpan := by decide
  rw [withinHours, Hours.spans_iff, hopens, hcloses, WithinWorkday, Moment.instant_utc,
    Moment.instant_utc]
  refine and_congr ?_ Iff.rfl
  unfold daySpan
  omega

/-- The standard hours are a range on every day, so that testing an interval
against them has an answer. -/
theorem contains_standard (start stop : Utc) :
    Hours.standard.contains start stop.zoned =
      .ok (decide (WithinWorkday start.instant stop.instant)) := by
  rw [Hours.contains_eq (by decide)]
  refine congrArg _ (Bool.eq_iff_iff.mpr ?_)
  rw [decide_eq_true_iff]
  exact withinHours_iff_workday

variable {id : Option Int} {people : List PersonRef} {start stop : Utc} {fault : BookingFault}

theorem timesFault_eq (start stop : Utc) :
    timesFault start stop = if stop.instant ≤ start.instant then some .startsTooLate
      else if ¬WithinWorkday start.instant stop.instant then some .outsideHours
      else none := by
  unfold timesFault
  by_cases hhours : WithinWorkday start.instant stop.instant
  · simp only [hhours, withinHours_iff_workday.mpr hhours, not_true_eq_false, if_true, if_false]
  · simp only [hhours, mt withinHours_iff_workday.mp hhours, not_false_eq_true, if_true,
      Bool.false_eq_true, if_false]

theorem peopleFault_kind (h : peopleFault people = some fault) : fault.kind = .participants := by
  unfold peopleFault at h
  split at h
  · cases h
    rfl
  · split at h
    · cases h
      rfl
    · cases h

/-- The kind of the first rule that is broken: the order of the ends, then the
hours, then the people. -/
theorem ofUtc_kind (h : ofUtc id people start stop = .error fault) :
    fault.kind = if stop.instant ≤ start.instant then .timeRange
      else if ¬WithinWorkday start.instant stop.instant then .outsideHours
      else .participants := by
  rw [ofUtc, timesFault_eq] at h
  by_cases horder : stop.instant ≤ start.instant
  · rw [if_pos horder] at h ⊢
    cases h
    rfl
  · by_cases hhours : ¬WithinWorkday start.instant stop.instant
    · rw [if_neg horder, if_pos hhours] at h ⊢
      cases h
      rfl
    · rw [if_neg horder, if_neg hhours] at h ⊢
      cases hpeople : peopleFault people with
      | none =>
        rw [hpeople] at h
        cases h
      | some broken =>
        rw [hpeople] at h
        cases h
        exact peopleFault_kind hpeople

/-- A meeting of people who are named by numbers obeys the rules of a booking: it
starts before it ends, it lies within the hours of a day, and somebody takes
part, nobody twice. -/
def Lawful (ids : List Int) (start stop : Instant) : Prop :=
  start < stop ∧ WithinWorkday start stop ∧ ids ≠ [] ∧ ids.Nodup

theorem ofUtc_eq_ok_iff_lawful {ids : List Int} {b : Booking} :
    ofUtc id (ids.map .number) start stop = .ok b ↔
      Lawful ids start.instant stop.instant ∧ b = ⟨id, ids.map .number, start, stop⟩ := by
  rw [ofUtc_eq_ok_iff, and_comm]
  refine and_congr_left fun hb => ?_
  subst hb
  unfold Valid Lawful
  dsimp only
  rw [withinHours_iff_workday, hasRepeat_numbers_eq_false_iff, ne_eq, List.map_eq_nil_iff]

/-- Between two readings that have their like in UTC, a booking is made from
these. -/
theorem make_of_utc {start stop : Zoned} {first last : Utc} (hstart : start.toUtc = .ok first)
    (hstop : stop.toUtc = .ok last) (id : Option Int) (people : Option (List PersonRef)) :
    make id people start stop = (ofUtc id (people.getD []) first last).mapError .booking := by
  unfold make
  rw [hstart, hstop]
  rfl

/-- **A booking is made exactly if it obeys the rules.**  Let the two ends, each
at an offset of its own, have their like in UTC.  Then a booking is made iff its
start comes before its end, both lie between nine and five of the day in UTC on
which it starts, and somebody takes part, nobody twice; and it holds the people
in the order given and the same points of time in UTC, on one day.  Otherwise it
is refused, and the kind of the refusal is that of the first rule broken: the
order of the ends, then the hours, then the people.  The test of the hours
always has an answer. -/
theorem make_exact {start stop : Zoned} {first last : Utc} (hstart : start.toUtc = .ok first)
    (hstop : stop.toUtc = .ok last) (id : Option Int) (ids : Option (List Int)) :
    (first.instant = start.instant ∧ last.instant = stop.instant) ∧
    Hours.standard.contains first last.zoned =
      .ok (decide (WithinWorkday start.instant stop.instant)) ∧
    (∀ b, make id (ids.map (·.map .number)) start stop = .ok b ↔
      Lawful (ids.getD []) start.instant stop.instant ∧
        b = ⟨id, (ids.getD []).map .number, first, last⟩) ∧
    (Lawful (ids.getD []) start.instant stop.instant → last.dayNumber = first.dayNumber) ∧
    (¬Lawful (ids.getD []) start.instant stop.instant →
      ∃ fault, make id (ids.map (·.map .number)) start stop = .error (.booking fault) ∧
        fault.kind = if stop.instant ≤ start.instant then .timeRange
          else if ¬WithinWorkday start.instant stop.instant then .outsideHours
          else .participants) := by
  have hids : (ids.map (·.map PersonRef.number)).getD [] = (ids.getD []).map .number := by
    cases ids <;> rfl
  rw [make_of_utc hstart hstop, hids, ← Zoned.toUtc_instant hstart, ← Zoned.toUtc_instant hstop]
  refine ⟨⟨rfl, rfl⟩, contains_standard first last, fun b => ?_, fun hlawful => ?_,
    fun hbroken => ?_⟩
  · rw [mapError_eq_ok, ofUtc_eq_ok_iff_lawful]
  · have hday := hlawful.2.1.sameDay hlawful.1
    rw [Moment.instant_utc, Moment.instant_utc] at hday
    rw [Moment.dayNumber, Moment.dayNumber, hday]
  · cases hmade : ofUtc id ((ids.getD []).map .number) first last with
    | ok b => exact absurd (ofUtc_eq_ok_iff_lawful.mp hmade).1 hbroken
    | error fault => exact ⟨fault, rfl, ofUtc_kind hmade⟩

/-- From a quarter past eight in the evening, five and a half hours ahead of UTC,
to five in the afternoon, two hours ahead: the quarter of an hour before three. -/
theorem make_exact_twoClocks :
    (Moment.saturdayAhead 330 1215).toUtc = .ok (Moment.saturday 885) ∧
      (Moment.saturdayAhead 120 1020).toUtc = .ok (Moment.saturday 900) ∧
      make none (some [.number 2, .number 1]) (Moment.saturdayAhead 330 1215)
        (Moment.saturdayAhead 120 1020) =
          .ok ⟨none, [.number 2, .number 1], Moment.saturday 885, Moment.saturday 900⟩ := by
  have hstart : (Moment.saturdayAhead 330 1215).toUtc = .ok (Moment.saturday 885) := by rfl
  have hstop : (Moment.saturdayAhead 120 1020).toUtc = .ok (Moment.saturday 900) := by rfl
  refine ⟨hstart, hstop, ((make_exact hstart hstop none (some [2, 1])).2.2.1 _).mpr ⟨?_, rfl⟩⟩
  exact ⟨by decide, by decide, by decide, by decide⟩

end Booking

end Meetings
