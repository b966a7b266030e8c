/-
Finding a slot and booking it agree.

* `Asked.found`, `Asked.booked` — what finding and scheduling answer to one
  request, from one office;
* `Store.slot_bookable` — on the standard grid, a slot that is found makes a
  booking that obeys the rules;
* `Store.slot_overflow` — a search in a window of UTC fails only by leaving the
  calendar;
* `Agree` — how the two answers go together;
* **`find_agrees_with_schedule`** — they always do, in memory;
* `unknown_cannot_be_named` — a request that passes and is not answered.

Design notes: the rules of a booking are checked again after the search, by code
of its own.  The search accepts a slot only within the hours and for people and
a duration that passed the checks of the request, so that these rules never
refuse.  Somebody who is not known is named in an answer, unless their number has
too many digits to be written.
-/
import Meetings.Proofs.Office.Growth
import Meetings.Proofs.Office.Session
import Meetings.Proofs.Request.Meeting
import Meetings.Proofs.Store.People
import Meetings.Proofs.Store.Sound

namespace Meetings

open Archive (replaced)

/-! ### Requests -/

/-- The answer to a request for a slot. -/
def Asked.found (set : Settings) (t : Ticks) (o : Office) :
    Asked → Except Fault (Except Failure Utc)
  | raw now data => ((set.pipeline.find t now data).runFrom o).1
  | read now f => ((set.pipeline.findFields t now f).runFrom o).1

/-- The answer to a request for a meeting. -/
def Asked.booked (set : Settings) (t : Ticks) (o : Office) :
    Asked → Except Fault (Except Failure BookingView)
  | raw now data => ((set.pipeline.schedule t now data).runFrom o).1
  | read now f => ((set.pipeline.scheduleFields t now f).runFrom o).1

variable {set : Settings} {o : Office} {s : Store} {limit : Int} {r : MeetingRequest}

theorem Asked.found_eq (set : Settings) (t : Ticks) (o : Office) (asked : Asked) :
    asked.found set t o =
      ((asked.change set.maxParticipants (o.archive.store.finding set)).apply o).1 := by
  have hdoes := does_request set asked (@does_find o set)
  cases asked with
  | raw now data => exact (hdoes.observed set.pipeline "find" t).runFrom.1
  | read now f => exact (hdoes.observed set.pipeline "find" t).runFrom.1

theorem Asked.booked_eq (set : Settings) (t : Ticks) (o : Office) (asked : Asked) :
    asked.booked set t o =
      ((asked.change set.maxParticipants (o.archive.store.scheduling set)).apply o).1 := by
  have hdoes := does_request set asked (@does_schedule o set)
  cases asked with
  | raw now data => exact (hdoes.observed set.pipeline "schedule" t).runFrom.1
  | read now f => exact (hdoes.observed set.pipeline "schedule" t).runFrom.1

/-- A request that passes has people, each once, and a duration that is not too long. -/
theorem Asked.rules_of_parsed {asked : Asked} (h : asked.parsed limit = .ok (.ok r)) :
    r.people ≠ [] ∧ r.people.Nodup ∧ 0 < r.duration ∧ r.duration ≤ longestMeeting := by
  obtain ⟨now, f, hf⟩ : ∃ now f, MeetingRequest.ofFields limit now f = .ok (.ok r) := by
    cases asked with
    | raw now data =>
      obtain ⟨f, hf⟩ := MeetingRequest.ofFields_of_parse h
      exact ⟨now, f, hf⟩
    | read now f => exact ⟨now, f, mapError_eq_ok.mp h⟩
  obtain ⟨hrequest, -⟩ := MeetingRequest.ofFields_eq_ok_iff.mp hf
  obtain ⟨⟨-, hpeople⟩, ⟨-, hduration⟩, -⟩ := MeetingRequest.Fields.request_eq_ok_iff.mp hrequest
  obtain ⟨hsome, -, honce, -⟩ := MeetingRequest.peopleFault_eq_none_iff.mp hpeople
  obtain ⟨hshortest, hlongest, -⟩ := MeetingRequest.durationFault_eq_none_iff.mp hduration
  refine ⟨hsome, honce, ?_, hlongest⟩
  unfold shortestMeeting at hshortest
  omega

/-! ### Slots -/

namespace Store

/-- **A slot that is found makes a booking.**  On the standard grid, and for
people who are named once and a positive duration, the rules of a booking hold. -/
theorem slot_bookable {people : List Int} {d : Int} {start stop : Zoned} {t : Utc}
    (hsome : people ≠ []) (honce : people.Nodup) (hd : 0 < d)
    (h : s.slot Grid.standard people d start stop = .ok (some t)) :
    ∃ e, t.plusMinutes d = .ok e ∧ e.instant = t.instant + d * minuteSpan ∧
      Booking.ofUtc none (people.map .number) t e = .ok ⟨none, people.map .number, t, e⟩ := by
  have hq : 0 < Grid.standard.quantum := by decide
  obtain ⟨e, he, -⟩ := slot_free hq h
  have hlasts : e.instant = t.instant + d * minuteSpan := by
    rw [Moment.instant_utc, Moment.instant_utc]
    exact Moment.plusMinutes_wall he
  refine ⟨e, he, hlasts, Booking.ofUtc_eq_ok_iff.mpr ⟨rfl, ?_, ?_, ?_, ?_⟩⟩
  · show t.instant < e.instant
    rw [hlasts]
    exact Int.lt_add_of_pos_right _ (Int.mul_pos hd (by decide))
  · obtain ⟨out, hout, hslot⟩ := slotAmong_eq_ok.mp (slotAmong_of_slot hq h)
    obtain ⟨d', hd', ⟨-, -, -, -, -, hopens, hcloses, -⟩, -⟩ :=
      (findSlot_earliest Grid.standard_regular hout).2 t hslot
    obtain rfl := Option.some.inj hd'
    rw [← hlasts] at hcloses
    rw [Booking.withinHours, Hours.spans, Bool.and_eq_true, decide_eq_true_iff, decide_eq_true_iff]
    exact ⟨hopens, hcloses⟩
  · simpa using hsome
  · exact hasRepeat_numbers_eq_false_iff.mpr honce

variable {people : List Int} {d : Int} {start stop : Utc} {fault : Fault}

theorem slotAmong_overflow {existing : List (Option Commitment)}
    (h : slotAmong Grid.standard people (some d) start.zoned stop.zoned existing = .error fault) :
    ∃ f : TimeFault, fault = .time f ∧ f.Overflow := by
  unfold slotAmong at h
  cases hfind : findSlot Grid.standard (some (people.map .number)) (some d) start.zoned stop.zoned
      existing with
  | ok out =>
    rw [hfind] at h
    cases h
  | error f =>
    rw [hfind] at h
    cases h
    rcases findSlot_overflow Grid.standard_regular hfind with hover | ⟨-, hoffset | hoffset⟩
    · exact ⟨f, rfl, hover⟩
    -- The offset of UTC is less than a day.
    · exact absurd hoffset (show ¬86400 ≤ (0 : Int).natAbs by decide)
    · exact absurd hoffset (show ¬86400 ≤ (0 : Int).natAbs by decide)

theorem inTheWay_overflow (h : s.inTheWay people start.zoned stop.zoned = .error fault) :
    ∃ f : TimeFault, fault = .time f ∧ f.Overflow := by
  unfold inTheWay at h
  split at h
  · cases h
  · rcases bind_eq_error.mp h with hdays | ⟨days, -, hfound⟩
    · obtain ⟨f, hf, rfl⟩ := mapError_eq_error.mp hdays
      unfold daysTouched at hf
      have hstart : start.zoned.toUtc = .ok start := Moment.toUtc_utc start
      have hstop : stop.zoned.toUtc = .ok stop := Moment.toUtc_utc stop
      rw [hstart, ok_bind, hstop, ok_bind] at hf
      rcases bind_eq_error.mp hf with hlast | ⟨last, -, hlast⟩
      · exact ⟨f, rfl, Moment.ofWall_overflow hlast⟩
      · cases hlast
    · cases hfound

/-- A search in a window of UTC fails only by leaving the calendar. -/
theorem slot_overflow
    (h : s.slot Grid.standard people d start.zoned stop.zoned = .error fault) :
    ∃ f : TimeFault, fault = .time f ∧ f.Overflow := by
  rcases bind_eq_error.mp h with hway | ⟨existing, -, hsearch⟩
  · exact inTheWay_overflow hway
  · exact slotAmong_overflow hsearch

end Store

/-! ### Answers -/

/-- How the answers to a request for a slot and to the same request for a meeting
go together, by what the request is read as. -/
inductive Agree (s : Store) (parsed : Except Fault (Except RequestFault MeetingRequest)) :
    Except Fault (Except Failure Utc) → Except Fault (Except Failure BookingView) → Prop
  /-- The request cannot be read. -/
  | unread {fault : Fault} (h : parsed = .error fault) :
      Agree s parsed (.error fault) (.error fault)
  /-- The request breaks a rule. -/
  | refused {fault : RequestFault} (h : parsed = .ok (.error fault)) :
      Agree s parsed (.ok (.error (.request fault))) (.ok (.error (.request fault)))
  /-- Somebody is not known; the first of them is named, whatever is found. -/
  | unknown {r : MeetingRequest} {first : Int} {found : Except Fault (Except Failure Utc)}
      (h : parsed = .ok (.ok r)) (missing : s.FirstMissing r.people first)
      (short : first.natAbs < 10 ^ numeralLimit) :
      Agree s parsed found (.ok (.error (.unknownParticipant first)))
  /-- Somebody is not known whose number has too many digits to be named. -/
  | unnamed {r : MeetingRequest} {first : Int} {found : Except Fault (Except Failure Utc)}
      (h : parsed = .ok (.ok r)) (missing : s.FirstMissing r.people first)
      (long : 10 ^ numeralLimit ≤ first.natAbs) :
      Agree s parsed found (.error .unprintable)
  /-- The search leaves the calendar. -/
  | overflow {r : MeetingRequest} {fault : TimeFault} (h : parsed = .ok (.ok r))
      (known : ∀ id ∈ r.people, s.participant? id ≠ none) (overflow : fault.Overflow) :
      Agree s parsed (.error (.time fault)) (.error (.time fault))
  /-- There is no slot. -/
  | noSlot {r : MeetingRequest} (h : parsed = .ok (.ok r))
      (known : ∀ id ∈ r.people, s.participant? id ≠ none) :
      Agree s parsed (.ok (.error .noSlot)) (.ok (.error .noSlot))
  /-- There is a slot, and it is booked. -/
  | booked {r : MeetingRequest} {slot stop : Utc} {known : List Participant}
      (h : parsed = .ok (.ok r)) (lasts : stop.instant = slot.instant + r.duration * minuteSpan)
      (people : r.people.map s.participant? = known.map some) :
      Agree s parsed (.ok (.ok slot))
        (.ok (.ok ⟨⟨some s.nextBooking, r.people.map .number, slot, stop⟩, known⟩))

theorem Change.apply_memory {α : Type} {store : Store} {told : List Delivery} {result : α}
    (h : o.archive.file = none) : ((put store told result).apply o).1 = .ok result := by
  have hsaved : (replaced o.archive store).1 = none :=
    congrArg Prod.fst (Archive.kept_of_memory (a := { o.archive with store := store }) h)
  rw [apply_put_saved hsaved]

theorem finding_agrees_with_scheduling (set : Settings) (o : Office) {asked : Asked}
    (hmemory : o.archive.file = none) (hgrid : set.grid = Grid.standard)
    (h : asked.parsed limit = .ok (.ok r)) :
    Agree o.archive.store (asked.parsed limit) ((o.archive.store.finding set r).apply o).1
      ((o.archive.store.scheduling set r).apply o).1 := by
  obtain ⟨hsome, honce, hd, -⟩ := asked.rules_of_parsed h
  generalize hs : o.archive.store = s
  unfold Store.scheduling Store.finding
  rw [s.participantsAmong_numbers honce, s.missingPeople_eq, hgrid]
  cases hmissing : r.people.filter fun id => (s.participant? id).isNone with
  | cons first rest =>
    have hfirst : s.FirstMissing r.people first := Store.firstMissing_iff.mpr ⟨_, hmissing⟩
    dsimp only
    obtain ⟨hshort, hanswer⟩ | ⟨hlong, hanswer⟩ := notFound_cases BookingView first
    · rw [hanswer]
      exact .unknown h hfirst hshort
    · rw [hanswer]
      exact .unnamed h hfirst hlong
  | nil =>
    have hknown : ∀ id ∈ r.people, s.participant? id ≠ none :=
      Store.known_of_nobody_missing hmissing
    cases hslot : s.slot Grid.standard r.people r.duration r.earliest.zoned r.latest.zoned with
    | error fault =>
      obtain ⟨f, rfl, hover⟩ := Store.slot_overflow hslot
      exact .overflow h hknown hover
    | ok found =>
      cases found with
      | none => exact .noSlot h hknown
      | some slot =>
        obtain ⟨stop, hstop, hlasts, hbooking⟩ := Store.slot_bookable hsome honce hd hslot
        simp only [Change.onSlot, Store.booking, hstop, hbooking, Change.apply_memory hmemory]
        have hrecords := Store.map_some_records hknown
        exact .booked h hlasts ((s.recordsOf_numbers r.people).symm ▸ hrecords)

/-- **Finding and scheduling agree.**  With the standard grid and a store in
memory, a request is refused alike by both; if somebody is not known, scheduling
says who, or fails because it cannot; else both leave the calendar, or there is no
slot for both, or the slot that is found is booked. -/
theorem find_agrees_with_schedule (s : Store) (disk : Disk) (outbox : List Delivery) (clock : Utc)
    (listeners : Nat) (limit slow : Int) (t t' : Ticks) (asked : Asked) :
    Agree s (asked.parsed limit)
      (asked.found ⟨Grid.standard, clock, listeners, limit, slow⟩ t ⟨⟨s, none, disk⟩, outbox⟩)
      (asked.booked ⟨Grid.standard, clock, listeners, limit, slow⟩ t'
        ⟨⟨s, none, disk⟩, outbox⟩) := by
  rw [Asked.found_eq, Asked.booked_eq]
  dsimp only
  cases h : asked.parsed limit with
  | error fault =>
    rw [Asked.change, Asked.change, h]
    exact .unread rfl
  | ok parsed =>
    cases parsed with
    | error fault =>
      rw [Asked.change, Asked.change, h]
      exact .refused rfl
    | ok r =>
      have hagree := finding_agrees_with_scheduling ⟨Grid.standard, clock, listeners, limit, slow⟩
        ⟨⟨s, none, disk⟩, outbox⟩ rfl rfl h
      rw [h] at hagree
      rw [Asked.change, Asked.change, h]
      exact hagree

/-- Half an hour of a Saturday for one participant, between eight and twelve. -/
def Asked.morning (id : Int) : Asked :=
  .raw none (.obj [("participant_ids", .arr [.int id]), ("duration_minutes", .int 30),
    ("earliest_start", .str "2024-06-15T08:00"), ("latest_end", .str "2024-06-15T12:00")])

theorem Asked.parsed_morning {id : Int} (hid : 0 < id) : (Asked.morning id).parsed 20 =
    .ok (.ok ⟨[id], 30, Moment.saturday 480, Moment.saturday 720⟩) := by
  have hfields : MeetingRequest.Fields.ofMapping [("participant_ids", .arr [.int id]),
      ("duration_minutes", .int 30), ("earliest_start", .str "2024-06-15T08:00"),
      ("latest_end", .str "2024-06-15T12:00")] =
      .ok (.ofValues [id] 30 (Moment.saturday 480) (Moment.saturday 720)) := by cbv
  have hpeople : MeetingRequest.peopleFault 20 [id] = none := by
    simp [MeetingRequest.peopleFault_eq_none_iff, hid]
  have hpasses : MeetingRequest.ofFields 20 none
      (.ofValues [id] 30 (Moment.saturday 480) (Moment.saturday 720)) =
      .ok (.ok ⟨[id], 30, Moment.saturday 480, Moment.saturday 720⟩) :=
    MeetingRequest.ofFields_eq_ok_iff.mpr ⟨MeetingRequest.Fields.request_eq_ok_iff.mpr
      ⟨⟨rfl, hpeople⟩, ⟨rfl, rfl⟩, rfl, rfl⟩, rfl⟩
  show (MeetingRequest.ofMapping 20 none _).mapError Fault.time = _
  rw [MeetingRequest.ofMapping, hfields, ok_bind, hpasses]
  rfl

/-- In an empty office a participant whose number is too long is not refused. -/
theorem Asked.booked_morning {id : Int} (hid : 0 < id) (hlong : 10 ^ numeralLimit ≤ id.natAbs) :
    (Asked.morning id).booked .saturday .none (Office.fresh none ⟨[], [], none, []⟩) =
      .error .unprintable := by
  have hparsed : (Asked.morning id).parsed Settings.saturday.maxParticipants = _ :=
    parsed_morning hid
  rw [Asked.booked_eq, Asked.change, hparsed]
  exact notFound_of_long hlong

/-- **Somebody who is not known may be impossible to name.**  A request for the
participant with the number `10 ^ 4300` passes, nobody is known in an empty store, and
yet the request is not refused. -/
theorem unknown_cannot_be_named :
    (Asked.morning (10 ^ numeralLimit)).parsed 20 =
        .ok (.ok ⟨[10 ^ numeralLimit], 30, Moment.saturday 480, Moment.saturday 720⟩) ∧
      Store.empty.participant? (10 ^ numeralLimit) = none ∧
      (Asked.morning (10 ^ numeralLimit)).booked .saturday .none
        (Office.fresh none ⟨[], [], none, []⟩) = .error .unprintable := by
  have hpositive : (0 : Int) < 10 ^ numeralLimit := Int.pow_pos (by decide)
  exact ⟨Asked.parsed_morning hpositive, List.find?_nil,
    Asked.booked_morning hpositive (Nat.le_of_eq (Json.natAbs_ten_pow _).symm)⟩

end Meetings
