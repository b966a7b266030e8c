/-
What holds of every store, said without the checks that bring it about.

* `Booking.Proper`, `Booking.valid_iff` — the rules of a booking as facts about
  its times and its people;
* `NextAfter`, `nextAfter_iff` — an id is the one after the largest of some ids;
* `Store.Sound` — participants are kept under ids of their own, bookings are
  proper, and the ids to be given next follow the largest;
* `Sound.joined`, `Sound.booked` — adding keeps a store sound, and gives an id
  that is larger than all ids there are: `Sound.participant_lt`,
  `Sound.booking_lt`;
* **`ofFields_sound`** — a store that is read from a document is sound, whatever
  the document holds.

Design notes: `Valid` bounds the ids by those to be given next, which is enough
to keep ids apart.  Here these are determined by the entries, so that two sound
stores with the same entries are the same.
-/
import Meetings.Proofs.Booking
import Meetings.Proofs.Slot.Exact
import Meetings.Proofs.Store.Settled

namespace Meetings

/-- A booking starts before it ends, lies between nine and five of one day in
UTC, and somebody takes part, nobody twice. -/
structure Booking.Proper (b : Booking) : Prop where
  ordered : b.start.instant < b.stop.instant
  withinDay : ∃ day : Int, day * daySpan + 9 * hourSpan ≤ b.start.instant ∧
    b.stop.instant ≤ day * daySpan + 17 * hourSpan
  somebody : b.people ≠ []
  distinct : (b.people.map PersonRef.key).Nodup

theorem Booking.valid_iff {b : Booking} : b.Valid ↔ b.Proper := by
  unfold Valid
  rw [hasRepeat_eq_false_iff]
  constructor
  · rintro ⟨hlt, hwithin, hsome, hdistinct⟩
    have hday := withinHours_iff_workday.mp hwithin
    exact ⟨hlt, (withinWorkday_iff_exists_day hlt).mp hday, hsome, hdistinct⟩
  · rintro ⟨hlt, hday, hsome, hdistinct⟩
    have hwithin := (withinWorkday_iff_exists_day hlt).mpr hday
    exact ⟨hlt, withinHours_iff_workday.mpr hwithin, hsome, hdistinct⟩

namespace Store

/-! ### The next id -/

/-- An id is the one after the largest of some ids, and 1 if there are none. -/
def NextAfter (ids : List Int) (next : Int) : Prop :=
  (ids = [] ∧ next = 1) ∨ ∃ last ∈ ids, next = last + 1 ∧ ∀ id ∈ ids, id ≤ last

theorem NextAfter.lt {ids : List Int} {next id : Int} (h : NextAfter ids next) (hid : id ∈ ids) :
    id < next := by
  rcases h with ⟨rfl, -⟩ | ⟨last, -, rfl, hle⟩
  · exact absurd hid List.not_mem_nil
  · exact Int.lt_add_one_of_le (hle id hid)

theorem nextAfter_idAfter (ids : List Int) : NextAfter ids (idAfter ids) := by
  have hfold (rest : List Int) (m : Int) : rest.foldl max m ∈ m :: rest := by
    induction rest generalizing m with
    | nil => exact List.mem_cons_self
    | cons k rest ih =>
      rcases List.mem_cons.mp (ih (max m k)) with hmax | hrest
      · rw [List.foldl_cons, hmax]
        rcases Int.le_total m k with hle | hle
        · rw [Int.max_eq_right hle]
          exact List.mem_cons_of_mem _ List.mem_cons_self
        · rw [Int.max_eq_left hle]
          exact List.mem_cons_self
      · exact List.mem_cons_of_mem _ (List.mem_cons_of_mem _ hrest)
  cases ids with
  | nil => exact .inl ⟨rfl, rfl⟩
  | cons m rest =>
    refine .inr ⟨rest.foldl max m, hfold rest m, rfl, ?_⟩
    intro id hid
    exact Int.le_of_lt_add_one (lt_idAfter hid)

theorem nextAfter_iff {ids : List Int} {next : Int} : NextAfter ids next ↔ idAfter ids = next := by
  constructor
  · intro h
    have hafter := nextAfter_idAfter ids
    -- Of two largest ids each is at most the other.
    rcases h with ⟨rfl, rfl⟩ | ⟨last, hlast, rfl, hle⟩
    · rfl
    · rcases hafter with ⟨rfl, -⟩ | ⟨last', hlast', hnext, hle'⟩
      · exact absurd hlast List.not_mem_nil
      · have := hle last' hlast'
        have := hle' last hlast
        omega
  · rintro rfl
    exact nextAfter_idAfter ids

/-- The order of the ids does not matter. -/
theorem NextAfter.perm {ids ids' : List Int} {next : Int} (h : NextAfter ids next)
    (hperm : ids.Perm ids') : NextAfter ids' next := by
  rcases h with ⟨rfl, rfl⟩ | ⟨last, hlast, rfl, hle⟩
  · exact .inl ⟨hperm.nil_eq.symm, rfl⟩
  · refine .inr ⟨last, hperm.mem_iff.mp hlast, rfl, ?_⟩
    intro id hid
    exact hle id (hperm.mem_iff.mpr hid)

/-! ### Sound stores -/

/-- Every participant is found under an id of its own and has a valid name, every
booking has an id and is proper, and the ids to be given next are those after
the largest. -/
structure Sound (s : Store) : Prop where
  participantIds : ∀ p ∈ s.participants, ∃ id, p.id = some id ∧ s.participant? id = some p
  participantsOnce : (s.participants.map (·.id)).Nodup
  names : ∀ p ∈ s.participants, ValidName p.name
  bookingIds : ∀ b ∈ s.bookings, ∃ id, b.id = some id
  bookingRules : ∀ b ∈ s.bookings, b.Proper
  nextParticipant : NextAfter (s.participants.filterMap (·.id)) s.nextParticipant
  nextBooking : NextAfter (s.bookings.filterMap (·.id)) s.nextBooking

variable {s : Store} {p : Participant} {b : Booking} {id : Int}

/-- Under ids of their own, participants are found under their ids. -/
theorem participant?_of_mem (honce : (s.participants.map (·.id)).Nodup) (hp : p ∈ s.participants)
    (hid : p.id = some id) : s.participant? id = some p := by
  unfold participant?
  generalize s.participants = found at honce hp
  induction found with
  | nil => exact absurd hp List.not_mem_nil
  | cons q rest ih =>
    rw [List.map_cons, List.nodup_cons] at honce
    rcases List.mem_cons.mp hp with rfl | hp
    · rw [List.find?_cons_of_pos (by simp [hid])]
    · have hne : q.id ≠ some id := by
        rintro hq
        exact honce.1 (List.mem_map.mpr ⟨p, hp, hid.trans hq.symm⟩)
      rw [List.find?_cons_of_neg (by simpa using hne)]
      exact ih honce.2 hp

theorem Valid.sound (hs : s.Valid)
    (hparticipant : idAfter (s.participants.filterMap (·.id)) = s.nextParticipant)
    (hbooking : idAfter (s.bookings.filterMap (·.id)) = s.nextBooking) : s.Sound where
  participantIds := by
    intro p hp
    obtain ⟨id, hid, -⟩ := hs.participantIds p hp
    exact ⟨id, hid, participant?_of_mem hs.participantsOnce hp hid⟩
  participantsOnce := hs.participantsOnce
  names := hs.names
  bookingIds := by
    intro b hb
    obtain ⟨id, hid, -⟩ := hs.bookingIds b hb
    exact ⟨id, hid⟩
  bookingRules := fun b hb => Booking.valid_iff.mp (hs.bookingRules b hb)
  nextParticipant := nextAfter_iff.mpr hparticipant
  nextBooking := nextAfter_iff.mpr hbooking

/-- The next id is larger than those of all participants. -/
theorem Sound.participant_lt (hs : s.Sound) (hp : p ∈ s.participants) (hid : p.id = some id) :
    id < s.nextParticipant :=
  hs.nextParticipant.lt (List.mem_filterMap.mpr ⟨p, hp, hid⟩)

/-- The next id is larger than those of all bookings. -/
theorem Sound.booking_lt (hs : s.Sound) (hb : b ∈ s.bookings) (hid : b.id = some id) :
    id < s.nextBooking :=
  hs.nextBooking.lt (List.mem_filterMap.mpr ⟨b, hb, hid⟩)

theorem Sound.valid (hs : s.Sound) : s.Valid where
  participantIds := by
    intro p hp
    obtain ⟨id, hid, -⟩ := hs.participantIds p hp
    exact ⟨id, hid, hs.participant_lt hp hid⟩
  participantsOnce := hs.participantsOnce
  names := hs.names
  bookingIds := by
    intro b hb
    obtain ⟨id, hid⟩ := hs.bookingIds b hb
    exact ⟨id, hid, hs.booking_lt hb hid⟩
  bookingRules := fun b hb => Booking.valid_iff.mpr (hs.bookingRules b hb)

theorem empty_sound : empty.Sound := empty_valid.sound rfl rfl

/-- A participant that is added comes last, and the others stay as they are. -/
theorem Sound.joined_participants (hs : s.Sound) (name : String) :
    (s.joined name).participants = s.participants ++ [⟨some s.nextParticipant, name⟩] :=
  hs.valid.joined_participants name

theorem Sound.joined {name : String} (hs : s.Sound) (hname : ValidName name) :
    (s.joined name).Sound := by
  refine (hs.valid.joined hname).sound ?_ (nextAfter_iff.mp hs.nextBooking)
  rw [hs.joined_participants]
  exact nextId_append (nextAfter_iff.mp hs.nextParticipant) rfl

theorem Sound.booked (hs : s.Sound) (hb : b.Valid) : (s.booked b).Sound :=
  (hs.valid.booked hb).sound (nextAfter_iff.mp hs.nextParticipant)
    (nextId_append (nextAfter_iff.mp hs.nextBooking) rfl)

/-- **A store that is read from a document is sound.** -/
theorem ofFields_sound {now : Utc} {fields : List (String × Json)}
    (h : ofFields now fields = .ok s) : s.Sound := by
  have hvalid := ofFields_valid h
  obtain ⟨ps, bs, participants, bookings, rfl, -⟩ := ofFields_eq_ok h
  exact hvalid.sound rfl rfl

end Store

end Meetings
