/-
What an operation can put in the place of a store.

* `Store.slot_free` — a slot that a store gives is free of all its bookings,
  though the search sees only those of the days it touches;
* `Adds` — a store with one more participant of a valid name, or with one more
  booking that obeys the rules and refers to people by whole numbers; what this
  keeps: `Adds.valid`, `Adds.numbered`, `Adds.conflictFree`, `Adds.settled`;
* **`change_addsTo`** — an operation answers, or puts such a store in the place
  of the store.

Design notes: what has to be known about the services to follow a store through
a run is in these two cases; the invariants of runs are proved from them.
-/
import Meetings.Proofs.Office.Operation
import Meetings.Proofs.Slot.Free
import Meetings.Proofs.Store.Settled

namespace Meetings

/-- A slot that is found among bookings is free of them all. -/
theorem slotAmong_free {g : Grid} {people : List Int} {d : Int} {start stop : Zoned} {t : Utc}
    {bookings : List Booking}
    (h : slotAmong g people (some d) start stop (commitmentsOf bookings) = .ok (some t)) :
    ∃ e, t.plusMinutes d = .ok e ∧ ∀ b ∈ bookings,
      b.commitment.conflicts ⟨people.map .number, t.instant, e.instant⟩ = false := by
  obtain ⟨out, hout, hslot⟩ := slotAmong_eq_ok.mp h
  obtain ⟨e, he, hfree⟩ := findSlot_free hout hslot
  refine ⟨e, he, fun b hb => ?_⟩
  rw [Commitment.conflicts_comm, ← Bool.not_eq_true]
  intro hconf
  have hmem : some b.commitment ∈ commitmentsOf bookings := List.mem_map.mpr ⟨b, hb, rfl⟩
  exact absurd (conflictsWithAny_eq_true_iff.mpr ⟨_, hmem, hconf⟩) (by rw [hfree]; decide)

namespace Store

variable {s s' : Store} {set : Settings}

/-- What a store finds, it finds among all its bookings. -/
theorem slotAmong_of_slot {g : Grid} {people : List Int} {d : Int} {start stop : Zoned}
    {found : Option Utc} (hq : 0 < g.quantum) (h : s.slot g people d start stop = .ok found) :
    slotAmong g people (some d) start stop (commitmentsOf s.bookings) = .ok found := by
  unfold slot at h
  obtain ⟨existing, hexisting, h⟩ := bind_eq_ok.mp h
  rwa [slotAmong_congr hq (sameWithin_of_inTheWay hexisting)] at h

/-- **A slot that a store gives is free of all its bookings.** -/
theorem slot_free {g : Grid} {people : List Int} {d : Int} {start stop : Zoned} {t : Utc}
    (hq : 0 < g.quantum) (h : s.slot g people d start stop = .ok (some t)) :
    ∃ e, t.plusMinutes d = .ok e ∧ ∀ b ∈ s.bookings,
      b.commitment.conflicts ⟨people.map .number, t.instant, e.instant⟩ = false :=
  slotAmong_free (slotAmong_of_slot hq h)

/-- A store holds one entry more than another: a participant, or a booking.  If
the spacing of the grid is positive, the booking is free of those there were. -/
inductive Adds (g : Grid) (s : Store) : Store → Prop
  | participant {name : String} (hname : ValidName name) : Adds g s (s.joined name)
  | booking {b : Booking} (hrules : b.Valid) (hnumbers : ∀ r ∈ b.people, ∃ n, r = .number n)
      (hfree : 0 < g.quantum → ∀ c ∈ s.bookings, c.commitment.conflicts b.commitment = false) :
      Adds g s (s.booked b)

theorem Adds.valid {g : Grid} (h : s.Adds g s') (hs : s.Valid) : s'.Valid := by
  cases h with
  | participant hname => exact hs.joined hname
  | booking hrules => exact hs.booked hrules

theorem Adds.numbered {g : Grid} (h : s.Adds g s') (hn : s.Numbered) : s'.Numbered := by
  cases h with
  | participant hname => exact hn
  | booking hrules hnumbers =>
    intro c hc
    rcases List.mem_append.mp hc with hc | hc
    · exact hn c hc
    · rw [List.mem_singleton.mp hc]
      exact hnumbers

theorem Adds.conflictFree {g : Grid} (h : s.Adds g s') (hq : 0 < g.quantum)
    (hfree : s.ConflictFree) : s'.ConflictFree := by
  cases h with
  | participant hname => exact hfree
  | booking hrules hnumbers hnew =>
    refine List.pairwise_append.mpr ⟨hfree, List.pairwise_singleton _ _, fun c hc c' hc' => ?_⟩
    rw [List.mem_singleton.mp hc']
    exact hnew hq c hc

theorem Adds.settled {g : Grid} (h : s.Adds g s') (hs : s.Valid) (hsettled : s.Settled) :
    s'.Settled := by
  cases h with
  | participant hname => exact hsettled.joined hs _
  | booking hrules => exact hsettled.booked _

end Store

/-- A change answers, or puts a store in the place of the store that holds one
entry more. -/
def Change.AddsTo {α : Type} (g : Grid) (s : Store) : Change α → Prop
  | .answer _ => True
  | .put store _ _ => s.Adds g store

variable {α β : Type} {g : Grid} {s : Store} {set : Settings}

theorem Change.AddsTo.map {c : Change α} (h : c.AddsTo g s) (f : α → β) :
    (c.map f).AddsTo g s := by
  cases c with
  | answer result => trivial
  | put store told result => exact h

theorem registering_addsTo (s : Store) (g : Grid) (data : Json) :
    (s.registering data).AddsTo g s := by
  unfold Store.registering
  split
  · trivial
  · trivial
  · split
    · trivial
    · next hmake => exact .participant (Participant.make_eq_ok hmake).2

theorem booking_addsTo {r : MeetingRequest} {slot : Utc} (known : List Participant)
    (h : s.slot set.grid r.people r.duration r.earliest.zoned r.latest.zoned = .ok (some slot)) :
    (s.booking set r known slot).AddsTo set.grid s := by
  unfold Store.booking
  split
  · trivial
  next stop hstop =>
  split
  · trivial
  next b hb =>
  obtain ⟨rfl, hrules⟩ := Booking.ofUtc_eq_ok_iff.mp hb
  refine .booking hrules (fun ref hr => ?_) fun hq c hc => ?_
  · obtain ⟨n, -, rfl⟩ := List.mem_map.mp hr
    exact ⟨n, rfl⟩
  · obtain ⟨e, he, hfree⟩ := Store.slot_free hq h
    rw [hstop] at he
    cases he
    exact hfree c hc

theorem scheduling_addsTo (s : Store) (set : Settings) (r : MeetingRequest) :
    (s.scheduling set r).AddsTo set.grid s := by
  unfold Store.scheduling
  split
  · trivial
  · unfold Change.onSlot
    split
    · trivial
    · trivial
    · next hslot => exact booking_addsTo _ hslot

theorem finding_addsTo (s : Store) (set : Settings) (r : MeetingRequest) :
    (s.finding set r).AddsTo set.grid s := by
  unfold Store.finding Change.onSlot
  split
  · trivial
  · trivial
  · trivial

theorem Asked.change_addsTo {change : MeetingRequest → Change (Except Failure α)} (asked : Asked)
    (limit : Int) (h : ∀ r, (change r).AddsTo g s) : (asked.change limit change).AddsTo g s := by
  unfold Asked.change
  split
  · trivial
  · trivial
  · exact h _

/-- **An operation answers, or puts a store in the place of the store that holds
one entry more.** -/
theorem change_addsTo (set : Settings) (s : Store) (op : Operation) :
    (op.change set s).AddsTo set.grid s := by
  cases op with
  | create t data => exact (registering_addsTo s set.grid data).map _
  | schedule t asked => exact (asked.change_addsTo _ (scheduling_addsTo s set)).map _
  | find t asked => exact (asked.change_addsTo _ (finding_addsTo s set)).map _
  | bookings t id => trivial
  | list => trivial

end Meetings
