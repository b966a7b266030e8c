/-
Stores that are loaded as they are.

* `Store.Settled` — participants stand in the order of their ids, and the ids to
  be given next follow from the entries;
* `Settled.ofEntities` — such a store is made of its entries;
* **`Settled.joined`**, **`Settled.booked`** — it stays so when an entry is added.

Design notes: a store keeps its participants as they were added, and counts its
ids up; the store of a document has its participants by id and starts to count
after the largest id.  The two agree as long as entries are added one after
another to a store that began empty.
-/
import Meetings.Proofs.Store.Valid

namespace Meetings.Store

variable {s : Store}

/-- Participants stand in the order of their ids, and the ids to be given next
are those after the largest. -/
structure Settled (s : Store) : Prop where
  ordered : s.participants.Pairwise fun p q => p.id.getD 0 ≤ q.id.getD 0
  nextParticipant : idAfter (s.participants.filterMap (·.id)) = s.nextParticipant
  nextBooking : idAfter (s.bookings.filterMap (·.id)) = s.nextBooking

theorem empty_settled : empty.Settled := ⟨List.Pairwise.nil, rfl, rfl⟩

/-- A settled store is made of its entries. -/
theorem Settled.ofEntities (h : s.Settled) :
    Store.ofEntities s.participantList s.bookings = s := by
  have hlist : s.participantList = s.participants :=
    List.mergeSort_of_pairwise (h.ordered.imp decide_eq_true)
  unfold Store.ofEntities
  rw [hlist, h.nextParticipant, h.nextBooking]

/-- Once the next id is given, the one after it is next. -/
theorem idAfter_append (ids : List Int) : idAfter (ids ++ [idAfter ids]) = idAfter ids + 1 := by
  cases ids with
  | nil => rfl
  | cons m rest =>
    show (rest ++ [rest.foldl max m + 1]).foldl max m + 1 = rest.foldl max m + 1 + 1
    rw [List.foldl_append, List.foldl_cons, List.foldl_nil,
      Int.max_eq_right (Int.le_add_one (Int.le_refl _))]

theorem nextId_append {α : Type} {items : List α} {id : α → Option Int} {item : α} {next : Int}
    (h : idAfter (items.filterMap id) = next) (hitem : id item = some next) :
    idAfter ((items ++ [item]).filterMap id) = next + 1 := by
  rw [List.filterMap_append, List.filterMap_cons_some hitem, List.filterMap_nil, ← h,
    idAfter_append]

/-- A participant under the next id comes last. -/
theorem Valid.joined_participants (hs : s.Valid) (name : String) :
    (s.joined name).participants = s.participants ++ [⟨some s.nextParticipant, name⟩] := by
  -- All ids that were given are below the next one.
  refine putParticipant_append fun hmem => ?_
  obtain ⟨p, hp, hpid⟩ := List.mem_map.mp hmem
  obtain ⟨id, hid, hlt⟩ := hs.participantIds p hp
  rw [hpid] at hid
  exact absurd hlt (Option.some.inj hid ▸ Int.lt_irrefl _)

theorem Settled.joined (h : s.Settled) (hs : s.Valid) (name : String) :
    (s.joined name).Settled where
  ordered := by
    rw [hs.joined_participants]
    refine List.pairwise_append.mpr ⟨h.ordered, List.pairwise_singleton _ _, fun p hp q hq => ?_⟩
    obtain ⟨id, hid, hlt⟩ := hs.participantIds p hp
    rw [List.mem_singleton.mp hq, hid]
    exact Int.le_of_lt hlt
  nextParticipant := by
    rw [hs.joined_participants]
    exact nextId_append h.nextParticipant rfl
  nextBooking := h.nextBooking

theorem Settled.booked (h : s.Settled) (b : Booking) : (s.booked b).Settled where
  ordered := h.ordered
  nextParticipant := h.nextParticipant
  nextBooking := nextId_append h.nextBooking rfl

end Meetings.Store
