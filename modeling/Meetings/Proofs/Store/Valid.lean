/-
Stores that are built by adding and loading are valid.

* `Store.Numbered` — the bookings of a store refer to people by whole numbers;
* `joined`, `booked` — a store with one entry more, which is what adding makes:
  `addParticipant_eq_ok`, `addBooking_eq_ok`;
* `empty_valid`, `Valid.joined`, `Valid.booked` — adding keeps a store valid;
* `participantOf_eq_ok`, `bookingOf_eq_ok`, `ofFields_eq_ok` — from which values of
  a document its entries come;
* **`ofFields_valid`** — a store that is read from a document is valid, whatever
  the document holds.
-/
import Meetings.Proofs.Except
import Meetings.Store.Record

namespace Meetings

theorem Booking.withId_eq_ok {b b' : Booking} {id : Int} :
    b.withId id = .ok b' ↔ b.id = none ∧ b' = { b with id := some id } := by
  unfold withId
  cases h : b.id with
  | none => simp [eq_comm]
  | some old => simp

theorem Participant.withId_eq_ok {p p' : Participant} {id : Int} :
    p.withId id = .ok p' ↔ p.id = none ∧ p' = ⟨some id, p.name⟩ := by
  unfold withId
  cases h : p.id with
  | none => simp [eq_comm]
  | some old => simp

theorem Participant.make_eq_ok {id : Option Int} {name : Json} {p : Participant}
    (h : Participant.make id name = .ok p) : p.id = id ∧ ValidName p.name := by
  obtain ⟨text, htext, rfl⟩ := map_eq_ok.mp h
  refine ⟨rfl, ?_⟩
  cases name with
  | str s =>
    obtain ⟨hvalid, rfl⟩ := checkNameText_eq_ok_iff.mp htext
    exact hvalid
  | _ => cases htext

namespace Store

/-- The bookings refer to people by whole numbers. -/
def Numbered (s : Store) : Prop := ∀ b ∈ s.bookings, ∀ r ∈ b.people, ∃ n, r = .number n

variable {s s' : Store}

/-- A store with one more participant. -/
def joined (s : Store) (name : String) : Store :=
  { s with
    participants := putParticipant s.participants ⟨some s.nextParticipant, name⟩
    nextParticipant := s.nextParticipant + 1 }

/-- A booking under the next id. -/
def saved (s : Store) (b : Booking) : Booking := { b with id := some s.nextBooking }

/-- A store with one more booking. -/
def booked (s : Store) (b : Booking) : Store :=
  { s with bookings := s.bookings ++ [s.saved b], nextBooking := s.nextBooking + 1 }

theorem addParticipant_eq_ok {p p' : Participant} :
    s.addParticipant p = .ok (p', s') ↔
      p.id = none ∧ p' = ⟨some s.nextParticipant, p.name⟩ ∧ s' = s.joined p.name := by
  unfold addParticipant
  rw [bind_eq_ok]
  constructor
  · rintro ⟨q, hq, h⟩
    cases h
    obtain ⟨hid, rfl⟩ := Participant.withId_eq_ok.mp hq
    exact ⟨hid, rfl, rfl⟩
  · rintro ⟨hid, rfl, rfl⟩
    exact ⟨_, Participant.withId_eq_ok.mpr ⟨hid, rfl⟩, rfl⟩

theorem addBooking_eq_ok {b b' : Booking} :
    s.addBooking b = .ok (b', s') ↔ b.id = none ∧ b' = s.saved b ∧ s' = s.booked b := by
  unfold addBooking
  rw [bind_eq_ok]
  constructor
  · rintro ⟨c, hc, h⟩
    cases h
    obtain ⟨hid, rfl⟩ := Booking.withId_eq_ok.mp hc
    exact ⟨hid, rfl, rfl⟩
  · rintro ⟨hid, rfl, rfl⟩
    exact ⟨_, Booking.withId_eq_ok.mpr ⟨hid, rfl⟩, rfl⟩

/-! ### Participants by id -/

theorem mem_putParticipant {found : List Participant} {p q : Participant}
    (h : q ∈ putParticipant found p) : q = p ∨ q ∈ found := by
  induction found with
  | nil => exact .inl (List.mem_singleton.mp h)
  | cons r rest ih =>
    unfold putParticipant at h
    split at h
    · rcases List.mem_cons.mp h with h | h
      · exact .inl h
      · exact .inr (List.mem_cons_of_mem _ h)
    · rcases List.mem_cons.mp h with rfl | h
      · exact .inr List.mem_cons_self
      · exact (ih h).imp_right (List.mem_cons_of_mem _)

/-- A participant under a new id comes last. -/
theorem putParticipant_append {found : List Participant} {p : Participant}
    (h : p.id ∉ found.map (·.id)) : putParticipant found p = found ++ [p] := by
  induction found with
  | nil => rfl
  | cons q rest ih =>
    rw [List.map_cons, List.mem_cons, not_or] at h
    rw [putParticipant, if_neg (Ne.symm h.1), ih h.2, List.cons_append]

theorem putParticipant_nodup {found : List Participant} (p : Participant)
    (h : (found.map (·.id)).Nodup) : ((putParticipant found p).map (·.id)).Nodup := by
  induction found with
  | nil => exact List.nodup_cons.mpr ⟨List.not_mem_nil, List.nodup_nil⟩
  | cons q rest ih =>
    rw [List.map_cons, List.nodup_cons] at h
    unfold putParticipant
    split
    · next hid =>
      have hrest : p.id ∉ rest.map (·.id) := hid ▸ h.1
      exact List.nodup_cons.mpr ⟨hrest, h.2⟩
    · next hid =>
      -- What comes to stand behind `q` is `p` or was there before.
      refine List.nodup_cons.mpr ⟨fun hmem => ?_, ih h.2⟩
      obtain ⟨r, hr, hrid⟩ := List.mem_map.mp hmem
      rcases mem_putParticipant hr with rfl | hr
      · exact hid hrid.symm
      · exact h.1 (List.mem_map.mpr ⟨r, hr, hrid⟩)

/-! ### Adding keeps a store valid -/

theorem empty_valid : empty.Valid where
  participantIds := by simp [empty]
  participantsOnce := List.nodup_nil
  names := by simp [empty]
  bookingIds := by simp [empty]
  bookingRules := by simp [empty]

theorem Valid.joined {name : String} (hs : s.Valid) (hname : ValidName name) :
    (s.joined name).Valid where
  participantIds := fun p hp => by
    rcases mem_putParticipant hp with rfl | hp
    · exact ⟨s.nextParticipant, rfl, Int.lt_succ _⟩
    · obtain ⟨id, hid, hlt⟩ := hs.participantIds p hp
      exact ⟨id, hid, Int.lt_trans hlt (Int.lt_succ _)⟩
  participantsOnce := putParticipant_nodup _ hs.participantsOnce
  names := fun p hp => by
    rcases mem_putParticipant hp with rfl | hp
    · exact hname
    · exact hs.names p hp
  bookingIds := hs.bookingIds
  bookingRules := hs.bookingRules

theorem Valid.booked {b : Booking} (hs : s.Valid) (hb : b.Valid) : (s.booked b).Valid where
  participantIds := hs.participantIds
  participantsOnce := hs.participantsOnce
  names := hs.names
  bookingIds := fun c hc => by
    rcases List.mem_append.mp hc with hc | hc
    · obtain ⟨id, hid, hlt⟩ := hs.bookingIds c hc
      exact ⟨id, hid, Int.lt_trans hlt (Int.lt_succ _)⟩
    · rw [List.mem_singleton.mp hc]
      exact ⟨s.nextBooking, rfl, Int.lt_succ _⟩
  bookingRules := fun c hc => by
    rcases List.mem_append.mp hc with hc | hc
    · exact hs.bookingRules c hc
    · rw [List.mem_singleton.mp hc]
      exact hb

/-! ### Stores of documents -/

theorem lt_idAfter {ids : List Int} {n : Int} (h : n ∈ ids) : n < idAfter ids := by
  have hfold (rest : List Int) (m : Int) : m ≤ rest.foldl max m ∧
      ∀ k ∈ rest, k ≤ rest.foldl max m := by
    induction rest generalizing m with
    | nil => exact ⟨Int.le_refl m, fun k hk => absurd hk List.not_mem_nil⟩
    | cons x rest ih =>
      obtain ⟨hm, hrest⟩ := ih (max m x)
      refine ⟨Int.le_trans (Int.le_max_left m x) hm, fun k hk => ?_⟩
      rcases List.mem_cons.mp hk with rfl | hk
      · exact Int.le_trans (Int.le_max_right m k) hm
      · exact hrest k hk
  cases ids with
  | nil => exact absurd h List.not_mem_nil
  | cons m rest =>
    obtain ⟨hm, hrest⟩ := hfold rest m
    refine Int.lt_add_one_of_le ?_
    rcases List.mem_cons.mp h with rfl | h
    · exact hm
    · exact hrest n h

variable {now : Utc} {record : Json} {b : Booking} {p : Participant}

/-- A participant has the id and a valid name of its record. -/
theorem participantOf_eq_ok (h : participantOf record = .ok p) :
    (∃ value id, recordField record "id" = .ok value ∧ readId value = .ok id ∧ p.id = some id) ∧
      ValidName p.name := by
  obtain ⟨name, -, h⟩ := bind_eq_ok.mp h
  obtain ⟨value, hvalue, h⟩ := bind_eq_ok.mp h
  obtain ⟨id, hread, h⟩ := bind_eq_ok.mp h
  obtain ⟨hid, hname⟩ := Participant.make_eq_ok (mapError_eq_ok.mp h)
  exact ⟨⟨value, id, hvalue, hread, hid⟩, hname⟩

/-- A booking has the id and the people of its record. -/
theorem bookingOf_eq_ok (h : bookingOf now record = .ok b) :
    (∃ value id, recordField record "id" = .ok value ∧ readId value = .ok id ∧ b.id = some id) ∧
      (∃ ids items, recordField record "participantIds" = .ok ids ∧ elements ids = .ok items ∧
        items.mapM PersonRef.ofJson = .ok b.people) ∧ b.Valid := by
  unfold bookingOf at h
  obtain ⟨ids, hids, h⟩ := bind_eq_ok.mp h
  obtain ⟨items, hitems, h⟩ := bind_eq_ok.mp h
  -- Four steps read the times.
  obtain ⟨_, -, h⟩ := bind_eq_ok.mp h
  obtain ⟨_, -, h⟩ := bind_eq_ok.mp h
  obtain ⟨_, -, h⟩ := bind_eq_ok.mp h
  obtain ⟨_, -, h⟩ := bind_eq_ok.mp h
  obtain ⟨value, hvalue, h⟩ := bind_eq_ok.mp h
  obtain ⟨id, hread, h⟩ := bind_eq_ok.mp h
  obtain ⟨start, -, h⟩ := bind_eq_ok.mp h
  obtain ⟨stop, -, h⟩ := bind_eq_ok.mp h
  split at h
  · cases h
  · obtain ⟨people, hpeople, h⟩ := bind_eq_ok.mp h
    obtain ⟨rfl, hvalid⟩ := Booking.ofUtc_eq_ok_iff.mp (mapError_eq_ok.mp h)
    exact ⟨⟨value, id, hvalue, hread, rfl⟩, ⟨ids, items, hids, hitems, hpeople⟩, hvalid⟩

theorem ofEntities_valid {participants : List Participant} {bookings : List Booking}
    (hids : ∀ p ∈ participants, (∃ id, p.id = some id) ∧ ValidName p.name)
    (honce : (participants.map (·.id)).Nodup)
    (hbookings : ∀ b ∈ bookings, (∃ id, b.id = some id) ∧ b.Valid) :
    (ofEntities participants bookings).Valid where
  participantIds := fun p hp => by
    obtain ⟨id, hid⟩ := (hids p hp).1
    exact ⟨id, hid, lt_idAfter (List.mem_filterMap.mpr ⟨p, hp, hid⟩)⟩
  participantsOnce := honce
  names := fun p hp => (hids p hp).2
  bookingIds := fun b hb => by
    obtain ⟨id, hid⟩ := (hbookings b hb).1
    exact ⟨id, hid, lt_idAfter (List.mem_filterMap.mpr ⟨b, hb, hid⟩)⟩
  bookingRules := fun b hb => (hbookings b hb).2

/-- The participants of records, taken in one after another, are those of the records. -/
theorem mem_of_foldlM {records : List Json} {found out : List Participant}
    (h : records.foldlM (fun found record => (participantOf record).map (putParticipant found))
      found = .ok out) :
    ∀ p ∈ out, p ∈ found ∨ ∃ record ∈ records, participantOf record = .ok p := by
  induction records generalizing found with
  | nil =>
    cases h
    exact fun p hp => .inl hp
  | cons record rest ih =>
    rw [List.foldlM_cons] at h
    obtain ⟨next, hnext, h⟩ := bind_eq_ok.mp h
    obtain ⟨q, hq, rfl⟩ := map_eq_ok.mp hnext
    intro p hp
    rcases ih h p hp with hp | ⟨record', hrecord', hp⟩
    · rcases mem_putParticipant hp with rfl | hp
      · exact .inr ⟨record, List.mem_cons_self, hq⟩
      · exact .inl hp
    · exact .inr ⟨record', List.mem_cons_of_mem _ hrecord', hp⟩

/-- They keep ids of their own. -/
theorem foldlM_nodup {records : List Json} {found out : List Participant}
    (h : records.foldlM (fun found record => (participantOf record).map (putParticipant found))
      found = .ok out) (honce : (found.map (·.id)).Nodup) : (out.map (·.id)).Nodup := by
  induction records generalizing found with
  | nil =>
    cases h
    exact honce
  | cons record rest ih =>
    rw [List.foldlM_cons] at h
    obtain ⟨next, hnext, h⟩ := bind_eq_ok.mp h
    obtain ⟨p, -, rfl⟩ := map_eq_ok.mp hnext
    exact ih h (putParticipant_nodup p honce)

/-- The store of a document is one of the participants and the bookings of records. -/
theorem ofFields_eq_ok {fields : List (String × Json)} (h : ofFields now fields = .ok s) :
    ∃ ps bs participants bookings, s = ofEntities participants bookings ∧
      records fields "participants" = .ok ps ∧ records fields "bookings" = .ok bs ∧
      (∀ p ∈ participants, ∃ record ∈ ps, participantOf record = .ok p) ∧
      (participants.map (·.id)).Nodup ∧
      ∀ b ∈ bookings, ∃ record ∈ bs, bookingOf now record = .ok b := by
  unfold ofFields at h
  obtain ⟨ps, hps, h⟩ := bind_eq_ok.mp h
  obtain ⟨participants, hparticipants, h⟩ := bind_eq_ok.mp h
  obtain ⟨bs, hbs, h⟩ := bind_eq_ok.mp h
  obtain ⟨bookings, hbookings, h⟩ := bind_eq_ok.mp h
  cases h
  refine ⟨ps, bs, participants, bookings, rfl, hps, hbs, ?_, foldlM_nodup hparticipants
    List.nodup_nil, mem_of_mapM hbookings⟩
  intro p hp
  exact (mem_of_foldlM hparticipants p hp).resolve_left List.not_mem_nil

/-- **A store read from a document is valid.** -/
theorem ofFields_valid {fields : List (String × Json)} (h : ofFields now fields = .ok s) :
    s.Valid := by
  obtain ⟨ps, bs, participants, bookings, rfl, -, -, hparticipants, honce, hbookings⟩ :=
    ofFields_eq_ok h
  refine ofEntities_valid ?_ honce ?_
  · intro p hp
    obtain ⟨record, -, hrecord⟩ := hparticipants p hp
    obtain ⟨⟨-, id, -, -, hid⟩, hname⟩ := participantOf_eq_ok hrecord
    exact ⟨⟨id, hid⟩, hname⟩
  · intro b hb
    obtain ⟨record, -, hrecord⟩ := hbookings b hb
    obtain ⟨⟨-, id, -, -, hid⟩, -, hvalid⟩ := bookingOf_eq_ok hrecord
    exact ⟨⟨id, hid⟩, hvalid⟩

end Store

end Meetings
