/-
A store is read back from its document.

* `Booking.Legible`, `Legible` — references to people that are numbers are ones of the
  format, as all are that were read;
* `participantOf_record`, `bookingOf_record` — records are read back;
* `document_plain` — a document that can be written whole is plain JSON;
* **`ofDocument_document`** — the store of the document of a valid store, whose
  participants are then in the order of their ids;
* `ofFields_legible` — the store of a legible document is legible.
-/
import Meetings.Proofs.Json.Legible
import Meetings.Proofs.Json.RoundTrip
import Meetings.Proofs.Moment.Reading
import Meetings.Proofs.Store.Valid

namespace Meetings

/-- References to people that are numbers, and not whole ones, are of the format. -/
def Booking.Legible (b : Booking) : Prop := ∀ x, .real x ∈ b.people → x.Fits

namespace Store

variable {s : Store}

/-- All bookings are legible. -/
def Legible (s : Store) : Prop := ∀ b ∈ s.bookings, b.Legible

theorem Numbered.legible (h : s.Numbered) : s.Legible := by
  intro b hb x hx
  obtain ⟨n, hn⟩ := h b hb _ hx
  cases hn

theorem participantOf_record {p : Participant} {id : Int} (hid : p.id = some id)
    (hname : ValidName p.name) : participantOf (participantRecord p) = .ok p := by
  obtain ⟨pid, name⟩ := p
  cases hid
  have hmake : Participant.make (some id) (.str name) = .ok ⟨some id, name⟩ :=
    map_eq_ok.mpr ⟨name, checkNameText_eq_ok_iff.mpr ⟨hname, rfl⟩, rfl⟩
  have hfield : recordField (participantRecord ⟨some id, name⟩) "name" = .ok (.str name) := rfl
  have hid : recordField (participantRecord ⟨some id, name⟩) "id" = .ok (.int id) := rfl
  rw [participantOf, hfield, ok_bind, hid, ok_bind, readId, ok_bind, hmake]
  rfl

/-- A reference is read back from any scalar. -/
theorem mapM_ofJson (people : List PersonRef) :
    (people.map PersonRef.toJson).mapM PersonRef.ofJson = .ok people := by
  refine mapM_map_ok fun r _ => ?_
  cases r with
  | number n => rfl
  | text s => rfl
  | real x => rfl
  | flag b => rfl
  | missing => rfl

theorem readTime_zulu (now m : Utc) :
    readTime now (.str (Utc.zulu m)) = .ok (.moment m.zoned) := by
  rw [readTime, readMoment_zulu]
  rfl

theorem readingUtc_zoned (m : Utc) : readingUtc (.moment m.zoned) = .ok m := by
  have hutc : m.zoned.toUtc = .ok m := Moment.toUtc_utc m
  rw [readingUtc, hutc]
  rfl

theorem bookingOf_record {b : Booking} {id : Int} (now : Utc) (hid : b.id = some id)
    (hb : b.Valid) : bookingOf now (bookingRecord b) = .ok b := by
  obtain ⟨bid, people, start, stop⟩ := b
  cases hid
  have htimes : Booking.timesFault start stop = none := by
    rw [Booking.timesFault, if_neg (Int.not_le.mpr hb.1), if_pos hb.2.1]
  have hmake : Booking.ofUtc (some id) people start stop = .ok ⟨some id, people, start, stop⟩ :=
    Booking.ofUtc_eq_ok_iff.mpr ⟨rfl, hb⟩
  have hids : recordField (bookingRecord ⟨some id, people, start, stop⟩) "participantIds" =
      .ok (.arr (people.map PersonRef.toJson)) := rfl
  have hstart : recordField (bookingRecord ⟨some id, people, start, stop⟩) "start" =
      .ok (.str (Utc.zulu start)) := rfl
  have hstop : recordField (bookingRecord ⟨some id, people, start, stop⟩) "end" =
      .ok (.str (Utc.zulu stop)) := rfl
  have hid : recordField (bookingRecord ⟨some id, people, start, stop⟩) "id" = .ok (.int id) := rfl
  rw [bookingOf, hids, ok_bind, elements, ok_bind, hstart, ok_bind, readTime_zulu, ok_bind, hstop,
    ok_bind, readTime_zulu, ok_bind, hid, ok_bind, readId, ok_bind, readingUtc_zoned, ok_bind,
    readingUtc_zoned, ok_bind, htimes]
  dsimp only
  rw [mapM_ofJson people, ok_bind, hmake]
  rfl

/-! ### The document -/

theorem mem_participantList {p : Participant} : p ∈ s.participantList ↔ p ∈ s.participants :=
  List.mem_mergeSort

theorem participantList_nodup (h : (s.participants.map (·.id)).Nodup) :
    (s.participantList.map (·.id)).Nodup :=
  ((List.mergeSort_perm _ _).map _).nodup_iff.mpr h

/-- Participants under ids of their own are taken in as they are. -/
theorem foldlM_records {participants found : List Participant}
    (hids : ∀ p ∈ participants, (∃ id, p.id = some id) ∧ ValidName p.name)
    (honce : ((found ++ participants).map (·.id)).Nodup) :
    (participants.map participantRecord).foldlM
      (fun found record => (participantOf record).map (putParticipant found)) found =
      .ok (found ++ participants) := by
  induction participants generalizing found with
  | nil =>
    rw [List.append_nil]
    rfl
  | cons p rest ih =>
    rw [List.forall_mem_cons] at hids
    obtain ⟨⟨⟨id, hid⟩, hname⟩, hrest⟩ := hids
    -- The id is new, so the participant comes last.
    have hnew : p.id ∉ found.map (·.id) := by
      rw [List.map_append, List.nodup_append] at honce
      exact fun hmem => honce.2.2 p.id hmem p.id List.mem_cons_self rfl
    rw [List.map_cons, List.foldlM_cons, participantOf_record hid hname]
    show (rest.map participantRecord).foldlM _ (putParticipant found p) = _
    rw [putParticipant_append hnew, ih hrest (by rwa [List.append_assoc]), List.append_assoc]
    rfl

/-- **A valid store is read back from its document.** -/
theorem ofDocument_document (now : Utc) (hs : s.Valid) :
    ofDocument? now s.document = some (.ok (ofEntities s.participantList s.bookings)) := by
  have hparticipants : (s.participantList.map participantRecord).foldlM
      (fun found record => (participantOf record).map (putParticipant found)) [] =
      .ok s.participantList := by
    refine foldlM_records (fun p hp => ?_) (participantList_nodup hs.participantsOnce)
    have hp := mem_participantList.mp hp
    obtain ⟨id, hid, -⟩ := hs.participantIds p hp
    exact ⟨⟨id, hid⟩, hs.names p hp⟩
  have hbookings : (s.bookings.map bookingRecord).mapM (bookingOf now) = .ok s.bookings := by
    refine mapM_map_ok fun b hb => ?_
    obtain ⟨id, hid, -⟩ := hs.bookingIds b hb
    exact bookingOf_record now hid (hs.bookingRules b hb)
  have hlists : records [
      ("participants", .arr (s.participantList.map participantRecord)),
      ("bookings", .arr (s.bookings.map bookingRecord))] "participants" =
      .ok (s.participantList.map participantRecord) := rfl
  have hlists' : records [
      ("participants", .arr (s.participantList.map participantRecord)),
      ("bookings", .arr (s.bookings.map bookingRecord))] "bookings" =
      .ok (s.bookings.map bookingRecord) := rfl
  show some (ofFields now _) = _
  rw [ofFields, hlists, ok_bind, hparticipants, ok_bind, hlists', ok_bind, hbookings, ok_bind]
  rfl

/-! ### Documents that can be written whole -/

theorem overlong_of_cutChars {level : Nat} {n : Int} (h : Json.cutChars level (.int n) = none) :
    Json.overlong n = false := by
  cases ho : Json.overlong n with
  | false => rfl
  | true =>
    rw [Json.cutChars, if_pos ho] at h
    cases h

theorem participantRecord_plain {p : Participant} {id : Int} {level depth : Nat}
    (hid : p.id = some id) (h : Json.cutChars level (participantRecord p) = none) :
    Json.Plain (depth + 1) (participantRecord p) := by
  rw [participantRecord, Json.cutChars, Json.cutFields_eq_none, hid] at h
  have hshort := overlong_of_cutChars (h _ List.mem_cons_self)
  refine .obj (show ["id", "name"].Nodup by decide) fun f hf => ?_
  rw [hid] at hf
  simp only [List.mem_cons, List.not_mem_nil, or_false] at hf
  rcases hf with rfl | rfl
  · exact .int hshort
  · exact .str

theorem bookingRecord_plain {b : Booking} {id : Int} {level depth : Nat} (hid : b.id = some id)
    (hpeople : b.Legible) (h : Json.cutChars level (bookingRecord b) = none) :
    Json.Plain (depth + 2) (bookingRecord b) := by
  rw [bookingRecord, Json.cutChars, Json.cutFields_eq_none, hid] at h
  have hshort := overlong_of_cutChars (h _ List.mem_cons_self)
  have hids := h _ (List.mem_cons_of_mem _ List.mem_cons_self)
  rw [Json.cutChars, Json.cutItems_eq_none] at hids
  refine .obj (show ["id", "participantIds", "start", "end"].Nodup by decide) fun f hf => ?_
  rw [hid] at hf
  simp only [List.mem_cons, List.not_mem_nil, or_false] at hf
  rcases hf with rfl | rfl | rfl | rfl
  · exact .int hshort
  · refine .arr fun v hv => ?_
    have hcut := hids v hv
    obtain ⟨r, hr, rfl⟩ := List.mem_map.mp hv
    cases r with
    | number n => exact .int (overlong_of_cutChars hcut)
    | text s => exact .str
    | real x => exact .real (hpeople x hr)
    | flag b => exact .bool
    | missing => exact .null
  · exact .str
  · exact .str

/-- A document that can be written whole is read back. -/
theorem document_plain (hs : s.Valid) (hl : s.Legible) (h : s.document.cut = none) :
    Json.Plain Json.depthLimit s.document := by
  have hcut := Option.map_eq_none_iff.mp h
  rw [document, Json.cutChars, Json.cutFields_eq_none] at hcut
  have hparticipants := hcut _ List.mem_cons_self
  have hbookings := hcut _ (List.mem_cons_of_mem _ List.mem_cons_self)
  rw [Json.cutChars, Json.cutItems_eq_none] at hparticipants hbookings
  refine .obj (show ["participants", "bookings"].Nodup by decide) fun f hf => ?_
  simp only [List.mem_cons, List.not_mem_nil, or_false] at hf
  rcases hf with rfl | rfl
  · refine .arr fun v hv => ?_
    have hv' := hparticipants v hv
    obtain ⟨p, hp, rfl⟩ := List.mem_map.mp hv
    obtain ⟨id, hid, -⟩ := hs.participantIds p (mem_participantList.mp hp)
    exact participantRecord_plain hid hv'
  · refine .arr fun v hv => ?_
    have hv' := hbookings v hv
    obtain ⟨b, hb, rfl⟩ := List.mem_map.mp hv
    obtain ⟨id, hid, -⟩ := hs.bookingIds b hb
    exact bookingRecord_plain hid (hl b hb) hv'

/-! ### What is read is legible -/

theorem lookupField_legible {fields : List (String × Json)} {key : String} {v : Json}
    (hfields : ∀ f ∈ fields, f.2.Legible) (h : lookupField fields key = some v) : v.Legible := by
  obtain ⟨f, hf, rfl⟩ := Option.map_eq_some_iff.mp h
  exact hfields f (List.mem_of_find?_eq_some hf)

theorem elements_legible {v : Json} {items : List Json} (hv : v.Legible)
    (h : elements v = .ok items) : ∀ item ∈ items, item.Legible := by
  unfold elements at h
  split at h
  · cases h
    cases hv with
    | arr each => exact each
  · cases h
    exact List.forall_mem_map.mpr fun c _ => .str
  · cases h
    exact List.forall_mem_map.mpr fun f _ => .str
  · cases h

theorem recordField_legible {record v : Json} {key : String} (hrecord : record.Legible)
    (h : recordField record key = .ok v) : v.Legible := by
  unfold recordField at h
  split at h
  · split at h
    · next hfield =>
      cases h
      cases hrecord with
      | obj each => exact lookupField_legible each hfield
    · cases h
  · cases h
  · cases h
  · cases h

/-- A reference is that of its value and of no other one. -/
theorem toJson_of_ofJson {v : Json} {r : PersonRef} (h : PersonRef.ofJson v = .ok r) :
    v = r.toJson := by
  cases v with
  | arr items => cases h
  | obj fields => cases h
  | _ =>
    cases h
    rfl

theorem records_legible {fields : List (String × Json)} {key : String} {out : List Json}
    (hfields : ∀ f ∈ fields, f.2.Legible) (h : records fields key = .ok out) :
    ∀ record ∈ out, record.Legible := by
  unfold records at h
  split at h
  · next v hv => exact elements_legible (lookupField_legible hfields hv) h
  · cases h
    exact fun record hrecord => absurd hrecord List.not_mem_nil

/-- The references of a booking are those of its record. -/
theorem bookingOf_legible {now : Utc} {record : Json} {b : Booking} (hrecord : record.Legible)
    (h : bookingOf now record = .ok b) : b.Legible := by
  obtain ⟨-, ⟨ids, items, hids, hitems, hpeople⟩, -⟩ := bookingOf_eq_ok h
  have hlegible := elements_legible (recordField_legible hrecord hids) hitems
  intro x hx
  obtain ⟨item, hitem, href⟩ := mem_of_mapM hpeople _ hx
  rw [toJson_of_ofJson href] at hitem
  cases hlegible _ hitem with
  | real fits => exact fits

/-- **A store that is read from a legible document is legible.** -/
theorem ofFields_legible {now : Utc} {fields : List (String × Json)}
    (hfields : ∀ f ∈ fields, f.2.Legible) (h : ofFields now fields = .ok s) : s.Legible := by
  obtain ⟨ps, bs, participants, bookings, rfl, -, hbs, -, -, hbookings⟩ := ofFields_eq_ok h
  intro b hb
  obtain ⟨record, hrecord, hbooking⟩ := hbookings b hb
  exact bookingOf_legible (records_legible hfields hbs record hrecord) hbooking

end Store

end Meetings
