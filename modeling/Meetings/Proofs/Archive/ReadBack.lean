/-
Loading undoes saving.

* `Store.Short`, `document_cut_eq_none_iff` — a document can be written whole
  exactly if no number in it has too many digits;
* `Store.Same` — two stores with the same participants, the same bookings in the
  same order and the same ids to be given next;
* `Sound.same_reloaded` — a sound store is loaded as the same store;
* **`load_undoes_save`** — what is written of a sound store is its text, and any
  load of that text gives the same store;
* `long_id_not_saved` — the file of a store with a longer number is not written.

Design notes: participants are kept as they came and written by id, so the store
that is loaded may list them in another order.
-/
import Meetings.Proofs.Office.Refinement
import Meetings.Proofs.Store.Sound

namespace Meetings

open Text (decimalChars encodeUtf8)

/-! ### Numbers that can be written -/

theorem Json.cutChars_int {level : Nat} {n : Int} :
    cutChars level (.int n) = none ↔ n.natAbs < 10 ^ numeralLimit := by
  rw [cutChars, ← overlong_eq_false_iff]
  cases overlong n with
  | false => simp
  | true => simp

theorem Json.cutChars_str {level : Nat} {text : String} : cutChars level (.str text) = none := by
  simp [cutChars]

/-- No whole number of a store has more digits than are written. -/
structure Store.Short (s : Store) : Prop where
  participantIds : ∀ p ∈ s.participants, ∀ id, p.id = some id → id.natAbs < 10 ^ numeralLimit
  bookingIds : ∀ b ∈ s.bookings, ∀ id, b.id = some id → id.natAbs < 10 ^ numeralLimit
  people : ∀ b ∈ s.bookings, ∀ n, .number n ∈ b.people → n.natAbs < 10 ^ numeralLimit

/-- Two stores with the same participants, the same bookings in the same order,
and the same ids to be given next. -/
structure Store.Same (s t : Store) : Prop where
  participants : s.participants.Perm t.participants
  bookings : s.bookings = t.bookings
  nextParticipant : s.nextParticipant = t.nextParticipant
  nextBooking : s.nextBooking = t.nextBooking

namespace Store

variable {s : Store}

theorem cutChars_id {level : Nat} {id : Option Int} :
    Json.cutChars level ((id.map Json.int).getD .null) = none ↔
      ∀ n, id = some n → n.natAbs < 10 ^ numeralLimit := by
  cases id with
  | none => simp [Json.cutChars]
  | some n => simp [Json.cutChars_int]

theorem cutChars_person {level : Nat} {r : PersonRef} :
    Json.cutChars level r.toJson = none ↔ ∀ n, r = .number n → n.natAbs < 10 ^ numeralLimit := by
  cases r with
  | number n => simp [PersonRef.toJson, Json.cutChars_int]
  | _ => simp [PersonRef.toJson, Json.cutChars]

theorem cutChars_participantRecord {level : Nat} {p : Participant} :
    Json.cutChars level (participantRecord p) = none ↔
      ∀ id, p.id = some id → id.natAbs < 10 ^ numeralLimit := by
  rw [participantRecord, Json.cutChars, Json.cutFields_eq_none]
  simp only [List.forall_mem_cons, cutChars_id, Json.cutChars_str, List.not_mem_nil, false_implies,
    implies_true, and_true]

theorem cutChars_bookingRecord {level : Nat} {b : Booking} :
    Json.cutChars level (bookingRecord b) = none ↔
      (∀ id, b.id = some id → id.natAbs < 10 ^ numeralLimit) ∧
        ∀ n, .number n ∈ b.people → n.natAbs < 10 ^ numeralLimit := by
  have hpeople : Json.cutChars (level + 1) (.arr (b.people.map PersonRef.toJson)) = none ↔
      ∀ n, .number n ∈ b.people → n.natAbs < 10 ^ numeralLimit := by
    rw [Json.cutChars, Json.cutItems_eq_none, List.forall_mem_map]
    simp only [cutChars_person]
    constructor
    · intro h n hn
      exact h _ hn n rfl
    · rintro h r hr n rfl
      exact h n hr
  rw [bookingRecord, Json.cutChars, Json.cutFields_eq_none]
  simp only [List.forall_mem_cons, cutChars_id, hpeople, Json.cutChars_str, List.not_mem_nil,
    false_implies, implies_true, and_true]

/-- The document of a store can be written whole exactly if all its numbers are
short. -/
theorem document_cut_eq_none_iff : s.document.cut = none ↔ s.Short := by
  have hparticipants : Json.cutChars 1 (.arr (s.participantList.map participantRecord)) = none ↔
      ∀ p ∈ s.participants, ∀ id, p.id = some id → id.natAbs < 10 ^ numeralLimit := by
    rw [Json.cutChars, Json.cutItems_eq_none, List.forall_mem_map]
    simp only [cutChars_participantRecord, mem_participantList]
  have hbookings : Json.cutChars 1 (.arr (s.bookings.map bookingRecord)) = none ↔
      ∀ b ∈ s.bookings, (∀ id, b.id = some id → id.natAbs < 10 ^ numeralLimit) ∧
        ∀ n, .number n ∈ b.people → n.natAbs < 10 ^ numeralLimit := by
    rw [Json.cutChars, Json.cutItems_eq_none, List.forall_mem_map]
    simp only [cutChars_bookingRecord]
  rw [Json.cut, Option.map_eq_none_iff, document, Json.cutChars, Json.cutFields_eq_none,
    List.forall_mem_cons, List.forall_mem_cons, hparticipants, hbookings]
  constructor
  · rintro ⟨hp, hb, -⟩
    exact ⟨hp, fun b h => (hb b h).1, fun b h => (hb b h).2⟩
  · rintro ⟨hp, hids, hpeople⟩
    exact ⟨hp, fun b h => ⟨hids b h, hpeople b h⟩, fun f hf => absurd hf List.not_mem_nil⟩

/-- A sound store is loaded as the same store. -/
theorem Sound.same_reloaded (hs : s.Sound) : s.Same (Archive.reloaded s) where
  participants := (List.mergeSort_perm _ _).symm
  bookings := rfl
  nextParticipant := by
    -- The order in which the ids are written does not matter.
    have hperm : s.participants.Perm s.participantList := (List.mergeSort_perm _ _).symm
    exact (nextAfter_iff.mp (hs.nextParticipant.perm (hperm.filterMap _))).symm
  nextBooking := (nextAfter_iff.mp hs.nextBooking).symm

end Store

namespace Archive

variable {a : Archive} {s : Store}

/-- **Loading undoes saving.**  If no number of a sound store is too long, what
is written of the store is its text; any load of that text gives the same store,
as does any load of the file, once it is written. -/
theorem load_undoes_save (hs : s.Sound) (hn : s.Numbered) (hshort : s.Short) :
    (∀ file disk, write s file disk =
      ((disk.save file (encodeUtf8 (fileText s))).1.map (savingFault file),
        (disk.save file (encodeUtf8 (fileText s))).2)) ∧
    ∃ t, s.Same t ∧
      (∀ now file, decode now file (encodeUtf8 (fileText s)) = .ok t) ∧
      ∀ a file, a.store = s → a.file = some file → (keep.runFrom a).1 = .ok () →
        ∀ now, load now file (keep.runFrom a).2.state.disk = .ok t := by
  have hcut : s.document.cut = none := Store.document_cut_eq_none_iff.mpr hshort
  refine ⟨?_, reloaded s, hs.same_reloaded, ?_, ?_⟩
  · intro file disk
    rw [write, hcut]
  · intro now file
    exact decode_fileText hs.valid hn hcut
  · rintro a file rfl hfile hkeep now
    obtain ⟨hanswer, hstate⟩ := (gives_keep a).runFrom
    have hkept : (kept a).1 = none := by
      rw [hanswer] at hkeep
      cases hfault : (kept a).1 with
      | none => rfl
      | some fault =>
        rw [hfault] at hkeep
        cases hkeep
    rw [hstate]
    exact load_of_kept hfile hs.valid hn hkept now

/-- A store whose participants are not in the order of their ids. -/
def outOfOrder : Store :=
  ⟨[⟨some 2, "\x22Ada\x22"⟩, ⟨some (-7), "Zoë"⟩],
    [⟨some 5, [.number 2, .number (-7)], Moment.saturday 540, Moment.saturday 600⟩], 3, 6⟩

theorem outOfOrder_sound : outOfOrder.Sound := by
  -- The store is the one of a document, and thus sound.
  have hfields : Store.ofFields (Moment.saturday 0) [
      ("participants", .arr [.obj [("id", .int 2), ("name", .str "\x22Ada\x22")],
        .obj [("id", .int (-7)), ("name", .str "Zoë")]]),
      ("bookings", .arr [.obj [("id", .int 5), ("participantIds", .arr [.int 2, .int (-7)]),
        ("start", .str "2024-06-15T09:00Z"), ("end", .str "2024-06-15T10:00Z")]])] =
      .ok outOfOrder := by cbv
  exact Store.ofFields_sound hfields

theorem load_undoes_save_outOfOrder : ∃ t, outOfOrder.Same t ∧
    ∀ now file, decode now file (encodeUtf8 (fileText outOfOrder)) = .ok t := by
  have hshort : outOfOrder.Short := Store.document_cut_eq_none_iff.mp (by cbv)
  have hnumbered : outOfOrder.Numbered := by simp [Store.Numbered, outOfOrder]
  obtain ⟨-, t, hsame, hdecode, -⟩ := load_undoes_save outOfOrder_sound hnumbered hshort
  exact ⟨t, hsame, hdecode⟩

/-! ### Numbers that cannot be written -/

/-- A store with the largest id that can be written. -/
def fullest : Store :=
  ⟨[⟨some (10 ^ numeralLimit - 1), "Ada"⟩], [], 10 ^ numeralLimit, 1⟩

theorem fullest_sound : fullest.Sound where
  participantIds := by
    intro p hp
    have hid : p.id = some (10 ^ numeralLimit - 1) := by rw [List.mem_singleton.mp hp]
    exact ⟨_, hid, Store.participant?_of_mem (List.nodup_singleton _) hp hid⟩
  participantsOnce := List.nodup_singleton _
  names := by
    intro p hp
    rw [List.mem_singleton.mp hp]
    decide
  bookingIds := fun b hb => absurd hb List.not_mem_nil
  bookingRules := fun b hb => absurd hb List.not_mem_nil
  nextParticipant := by
    refine .inr ⟨10 ^ numeralLimit - 1, List.mem_singleton_self _, (sub_add_cancel _ _).symm, ?_⟩
    intro id hid
    exact le_of_eq (List.mem_singleton.mp hid)
  nextBooking := .inl ⟨rfl, rfl⟩

/-- One more participant, and the store is too long. -/
theorem fullest_joined_not_short : ¬(fullest.joined "Bob").Short := by
  intro hshort
  have hlast : (⟨some (10 ^ numeralLimit), "Bob"⟩ : Participant) ∈
      (fullest.joined "Bob").participants := by
    rw [fullest_sound.joined_participants]
    exact List.mem_append_right _ (List.mem_singleton_self _)
  have hlt := hshort.participantIds _ hlast _ rfl
  rw [Json.natAbs_ten_pow] at hlt
  exact Nat.lt_irrefl _ hlt

/-- **A store with a longer id is not saved.**  The participant that follows the
one with the largest id that can be written stays in the store only: the file is
not written, and no load gives that store. -/
theorem long_id_not_saved :
    let a : Archive := ⟨fullest.joined "Bob", some Office.direct, Office.lone none⟩
    a.store.Sound ∧ a.store.Numbered ∧
      (keep.runFrom a).1 = .error (.numeral .tooLongToWrite) ∧
      ∀ now t, load now Office.direct (keep.runFrom a).2.state.disk = .ok t → ¬a.store.Same t := by
  intro a
  have hsound : a.store.Sound := fullest_sound.joined (by decide)
  have htemporary (bytes : List UInt8) : (Office.lone none).writeTemporary Office.direct bytes =
      (none, ⟨[], [(["m.json.tmp"], .file bytes)], none, []⟩) := by cbv
  have hcontent (bytes : List UInt8) :
      Disk.content ⟨[], [(["m.json.tmp"], .file bytes)], none, []⟩ Office.direct = none := by cbv
  obtain ⟨written, hcut⟩ : ∃ written, a.store.document.cut = some written :=
    Option.ne_none_iff_exists'.mp (mt Store.document_cut_eq_none_iff.mp fullest_joined_not_short)
  have hkept : kept a = (some (.numeral .tooLongToWrite),
      { a with disk := ⟨[], [(["m.json.tmp"], .file (encodeUtf8 written))], none, []⟩ }) := by
    have hdisk : a.disk = Office.lone none := rfl
    simp only [kept_of_file (show a.file = some Office.direct from rfl), write, hcut, hdisk,
      htemporary]
    rfl
  obtain ⟨hanswer, hstate⟩ := (gives_keep a).runFrom
  rw [hanswer, hstate, hkept]
  refine ⟨hsound, fun b hb => absurd hb List.not_mem_nil, rfl, ?_⟩
  -- There still is no file, so the store that is loaded is empty.
  intro now t hload hsame
  rw [load_eq, hcontent] at hload
  cases hload
  have hnobody : (fullest.joined "Bob").participants = [] := hsame.participants.eq_nil
  rw [fullest_sound.joined_participants] at hnobody
  exact List.append_ne_nil_of_right_ne_nil _ (List.cons_ne_nil _ _) hnobody

end Archive

end Meetings
