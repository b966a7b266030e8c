/-
What was answered is what is kept.

* `registered?`, `scheduled?` — the participant and the view that an answer tells of;
* `Store.Recounts` — a store holds the participants and the bookings that some
  answers tell of, and nothing else, in the order of these answers;
* `Change.Tells`, `change_tells` — what an operation puts in the place of a store,
  it tells of in its answer;
* `Recounts.after` — in memory a store recounts all answers of a session;
* `Office.BeginsEmpty` — nothing was kept yet, in memory or in a file;
* `perform_bookings_unknown` — a listing for somebody who is not known;
* **`bookings_eq_history`** — the bookings of a participant are the views that were
  answered so far and in which it takes part;
* `listing_cannot_be_refused` — not so for a number that cannot be written in the
  refusal.

Design notes: a session on a file is followed in memory, where opening an archive
anew is nothing; that the answers are the same is `Mirrors.session`.
-/
import Meetings.Proofs.Office.Agreement
import Meetings.Proofs.Office.Refinement
import Meetings.Proofs.Office.Views

namespace Meetings

open Archive (replaced)

/-- The participant that an answer says was registered. -/
def registered? : Except Fault Answer → Option Participant
  | .ok (.participant (.ok p)) => some p
  | _ => none

/-- The view of the booking that an answer says was made. -/
def scheduled? : Except Fault Answer → Option BookingView
  | .ok (.booking (.ok view)) => some view
  | _ => none

namespace Store

variable {s : Store} {said : List (Except Fault Answer)} {v : BookingView} {name : String}

/-- The store holds what the answers tell of, in their order. -/
structure Recounts (s : Store) (said : List (Except Fault Answer)) : Prop where
  valid : s.Valid
  participants : s.participants = said.filterMap registered?
  bookings : s.bookings = (said.filterMap scheduled?).map (·.booking)
  shows : ∀ v ∈ said.filterMap scheduled?, s.Shows v
  once : (s.bookings.map (·.id)).Nodup

theorem empty_recounts : empty.Recounts [] where
  valid := empty_valid
  participants := rfl
  bookings := rfl
  shows := by simp
  once := List.nodup_nil

/-- Who is known stays known as it was. -/
theorem Shows.joined (hs : s.Valid) (h : s.Shows v) (name : String) : (s.joined name).Shows v := by
  obtain ⟨people, honce, hpeople, hrecords⟩ := h
  refine ⟨people, honce, hpeople, ?_⟩
  rw [← hrecords]
  refine List.map_congr_left ?_
  intro id hid
  have hknown : s.participant? id ∈ v.participants.map some := hrecords ▸ List.mem_map_of_mem hid
  obtain ⟨p, -, hp⟩ := List.mem_map.mp hknown
  have hfound : s.participants.find? (fun p => p.id == some id) = some p := hp.symm
  rw [participant?, hs.joined_participants, List.find?_append, hfound]
  exact hp

/-- An answer that tells of nothing new. -/
theorem Recounts.quiet (h : s.Recounts said) {answer : Except Fault Answer}
    (hregistered : registered? answer = none) (hscheduled : scheduled? answer = none) :
    s.Recounts (said ++ [answer]) := by
  have hparticipants : (said ++ [answer]).filterMap registered? = said.filterMap registered? := by
    simp [hregistered]
  have hviews : (said ++ [answer]).filterMap scheduled? = said.filterMap scheduled? := by
    simp [hscheduled]
  refine ⟨h.valid, ?_, ?_, ?_, h.once⟩
  · rw [hparticipants]
    exact h.participants
  · rw [hviews]
    exact h.bookings
  · rw [hviews]
    exact h.shows

theorem Recounts.joined (h : s.Recounts said) (hname : ValidName name) {answer}
    (hanswer : answer = .ok (.participant (.ok ⟨some s.nextParticipant, name⟩))) :
    (s.joined name).Recounts (said ++ [answer]) := by
  have hscheduled : (said ++ [answer]).filterMap scheduled? = said.filterMap scheduled? := by
    simp [hanswer, scheduled?]
  refine ⟨h.valid.joined hname, ?_, ?_, ?_, h.once⟩
  · rw [h.valid.joined_participants, h.participants]
    simp [hanswer, registered?]
  · rw [hscheduled]
    exact h.bookings
  · rw [hscheduled]
    intro v hv
    exact (h.shows v hv).joined h.valid name

/-- No booking has the id that is given next. -/
theorem Valid.nextBooking_not_mem (hs : s.Valid) : some s.nextBooking ∉ s.bookings.map (·.id) := by
  intro hmem
  obtain ⟨b, hb, hid⟩ := List.mem_map.mp hmem
  obtain ⟨id, hid', hlt⟩ := hs.bookingIds b hb
  have hsame : id = s.nextBooking := Option.some.inj (hid'.symm.trans hid)
  omega

theorem Recounts.booked {people : List Int} {start stop : Utc} {known : List Participant}
    (h : s.Recounts said) (hrules : (⟨none, people.map .number, start, stop⟩ : Booking).Valid)
    (honce : people.Nodup) (hrecords : people.map s.participant? = known.map some) {answer}
    (hanswer : answer =
      .ok (.booking (.ok ⟨s.saved ⟨none, people.map .number, start, stop⟩, known⟩))) :
    (s.booked ⟨none, people.map .number, start, stop⟩).Recounts (said ++ [answer]) := by
  refine ⟨h.valid.booked hrules, ?_, ?_, ?_, ?_⟩
  · show s.participants = _
    rw [h.participants]
    simp [hanswer, registered?]
  · show s.bookings ++ _ = _
    rw [h.bookings]
    simp [hanswer, scheduled?]
  · intro v hv
    rw [List.filterMap_append, List.mem_append] at hv
    rcases hv with hv | hv
    · exact h.shows v hv
    · rw [hanswer] at hv
      obtain rfl := List.mem_singleton.mp hv
      exact ⟨people, honce, rfl, hrecords⟩
  · show ((s.bookings ++ [_]).map _).Nodup
    rw [List.map_append]
    refine List.nodup_append.mpr ⟨h.once, List.nodup_singleton _, ?_⟩
    rintro id hid _ hnew rfl
    rw [List.mem_singleton.mp hnew] at hid
    exact h.valid.nextBooking_not_mem hid

/-- The known participants are those who were registered. -/
theorem Recounts.participant?_ne_none (h : s.Recounts said) {id : Int} :
    s.participant? id ≠ none ↔ ∃ p ∈ said.filterMap registered?, p.id = some id := by
  unfold participant?
  rw [h.participants, ne_eq, List.find?_eq_none]
  push Not
  simp only [beq_iff_eq]

theorem Recounts.shown_nodup (h : s.Recounts said) : (said.filterMap scheduled?).Nodup := by
  have hids := h.once
  rw [h.bookings, List.map_map] at hids
  exact hids.of_map

end Store

/-! ### Operations tell what they change -/

/-- An operation that changes nothing tells of nothing new, and one that puts a
store in the place of a store tells of what that store holds more. -/
inductive Change.Tells (s : Store) : Change Answer → Prop
  | nothing {result : Except Fault Answer} (hregistered : registered? result = none)
      (hscheduled : scheduled? result = none) : Tells s (.answer result)
  | registers {name : String} {told : List Delivery} (hname : ValidName name) :
      Tells s (.put (s.joined name) told
        (.participant (.ok ⟨some s.nextParticipant, name⟩)))
  | books {people : List Int} {start stop : Utc} {known : List Participant}
      {told : List Delivery} (hrules : (⟨none, people.map .number, start, stop⟩ : Booking).Valid)
      (honce : people.Nodup) (hrecords : people.map s.participant? = known.map some) :
      Tells s (.put (s.booked ⟨none, people.map .number, start, stop⟩) told
        (.booking (.ok ⟨s.saved ⟨none, people.map .number, start, stop⟩, known⟩)))

section Tells

variable {s : Store} {set : Settings} {said : List (Except Fault Answer)} {r : MeetingRequest}

/-- That somebody is not known tells of nothing new. -/
theorem notFound_tells (id : Int) :
    ((Change.answer (notFound id)).map Answer.booking).Tells s := by
  unfold notFound
  split
  · exact .nothing rfl rfl
  · exact .nothing rfl rfl

theorem registering_tells (s : Store) (data : Json) :
    ((s.registering data).map .participant).Tells s := by
  unfold Store.registering
  split
  · exact .nothing rfl rfl
  · exact .nothing rfl rfl
  · split
    · exact .nothing rfl rfl
    · next hmake => exact .registers (Participant.make_eq_ok hmake).2

theorem scheduling_tells (s : Store) (set : Settings) (honce : r.people.Nodup) :
    ((s.scheduling set r).map .booking).Tells s := by
  unfold Store.scheduling
  rw [s.participantsAmong_numbers honce, s.missingPeople_eq]
  cases hmissing : r.people.filter fun id => (s.participant? id).isNone with
  | cons first rest => exact notFound_tells first
  | nil =>
    -- Everyone is known, so the view has a record for each of the people.
    have hknown : ∀ id ∈ r.people, s.participant? id ≠ none :=
      Store.known_of_nobody_missing hmissing
    dsimp only
    cases s.slot set.grid r.people r.duration r.earliest.zoned r.latest.zoned with
    | error fault => exact .nothing rfl rfl
    | ok found =>
      cases found with
      | none => exact .nothing rfl rfl
      | some slot =>
        simp only [Change.onSlot, Store.booking]
        cases slot.plusMinutes r.duration with
        | error fault => exact .nothing rfl rfl
        | ok stop =>
          dsimp only
          cases hbooking : Booking.ofUtc none (r.people.map .number) slot stop with
          | error fault => exact .nothing rfl rfl
          | ok b =>
            obtain ⟨rfl, hrules⟩ := Booking.ofUtc_eq_ok_iff.mp hbooking
            refine .books hrules honce ?_
            exact (Store.map_some_records hknown).trans
              (congrArg _ (s.recordsOf_numbers r.people).symm)

theorem finding_tells (s : Store) (set : Settings) (r : MeetingRequest) :
    ((s.finding set r).map .slot).Tells s := by
  unfold Store.finding
  cases s.slot set.grid r.people r.duration r.earliest.zoned r.latest.zoned with
  | error fault => exact .nothing rfl rfl
  | ok found =>
    cases found with
    | none => exact .nothing rfl rfl
    | some slot => exact .nothing rfl rfl

theorem Asked.change_tells {α : Type} {change : MeetingRequest → Change (Except Failure α)}
    {answer : Except Failure α → Answer} (asked : Asked) (limit : Int)
    (hregistered : ∀ failure, registered? (.ok (answer (.error failure))) = none)
    (hscheduled : ∀ failure, scheduled? (.ok (answer (.error failure))) = none)
    (h : ∀ r, asked.parsed limit = .ok (.ok r) → ((change r).map answer).Tells s) :
    ((asked.change limit change).map answer).Tells s := by
  unfold Asked.change
  cases hparsed : asked.parsed limit with
  | error fault => exact .nothing rfl rfl
  | ok parsed =>
    cases parsed with
    | error fault => exact .nothing (hregistered _) (hscheduled _)
    | ok r => exact h r hparsed

/-- **What an operation changes, it tells of.** -/
theorem change_tells (set : Settings) (s : Store) (op : Operation) :
    (op.change set s).Tells s := by
  cases op with
  | create t data => exact registering_tells s data
  | schedule t asked =>
    refine asked.change_tells _ (fun _ => rfl) (fun _ => rfl) ?_
    intro r hr
    exact scheduling_tells s set (asked.rules_of_parsed hr).2.1
  | find t asked =>
    exact asked.change_tells _ (fun _ => rfl) (fun _ => rfl) fun r _ => finding_tells s set r
  | bookings t id =>
    show ((Change.answer (s.views id)).map .views).Tells s
    generalize s.views id = answer
    cases answer with
    | error fault => exact .nothing rfl rfl
    | ok answer => exact .nothing rfl rfl
  | list => exact .nothing rfl rfl

end Tells

/-! ### Sessions -/

namespace Office

variable {o : Office} {said : List (Except Fault Answer)} {id : Int}

/-- In memory a store recounts what was answered before and what a step answers. -/
theorem recounts_step (hmemory : o.archive.file = none)
    (h : o.archive.store.Recounts said) (step : Step) :
    (step.after o).archive.store.Recounts (said ++ step.said o) := by
  cases step with
  | operate set op =>
    -- In memory nothing keeps a store from taking the place of another.
    have hreplaced (store : Store) :
        replaced o.archive store = (none, { o.archive with store := store }) :=
      Archive.kept_of_memory hmemory
    have htells := change_tells set o.archive.store op
    rw [Step.after_operate, Step.said_operate]
    generalize op.change set o.archive.store = change at htells ⊢
    cases htells with
    | nothing hregistered hscheduled => exact h.quiet hregistered hscheduled
    | registers hname =>
      rw [Change.apply_put_saved (congrArg Prod.fst (hreplaced _)), hreplaced]
      exact h.joined hname rfl
    | books hrules honce hrecords =>
      rw [Change.apply_put_saved (congrArg Prod.fst (hreplaced _)), hreplaced]
      exact h.booked hrules honce hrecords rfl
  | reopen now =>
    have hsame : Step.after o (.reopen now) = o := (gives_reopen_memory hmemory).runFrom.2
    rw [hsame, Step.said, List.append_nil]
    exact h
  | refuse refusal =>
    rw [Step.said, List.append_nil]
    exact h

theorem recounts_session (hmemory : o.archive.file = none)
    (h : o.archive.store.Recounts said) (session : List Step) :
    (o.after session).archive.store.Recounts (said ++ o.said session) := by
  induction session generalizing o said with
  | nil =>
    rw [Office.said, List.append_nil]
    exact h
  | cons step rest ih =>
    have hnext := ih ((Step.after_file o step).trans hmemory) (recounts_step hmemory h step)
    rw [Office.said, ← List.append_assoc]
    exact hnext

/-- Nothing was kept yet: the store is empty, and if there is a file, it is read as an
empty store. -/
structure BeginsEmpty (o : Office) : Prop where
  store : o.archive.store = Store.empty
  file : ∀ file, o.archive.file = some file →
    ∃ now, Archive.load now file o.archive.disk = .ok Store.empty

end Office

/-! ### Reading a store without bookings -/

section Reading

variable {s : Store} {now : Utc} {file : Path} {disk : Disk}

/-- The time of reading matters to bookings alone. -/
theorem Store.ofFields_any_time {fields : List (String × Json)}
    (h : ofFields now fields = .ok s) (hnone : s.bookings = []) (now' : Utc) :
    ofFields now' fields = .ok s := by
  unfold ofFields at h ⊢
  obtain ⟨records, hrecords, h⟩ := bind_eq_ok.mp h
  obtain ⟨participants, hparticipants, h⟩ := bind_eq_ok.mp h
  obtain ⟨records', hrecords', h⟩ := bind_eq_ok.mp h
  obtain ⟨bookings, hbookings, h⟩ := bind_eq_ok.mp h
  cases h
  obtain rfl : bookings = [] := hnone
  have hempty : records' = [] := by
    cases records' with
    | nil => rfl
    | cons record rest =>
      rw [List.mapM_cons] at hbookings
      obtain ⟨b, -, hbookings⟩ := bind_eq_ok.mp hbookings
      obtain ⟨bs, -, hbookings⟩ := bind_eq_ok.mp hbookings
      cases hbookings
  rw [hrecords, ok_bind, hparticipants, ok_bind, hrecords', ok_bind, hempty]
  rfl

theorem Store.ofDocument?_any_time {document : Json}
    (h : ofDocument? now document = some (.ok s)) (hnone : s.bookings = []) (now' : Utc) :
    ofDocument? now' document = some (.ok s) := by
  unfold ofDocument? at h ⊢
  split at h
  · next hempty =>
    rw [if_pos hempty, ofFields_any_time (Option.some.inj h) hnone]
  · next hempty =>
    rw [if_neg hempty]
    split at h
    · rw [ofFields_any_time (Option.some.inj h) hnone]
    · cases h

theorem Archive.load_any_time (h : load now file disk = .ok s) (hnone : s.bookings = [])
    (now' : Utc) : load now' file disk = .ok s := by
  rw [load_eq] at h ⊢
  unfold storeHeld at h ⊢
  split at h
  · exact h
  · obtain ⟨bytes, hbytes, h⟩ := bind_eq_ok.mp h
    rw [hbytes, ok_bind]
    unfold decode at h ⊢
    obtain ⟨text, htext, h⟩ := bind_eq_ok.mp h
    rw [htext, ok_bind]
    dsimp only at h ⊢
    split at h
    · cases h
    · cases h
    · cases h
    · split at h
      · cases h
      · next store hdocument =>
        cases h
        rw [Store.ofDocument?_any_time hdocument hnone]
        rfl
      · cases h

end Reading

/-! ### The bookings of a participant -/

namespace Office

variable {o : Office} {session : List Step}

/-- After a session without a failed save, a store recounts all answers. -/
theorem BeginsEmpty.recounts (hempty : o.BeginsEmpty)
    (hsaved : ∀ fault, .error fault ∈ o.said session → fault.isOfSaving = false) :
    (o.after session).archive.store.Recounts (o.said session) := by
  have hstart : o.archive.store.Recounts [] := by
    rw [hempty.store]
    exact Store.empty_recounts
  cases hfile : o.archive.file with
  | none => exact recounts_session hfile hstart session
  | some file =>
    -- The session is followed in memory, where opening an archive anew is nothing.
    obtain ⟨now, hload⟩ := hempty.file file hfile
    let m : Office := ⟨⟨o.archive.store, none, o.archive.disk⟩, o.outbox⟩
    have hmirrors : Mirrors file o m := {
      kept := hfile
      memory := rfl
      store := rfl
      outbox := rfl
      stable := by
        rw [hempty.store]
        exact Store.empty_stable
      loads := by
        intro now'
        rw [hempty.store]
        exact Archive.load_any_time hload rfl now' }
    obtain ⟨hanswers, hafter⟩ := hmirrors.session hsaved
    rw [hanswers, hafter.store]
    exact recounts_session hmirrors.memory hstart _

/-- To somebody unknown a listing is refused, if the refusal can name them. -/
theorem perform_bookings_unknown {set : Settings} {t : Ticks} {id : Int} (o : Office)
    (hunknown : o.archive.store.participant? id = none) :
    (id.natAbs < 10 ^ numeralLimit →
        (((Operation.bookings t id).perform set.pipeline).runFrom o).1 =
          .ok (.views (.error (.unknownParticipant id)))) ∧
      (10 ^ numeralLimit ≤ id.natAbs →
        (((Operation.bookings t id).perform set.pipeline).runFrom o).1 = .error .unprintable) := by
  have hviews : (o.archive.store.views id).map Answer.views = (notFound id).map .views := by
    rw [Store.views_of_unknown hunknown]
  rw [(perform_does o set (.bookings t id)).runFrom.1]
  constructor
  · intro hshort
    refine hviews.trans ?_
    rw [notFound_of_short hshort]
    rfl
  · intro hlong
    refine hviews.trans ?_
    rw [notFound_of_long hlong]
    rfl

/-- **The bookings of a participant are the history of its bookings.**  From an
empty store, and as long as every file is written, a participant who was registered
is answered with the views that were answered to scheduling and in which it takes
part, each once, in the order of their starts, and with no other view.  To one who
never was a listing is refused, unless the refusal would have to name a number with
too many digits. -/
theorem bookings_eq_history (hempty : o.BeginsEmpty)
    (hsaved : ∀ fault, .error fault ∈ o.said session → fault.isOfSaving = false)
    (set : Settings) (t : Ticks) (id : Int) :
    let answer := (((Operation.bookings t id).perform set.pipeline).runFrom (o.after session)).1
    ((∀ p ∈ (o.said session).filterMap registered?, p.id ≠ some id) →
        (id.natAbs < 10 ^ numeralLimit →
          answer = .ok (.views (.error (.unknownParticipant id)))) ∧
        (10 ^ numeralLimit ≤ id.natAbs → answer = .error .unprintable)) ∧
      ((∃ p ∈ (o.said session).filterMap registered?, p.id = some id) →
        ∃ views, answer = .ok (.views (.ok views)) ∧ views.Nodup ∧
          views.Perm (((o.said session).filterMap scheduled?).filter fun v =>
            .number id ∈ v.booking.people) ∧
          views.Pairwise fun v w => v.booking.start.instant ≤ w.booking.start.instant) := by
  intro answer
  have h := hempty.recounts hsaved
  constructor
  · intro hnever
    refine perform_bookings_unknown (o.after session) (not_not.mp fun hknown => ?_)
    obtain ⟨p, hp, hid⟩ := h.participant?_ne_none.mp hknown
    exact hnever p hp hid
  · intro hregistered
    obtain ⟨views, hviews, hperm, hordered⟩ :=
      Store.views_of_shown h.bookings h.shows (h.participant?_ne_none.mpr hregistered)
    have hanswer : answer = ((o.after session).archive.store.views id).map .views :=
      (perform_does (o.after session) set (.bookings t id)).runFrom.1
    rw [hanswer, hviews]
    refine ⟨views, rfl, hperm.nodup_iff.mpr (h.shown_nodup.filter _), hperm, ?_⟩
    simp only [Moment.instant_utc]
    exact hordered

/-- **A listing may be neither answered nor refused.**  In memory nothing was done yet,
so nobody was registered under the number `10 ^ 4300`. -/
theorem listing_cannot_be_refused :
    (fresh none (lone none)).BeginsEmpty ∧ (fresh none (lone none)).said [] = [] ∧
      (((Operation.bookings .none (10 ^ numeralLimit)).perform Settings.saturday.pipeline).runFrom
        ((fresh none (lone none)).after [])).1 = .error .unprintable := by
  have hunknown (id : Int) :
      ((fresh none (lone none)).after []).archive.store.participant? id = none := rfl
  refine ⟨⟨rfl, by rintro file ⟨⟩⟩, rfl, ?_⟩
  exact (perform_bookings_unknown _ (hunknown _)).2 (Nat.le_of_eq (Json.natAbs_ten_pow _).symm)

/-- Ada is registered and booked in a file, and the archive is opened anew; her
bookings are the one that was answered. -/
theorem bookings_eq_history_ada :
    (fresh (some direct) (lone none)).BeginsEmpty ∧
    ((((Operation.bookings .none 1).perform Settings.saturday.pipeline).runFrom
      ((fresh (some direct) (lone none)).after [.operate .saturday .adaJoins,
        .operate .saturday .adaMeets, .reopen (Moment.saturday 0)])).1 =
      .ok (.views (.ok [⟨(Store.empty.joined "Ada").saved hourOfAda, [⟨some 1, "Ada"⟩]⟩]))) := by
  have hempty : (fresh (some direct) (lone none)).BeginsEmpty := by
    refine ⟨rfl, ?_⟩
    rintro file ⟨⟩
    exact ⟨Moment.saturday 0, rfl⟩
  obtain ⟨hjoins, held, hjoined⟩ := @operate_lone _ _ _ _ none [] _ _ change_adaJoins cut_adaJoined
  obtain ⟨hmeets, held', hmet⟩ := @operate_lone _ _ _ _ held ([] ++ []) _ _ change_adaMeets
    cut_adaBooked
  have hsaid : (fresh (some direct) (lone none)).said [.operate .saturday .adaJoins,
      .operate .saturday .adaMeets, .reopen (Moment.saturday 0)] =
      [.ok (.participant (.ok ⟨some 1, "Ada"⟩)),
        .ok (.booking (.ok ⟨(Store.empty.joined "Ada").saved hourOfAda, [⟨some 1, "Ada"⟩]⟩))] := by
    simp only [said, fresh, hjoins, hjoined, hmeets]
    rfl
  obtain ⟨-, hknown⟩ := @bookings_eq_history _
    [.operate .saturday .adaJoins, .operate .saturday .adaMeets, .reopen (Moment.saturday 0)]
    hempty (by rw [hsaid]; simp) .saturday .none 1
  rw [hsaid] at hknown
  obtain ⟨views, hanswer, -, hperm, -⟩ := hknown ⟨⟨some 1, "Ada"⟩, by simp [registered?], rfl⟩
  have hviews : views = [⟨(Store.empty.joined "Ada").saved hourOfAda, [⟨some 1, "Ada"⟩]⟩] :=
    List.perm_singleton.mp hperm
  rw [hviews] at hanswer
  exact ⟨hempty, hanswer⟩

end Office

end Meetings
