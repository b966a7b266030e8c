/-
The services do to an office what the changes of operations say.

* `Action.Does` — from an office, an action has the result of a change and
  leaves the office that the change leaves;
* `does_put` — adding to the archive, and what follows it;
* `does_register`, `does_schedule`, `does_find`, `gives_bookings` — each service;
* **`perform_does`** — every operation.

Design notes: a proof goes through a service line by line, by the rules of
`Action.Gives`, and splits where the service does.
-/
import Meetings.Proofs.Office.Operation

namespace Meetings

open Archive (kept outcome replaced)

variable {o : Office} {set : Settings}

namespace Action

variable {σ α β : Type} {a : Action σ α} {s t : σ} {x : Except Fault α}

/-- An answer that is put into another form. -/
theorem Gives.andPure (h : a.Gives s x t) (f : α → β) :
    (a >>= fun v => pure (f v)).Gives s (x.map f) t := by
  cases x with
  | error e => exact h.stop
  | ok v => exact h.bind (gives_pure (f v) t)

/-- Reporting a request changes neither its answer nor what it did. -/
theorem Gives.observed {a : Action σ (Except Failure α)} {x : Except Fault (Except Failure α)}
    (h : a.Gives s x t) (p : Pipeline σ) (operation : String) (ticks : Ticks) :
    (p.observed operation ticks a).Gives s x t := by
  cases x with
  | error e => exact h.stop
  | ok v => exact h.bind ((gives_writeAll _ t).bind (gives_pure v t))

/-- From an office, an action has the result of a change and leaves the office
that the change leaves. -/
def Does {α : Type} (a : Action Office α) (o : Office) (c : Change α) : Prop :=
  a.Gives o (c.apply o).1 (c.apply o).2

theorem Does.map {α β : Type} {a : Action Office α} {c : Change α} (h : a.Does o c) (f : α → β) :
    (a >>= fun v => pure (f v)).Does o (c.map f) := by
  have happly : (c.map f).apply o = ((c.apply o).1.map f, (c.apply o).2) := by
    cases c with
    | answer result => rfl
    | put store told result =>
      simp only [Change.map, Change.apply]
      cases (replaced o.archive store).1 with
      | none => rfl
      | some fault => rfl
  unfold Does
  rw [happly]
  exact h.andPure f

theorem Does.observed {α : Type} {a : Action Office (Except Failure α)}
    {c : Change (Except Failure α)} (h : a.Does o c) (p : Pipeline Office) (operation : String)
    (ticks : Ticks) : (p.observed operation ticks a).Does o c :=
  Gives.observed h p operation ticks

end Action

/-! ### Adding -/

/-- What follows the writing of a file is done if it succeeds. -/
theorem gives_keep_then {α : Type} {a : Archive} {next : Action Archive α} {v : α}
    (h : ∀ a', next.Gives a' (.ok v) a') :
    (Archive.keep >>= fun _ => next).Gives a (outcome (kept a).1 v) (kept a).2 := by
  have hkeep := Archive.gives_keep a
  cases hfault : (kept a).1 with
  | none =>
    rw [hfault] at hkeep
    exact hkeep.bind (h _)
  | some fault =>
    rw [hfault] at hkeep
    exact hkeep.stop

theorem gives_addParticipant (a : Archive) {p : Participant} (hp : p.id = none) :
    (Archive.addParticipant p).Gives a
      (outcome (replaced a (a.store.joined p.name)).1 ⟨some a.store.nextParticipant, p.name⟩)
      (replaced a (a.store.joined p.name)).2 := by
  have hadd : a.store.addParticipant p =
      .ok (⟨some a.store.nextParticipant, p.name⟩, a.store.joined p.name) :=
    Store.addParticipant_eq_ok.mpr ⟨hp, rfl, rfl⟩
  refine (Action.gives_state a).bind ?_
  rw [hadd]
  refine (Action.gives_lift _ a).bind ((Action.gives_setState a _).bind ?_)
  exact gives_keep_then fun a' => Action.gives_pure _ a'

theorem gives_addBooking (a : Archive) {b : Booking} (hb : b.id = none) :
    (Archive.addBooking b).Gives a
      (outcome (replaced a (a.store.booked b)).1 (a.store.saved b))
      (replaced a (a.store.booked b)).2 := by
  have hadd : a.store.addBooking b = .ok (a.store.saved b, a.store.booked b) :=
    Store.addBooking_eq_ok.mpr ⟨hb, rfl, rfl⟩
  refine (Action.gives_debug _ a).bind ((Action.gives_state a).bind ?_)
  rw [hadd]
  refine (Action.gives_lift _ a).bind ((Action.gives_setState a _).bind ?_)
  exact gives_keep_then fun a' => (Action.gives_info _ a').bind (Action.gives_pure _ a')

/-- Adding to the archive, and what is told and answered if that succeeds. -/
theorem does_put {α β : Type} {action : Action Archive β} {next : β → Action Office α}
    {store : Store} {v : β} {told : List Delivery} {result : α}
    (hadd : action.Gives o.archive (outcome (replaced o.archive store).1 v)
      (replaced o.archive store).2)
    (hnext : ∀ a, (next v).Gives { o with archive := a } (.ok result) ⟨a, o.outbox ++ told⟩) :
    (Office.onArchive action >>= next).Does o (.put store told result) := by
  have hadd := gives_onArchive hadd
  unfold Action.Does
  cases hfault : (replaced o.archive store).1 with
  | none =>
    rw [hfault] at hadd
    rw [Change.apply_put_saved hfault]
    exact hadd.bind (hnext _)
  | some fault =>
    rw [hfault] at hadd
    rw [Change.apply_put_failed hfault]
    exact hadd.stop

/-- Everyone who listens is told of an event, in order. -/
theorem gives_publish (o : Office) (set : Settings) (e : Event) :
    (set.pipeline.scheduler.publish e).Gives o (.ok ())
      { o with outbox := o.outbox ++ (List.range set.listeners).map fun place => ⟨place, e⟩ } := by
  -- Each listener adds a delivery at the end.
  have htold (places : List Nat) (o : Office) :
      (places.map Office.listener).foldl (fun o sink => sink e o) o =
        { o with outbox := o.outbox ++ places.map fun place => ⟨place, e⟩ } := by
    induction places generalizing o with
    | nil => simp
    | cons place rest ih =>
      rw [List.map_cons, List.foldl_cons, ih, Office.listener, List.map_cons, List.append_assoc]
      rfl
  rw [← htold]
  exact Action.gives_forM_update _ (fun (sink : Event → Office → Office) => sink e) o

/-! ### The services -/

/-- What is read off the store changes nothing. -/
theorem gives_query {α : Type} (o : Office) (f : Store → α) :
    (do return f (← Office.store)).Gives o (.ok (f o.archive.store)) o := by
  have hstore : Office.store.Gives o (.ok o.archive.store) o :=
    (Action.gives_state o).bind (Action.gives_pure _ o)
  exact hstore.bind (Action.gives_pure _ o)

theorem does_register (t : Ticks) (data : Json) :
    (set.pipeline.register t data).Does o (o.archive.store.registering data) := by
  refine Action.Does.observed ?_ _ _ _
  unfold Store.registering
  cases parseRegistration data with
  | error fault => exact (Action.gives_lift _ o).stop
  | ok parsed =>
    refine (Action.gives_lift _ o).bind ?_
    cases parsed with
    | error fault => exact Action.gives_pure _ o
    | ok name =>
      refine (Action.gives_info _ o).bind ?_
      dsimp only
      cases hmake : Participant.make none (.str name) with
      | error fault => exact (Action.gives_warn _ o).bind (Action.gives_pure _ o)
      | ok p =>
        refine does_put (gives_addParticipant o.archive (Participant.make_eq_ok hmake).1)
          fun a => ?_
        refine (Action.gives_info _ _).bind ?_
        rw [List.append_nil]
        exact Action.gives_pure _ _

/-- The services look up what the store knows to stand in the way. -/
theorem gives_existing (o : Office) (set : Settings) (people : List Int) (start stop : Zoned) :
    (set.pipeline.scheduler.existing people start stop).Gives o
      (o.archive.store.inTheWay people start stop) o := by
  unfold Store.inTheWay Scheduler.existing
  by_cases hpeople : people.isEmpty = true
  · rw [if_pos hpeople, if_pos hpeople]
    exact Action.gives_pure [] o
  · rw [if_neg hpeople, if_neg hpeople]
    cases daysTouched start stop with
    | error fault => exact Action.Gives.stop (Action.gives_lift _ o)
    | ok days =>
      obtain ⟨first, last⟩ := days
      refine Action.Gives.bind (Action.gives_lift _ o) ?_
      refine Action.Gives.bind ?_ ((Action.gives_debug _ o).bind (Action.gives_pure _ o))
      exact (gives_onArchive (gives_overlapping people first.instant last.instant o.archive)).bind
        (Action.gives_pure _ o)

/-- The search of the services searches among what they look up. -/
theorem gives_find (people : List Int) (duration : Int) (start stop : Zoned) :
    (set.pipeline.scheduler.find people (some duration) start stop).Gives o
      (o.archive.store.slot set.grid people duration start stop) o := by
  have hexisting := gives_existing o set people start stop
  unfold Store.slot
  cases hfound : o.archive.store.inTheWay people start stop with
  | error fault =>
    rw [hfound] at hexisting
    exact hexisting.stop
  | ok found =>
    rw [hfound] at hexisting
    exact hexisting.bind (gives_searchSlot _ _ _ _ _ _ o)

/-- What is done after a search, as it found a slot or none. -/
theorem does_onSlot {α : Type} {search : Action Office (Option Utc)}
    {found : Except Fault (Option Utc)} {next : Option Utc → Action Office (Except Failure α)}
    {change : Utc → Change (Except Failure α)} (hsearch : search.Gives o found o)
    (hnone : (next none).Gives o (.ok (.error .noSlot)) o)
    (hsome : ∀ slot, (next (some slot)).Does o (change slot)) :
    (search >>= next).Does o (.onSlot found change) := by
  cases found with
  | error fault => exact hsearch.stop
  | ok slot =>
    refine hsearch.bind ?_
    cases slot with
    | none => exact hnone
    | some slot => exact hsome slot

theorem does_request {α : Type} (set : Settings) (asked : Asked)
    {act : MeetingRequest → Action Office (Except Failure α)}
    {change : MeetingRequest → Change (Except Failure α)} (h : ∀ r, (act r).Does o (change r)) :
    (Pipeline.withRequest (asked.parsed set.maxParticipants) act).Does o
      (asked.change set.maxParticipants change) := by
  unfold Asked.change
  cases asked.parsed set.maxParticipants with
  | error fault => exact (Action.gives_lift _ o).stop
  | ok parsed =>
    refine (Action.gives_lift _ o).bind ?_
    cases parsed with
    | error fault => exact Action.gives_pure _ o
    | ok r => exact h r

/-- A booking is added, then announced. -/
theorem does_commit (r : MeetingRequest) (known : List Participant) {b : Booking}
    (hb : b.id = none) :
    (set.pipeline.scheduler.commit r known b).Does o
      (.put (o.archive.store.booked b) (o.archive.store.announcements set b)
        ⟨o.archive.store.saved b, recordsOf (o.archive.store.saved b).people known⟩) := by
  refine does_put (gives_addBooking o.archive hb) fun a => ?_
  refine (Action.gives_info _ _).bind ((gives_publish _ set _).bind ?_)
  exact Action.gives_pure _ _

/-- A slot that is found is booked, if the booking obeys the rules. -/
theorem does_book (r : MeetingRequest) (known : List Participant) (people : String) (slot : Utc) :
    Action.Does (do
      let stop ← Action.liftTime (slot.plusMinutes r.duration)
      match Booking.ofUtc none (r.people.map .number) slot stop with
      | .error fault =>
        Action.warn ("Booking creation failed for " ++ people ++ ": " ++ fault.message)
        return .error (.booking fault)
      | .ok b => return .ok (← set.pipeline.scheduler.commit r known b)) o
      (o.archive.store.booking set r known slot) := by
  unfold Store.booking
  cases slot.plusMinutes r.duration with
  | error fault => exact (Action.gives_lift (.error (.time fault)) o).stop
  | ok stop =>
    refine (Action.gives_lift _ o).bind ?_
    dsimp only
    cases hbooking : Booking.ofUtc none (r.people.map .number) slot stop with
    | error fault => exact (Action.gives_warn _ o).bind (Action.gives_pure _ o)
    | ok b =>
      have hid : b.id = none := by rw [(Booking.ofUtc_eq_ok_iff.mp hbooking).1]
      exact (does_commit r known hid).map Except.ok

theorem does_schedule (r : MeetingRequest) :
    (set.pipeline.scheduler.schedule r).Does o (o.archive.store.scheduling set r) := by
  have hknown := gives_query o fun s => s.participantsAmong (r.people.map .number)
  refine (Action.gives_info _ o).bind (hknown.bind ?_)
  unfold Store.scheduling
  cases missingPeople r.people (o.archive.store.participantsAmong (r.people.map .number)) with
  | cons first rest => exact (Action.gives_warn _ o).bind (Action.gives_lift _ o)
  | nil =>
    exact does_onSlot (gives_find _ _ _ _)
      ((Action.gives_warn _ o).bind (Action.gives_pure _ o)) fun slot => does_book r _ _ slot

/-- A found slot is looked at for the answer. -/
theorem does_find (r : MeetingRequest) :
    Action.Does (do
      match ← set.pipeline.scheduler.find r.people (some r.duration) r.earliest.zoned
          r.latest.zoned with
      | none => return .error .noSlot
      | some slot => return .ok slot) o (o.archive.store.finding set r) :=
  does_onSlot (gives_find _ _ _ _) (Action.gives_pure _ o) fun _ => Action.gives_pure _ o

theorem gives_bookingsOf (id : Int) (a : Archive) :
    (Archive.participantBookings id).Gives a (.ok (a.store.bookingsOf (.number id))) a :=
  (Action.gives_state a).bind ((Action.gives_debug _ a).bind (Action.gives_pure _ a))

theorem gives_bookings (t : Ticks) (id : Int) :
    (set.pipeline.bookings t id).Gives o (o.archive.store.views id) o := by
  refine Action.Gives.observed ?_ _ _ _
  refine (gives_query o fun s => s.participant? id).bind ?_
  unfold Store.views
  cases o.archive.store.participant? id with
  | none => exact Action.gives_lift _ o
  | some p =>
    refine (gives_onArchive (gives_bookingsOf id o.archive)).bind ?_
    dsimp only
    by_cases hempty : (o.archive.store.bookingsOf (.number id)).isEmpty = true
    · rw [if_pos hempty, if_pos hempty]
      exact Action.gives_pure _ o
    · rw [if_neg hempty, if_neg hempty]
      -- References that cannot be sorted are a fault, in the service and in `views`.
      cases unorderedNeighbours
        (PeopleStore.peopleOf (o.archive.store.bookingsOf (.number id))) with
      | none => exact (gives_query o fun s => s.participantsAmong _).bind (Action.gives_pure _ o)
      | some refs => exact (Action.gives_throw _ o).stop

/-! ### Operations -/

/-- **An operation does what its change says.** -/
theorem perform_does (o : Office) (set : Settings) (op : Operation) :
    (op.perform set.pipeline).Does o (op.change set o.archive.store) := by
  cases op with
  | create t data => exact (does_register t data).map _
  | schedule t asked =>
    -- A raw request is parsed and a read one checked; what follows is the same.
    have hdoes := does_request set asked (@does_schedule o set)
    cases asked with
    | raw now data => exact (hdoes.observed set.pipeline "schedule" t).map Answer.booking
    | read now f => exact (hdoes.observed set.pipeline "schedule" t).map Answer.booking
  | find t asked =>
    have hdoes := does_request set asked (@does_find o set)
    cases asked with
    | raw now data => exact (hdoes.observed set.pipeline "find" t).map Answer.slot
    | read now f => exact (hdoes.observed set.pipeline "find" t).map Answer.slot
  | bookings t id => exact (gives_bookings t id).andPure _
  | list => exact (gives_query o Store.participantList).andPure _

end Meetings
