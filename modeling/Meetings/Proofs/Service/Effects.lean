/-
What scheduling does to the store, and whom it tells, in which order.

* `StoreCall`, `Recorded` — the calls of a store with their answers, and the
  announcements, kept beside the state of the store;
* `Pipeline.recorded` — services whose calls and announcements are kept;
  **`Asked.follows_schedule`** — they schedule as they do without a record;
* `Action.Has` — the answer, the calls and the announcements of an action, with
  the rules for sequences;
* `Entering`, `Looking`, `Settling`, `Committing`, `Scheduling` — the ways in which
  each step can end, with the calls that it has made until then;
* `Orderly` — how answer, calls and announcements go together;
* **`schedule_orderly`** — they always do.

Design notes: nothing is known of the store, which may answer anything and stop
with any fault, but that adding returns the booking under an id.  Grid, limits
and listeners are any.
-/
import Meetings.Proofs.Archive.Calls
import Meetings.Proofs.Office.Agreement
import Meetings.Proofs.Service.Steps

namespace Meetings

/-! ### Recording -/

/-- A call of a store, with its answer. -/
inductive StoreCall where
  | participants (people : List Int) (answer : Except Fault (List Participant))
  | lookup (people : List Int) (first last : Utc)
      (answer : Except Fault (List (Option Commitment)))
  | add (b : Booking) (answer : Except Fault Booking)

namespace StoreCall

/-- What a store is asked for. -/
inductive Kind where
  | participants
  | lookup
  | add
deriving DecidableEq, Repr

def kind : StoreCall → Kind
  | participants _ _ => .participants
  | lookup _ _ _ _ => .lookup
  | add _ _ => .add

/-- The fault that a call ends with, if it does. -/
def fault? : StoreCall → Option Fault
  | participants _ (.error fault) => some fault
  | lookup _ _ _ (.error fault) => some fault
  | add _ (.error fault) => some fault
  | _ => none

end StoreCall

/-- A state, the calls that were made of its store, and the announcements that
were heard, oldest first. -/
structure Recorded (σ : Type) where
  inner : σ
  calls : List StoreCall
  told : List Delivery

variable {σ α β : Type}

/-- An action of a store that is kept as a call. -/
def Action.recorded (call : Except Fault α → StoreCall) (a : Action σ α) :
    Action (Recorded σ) α := fun r =>
  let (answer, inner) := a.run ⟨r.state.inner, r.log⟩
  (answer, ⟨{ r.state with inner := inner.state, calls := r.state.calls ++ [call answer] },
    inner.log⟩)

/-- A store whose calls are kept. -/
def Collaborator.recorded (c : Collaborator σ) : Collaborator (Recorded σ) where
  participants people := (c.participants people).recorded (.participants people)
  lookup people first last := (c.lookup people first last).recorded (.lookup people first last)
  add b := (c.add b).recorded (.add b)

/-- An action that is not kept. -/
def Action.beside (a : Action σ α) : Action (Recorded σ) α :=
  a.zoom Recorded.inner fun inner r => { r with inner := inner }

/-- A store for people beside a record. -/
def PeopleStore.beside (p : PeopleStore σ) : PeopleStore (Recorded σ) where
  add q := (p.add q).beside
  participant id := (p.participant id).beside
  among refs := (p.among refs).beside
  all := p.all.beside
  bookingsOf id := (p.bookingsOf id).beside

/-- A scheduler whose calls are kept, and who is told what. -/
def Scheduler.recorded (s : Scheduler σ) : Scheduler (Recorded σ) where
  store := s.store.recorded
  grid := s.grid
  sinks := s.sinks.mapIdx fun place sink e r =>
    { r with inner := sink e r.inner, told := r.told ++ [⟨place, e⟩] }
  now := s.now

/-- Services whose calls for scheduling are kept; those for people are not. -/
def Pipeline.recorded (p : Pipeline σ) : Pipeline (Recorded σ) where
  scheduler := p.scheduler.recorded
  people := p.people.beside
  maxParticipants := p.maxParticipants
  slowRequest := p.slowRequest

/-! ### Recording changes nothing -/

/-- An action with a record answers as one without it, and leaves the same state
and the same log. -/
def Action.Follows (a : Action (Recorded σ) α) (b : Action σ α) : Prop :=
  ∀ r, b ⟨r.state.inner, r.log⟩ = ((a r).1, ⟨(a r).2.state.inner, (a r).2.log⟩)

namespace Action

theorem follows_pure (v : α) : (pure v : Action (Recorded σ) α).Follows (pure v) := fun _ => rfl

theorem follows_writeAll (lines : List LogLine) :
    (writeAll lines : Action (Recorded σ) Unit).Follows (writeAll lines) := fun _ => rfl

theorem follows_lift (x : Except Fault α) : (lift x : Action (Recorded σ) α).Follows (lift x) :=
  fun _ => rfl

theorem follows_recorded (call : Except Fault α → StoreCall) (a : Action σ α) :
    (a.recorded call).Follows a := fun _ => rfl

theorem Follows.bind {a : Action (Recorded σ) α} {b : Action σ α}
    {next : α → Action (Recorded σ) β} {next' : α → Action σ β} (h : a.Follows b)
    (hnext : ∀ v, (next v).Follows (next' v)) : (a >>= next).Follows (b >>= next') := by
  intro r
  rw [bind_run, bind_run, h r]
  rcases a r with ⟨fault | v, r'⟩
  · rfl
  · exact hnext v r'

end Action

namespace Scheduler

open Meetings.Action

/-- Those who listen are told the same. -/
theorem follows_publish (s : Scheduler σ) (e : Event) :
    (s.recorded.publish e).Follows (s.publish e) := by
  have hsinks (sinks : List (Event → σ → σ)) (place : Nat → Nat) :
      ((sinks.mapIdx fun i sink e (r : Recorded σ) =>
          { r with inner := sink e r.inner, told := r.told ++ [Delivery.mk (place i) e] }).forM
        fun sink => (update (sink e) : Action (Recorded σ) Unit)).Follows
        (sinks.forM fun sink => (update (sink e) : Action σ Unit)) := by
    -- The places of the rest are shifted, so any numbering is allowed.
    induction sinks generalizing place with
    | nil => exact follows_pure ()
    | cons sink rest ih =>
      rw [List.mapIdx_cons]
      exact Follows.bind (fun _ => rfl) fun _ => ih fun i => place (i + 1)
  exact hsinks s.sinks id

theorem follows_search (g : Grid) (people : Option (List PersonRef)) (duration : Option Int)
    (start stop : Zoned) (existing : List (Option Commitment)) :
    (searchSlot g people duration start stop existing : Action (Recorded σ) _).Follows
      (searchSlot g people duration start stop existing) :=
  (follows_writeAll _).bind fun _ => (follows_lift _).bind fun out => follows_pure out.slot

theorem follows_existing (s : Scheduler σ) (people : List Int) (start stop : Zoned) :
    (s.recorded.existing people start stop).Follows (s.existing people start stop) := by
  unfold existing
  by_cases hpeople : people.isEmpty = true
  · rw [if_pos hpeople, if_pos hpeople]
    exact follows_pure []
  · rw [if_neg hpeople, if_neg hpeople]
    exact (follows_lift _).bind fun days => (follows_recorded _ _).bind fun found =>
      (follows_writeAll _).bind fun _ => follows_pure found

theorem follows_commit (s : Scheduler σ) (r : MeetingRequest) (known : List Participant)
    (b : Booking) : (s.recorded.commit r known b).Follows (s.commit r known b) :=
  (follows_recorded _ _).bind fun _ => (follows_writeAll _).bind fun _ =>
    (follows_publish s _).bind fun _ => follows_pure _

theorem follows_schedule (s : Scheduler σ) (r : MeetingRequest) :
    (s.recorded.schedule r).Follows (s.schedule r) := by
  refine (follows_writeAll _).bind fun _ => (follows_recorded _ _).bind fun known => ?_
  cases missingPeople r.people known with
  | cons first rest => exact (follows_writeAll _).bind fun _ => follows_lift _
  | nil =>
    have hfind := (follows_existing s r.people r.earliest.zoned r.latest.zoned).bind fun found =>
      follows_search s.grid (some (r.people.map .number)) (some r.duration) r.earliest.zoned
        r.latest.zoned found
    refine hfind.bind fun slot => ?_
    cases slot with
    | none => exact (follows_writeAll _).bind fun _ => follows_pure _
    | some slot =>
      refine (follows_lift _).bind fun stop => ?_
      cases Booking.ofUtc none (r.people.map .number) slot stop with
      | error fault => exact (follows_writeAll _).bind fun _ => follows_pure _
      | ok b => exact (follows_commit s r known b).bind fun view => follows_pure _

end Scheduler

/-! ### Calls and announcements of an action -/

/-- What an action may come to: its answer, the calls that it makes, and the
announcements that it makes. -/
abbrev Effects (α : Type) := Except Fault α → List StoreCall → List Delivery → Prop

/-- From every state the action comes to an answer, calls and announcements of
which `Q` holds, and it adds these to the record. -/
def Action.Has (a : Action (Recorded σ) α) (Q : Effects α) : Prop :=
  ∀ r, ∃ calls told, Q (a r).1 calls told ∧
    (a r).2.state.calls = r.state.calls ++ calls ∧ (a r).2.state.told = r.state.told ++ told

namespace Action

variable {a : Action (Recorded σ) α} {next : α → Action (Recorded σ) β} {P : Effects α}
  {Q : Effects β}

theorem has_lift {R : Effects α} {x : Except Fault α} (h : R x [] []) :
    (Action.lift x : Action (Recorded σ) α).Has R :=
  fun _ => ⟨[], [], h, (List.append_nil _).symm, (List.append_nil _).symm⟩

theorem has_pure {R : Effects α} {v : α} (h : R (.ok v) [] []) :
    (pure v : Action (Recorded σ) α).Has R :=
  has_lift h

/-- In a sequence the effects of the second action come after those of the first;
after a fault there are no more. -/
theorem Has.bind (ha : a.Has P)
    (hok : ∀ v calls told, P (.ok v) calls told →
      (next v).Has fun y calls' told' => Q y (calls ++ calls') (told ++ told'))
    (hstop : ∀ fault calls told, P (.error fault) calls told → Q (.error fault) calls told) :
    (a >>= next).Has Q := by
  intro r
  obtain ⟨calls, told, h, hcalls, htold⟩ := ha r
  rw [bind_run]
  rcases hrun : a r with ⟨fault | v, r'⟩
  · rw [hrun] at h hcalls htold
    exact ⟨calls, told, hstop fault calls told h, hcalls, htold⟩
  · rw [hrun] at h hcalls htold
    obtain ⟨calls', told', h', hcalls', htold'⟩ := hok v calls told h r'
    refine ⟨calls ++ calls', told ++ told', h', ?_, ?_⟩
    · rw [hcalls', hcalls, List.append_assoc]
    · rw [htold', htold, List.append_assoc]

theorem Has.mono {R : Effects α} (ha : a.Has P)
    (h : ∀ x calls told, P x calls told → R x calls told) : a.Has R := by
  intro r
  obtain ⟨calls, told, hP, hrecord⟩ := ha r
  exact ⟨calls, told, h _ _ _ hP, hrecord⟩

theorem Has.map {f : α → β} (ha : a.Has P)
    (hok : ∀ v calls told, P (.ok v) calls told → Q (.ok (f v)) calls told)
    (hstop : ∀ fault calls told, P (.error fault) calls told → Q (.error fault) calls told) :
    (a >>= fun v => pure (f v)).Has Q := by
  refine ha.bind ?_ hstop
  intro v calls told h
  refine has_pure ?_
  rw [List.append_nil, List.append_nil]
  exact hok v calls told h

theorem Has.log {lines : List LogLine} {act : Action (Recorded σ) β} (h : act.Has Q) :
    (writeAll lines >>= fun _ => act).Has Q :=
  fun r => h ⟨r.state, r.log ++ lines⟩

theorem Has.lift {x : Except Fault α} (hok : ∀ v, x = .ok v → (next v).Has Q)
    (hstop : ∀ fault, x = .error fault → Q (.error fault) [] []) :
    (Action.lift x >>= next).Has Q := by
  cases x with
  | ok v => exact hok v rfl
  | error fault =>
    intro r
    exact ⟨[], [], hstop fault rfl, (List.append_nil _).symm, (List.append_nil _).symm⟩

theorem Has.liftTime {x : Except TimeFault α} (hok : ∀ v, x = .ok v → (next v).Has Q)
    (hstop : ∀ fault, x = .error fault → Q (.error (.time fault)) [] []) :
    (Action.liftTime x >>= next).Has Q := by
  refine Has.lift (fun v hv => hok v (mapError_eq_ok.mp hv)) ?_
  rintro _ hfault
  cases x with
  | ok v => cases hfault
  | error fault =>
    cases hfault
    exact hstop fault rfl

/-- A call comes first, and what it answers is what the store answers in some
state. -/
theorem Has.call {call : Except Fault α → StoreCall} {b : Action σ α}
    (hok : ∀ v, (∃ r r', b r = (.ok v, r')) →
      (next v).Has fun y calls told => Q y (call (.ok v) :: calls) told)
    (hstop : ∀ fault, Q (.error fault) [call (.error fault)] []) :
    (b.recorded call >>= next).Has Q := by
  intro r
  rw [bind_run, Action.recorded]
  rcases hrun : b.run ⟨r.state.inner, r.log⟩ with ⟨fault | v, r'⟩
  · exact ⟨[call (.error fault)], [], hstop fault, rfl, (List.append_nil _).symm⟩
  · obtain ⟨calls, told, h, hcalls, htold⟩ := hok v ⟨_, _, hrun⟩ _
    exact ⟨call (.ok v) :: calls, told, h, by rw [hcalls]; exact List.append_assoc _ _ _, htold⟩

end Action

/-! ### The effects of each step -/

section Steps

open Meetings.Action

variable {s : Scheduler σ} {req : MeetingRequest} {known : List Participant}
  {found : List (Option Commitment)}

/-- A store under whose `add` a booking comes back as it was, with an id. -/
def Collaborator.Assigns (c : Collaborator σ) : Prop :=
  ∀ b r b' r', c.add b r = (.ok b', r') → ∃ id, b' = { b with id := some id }

/-- The announcements of an event to so many listeners, in their order. -/
def deliveries (listeners : Nat) (e : Event) : List Delivery :=
  (List.range listeners).map fun place => ⟨place, e⟩

-- One inductive for each step, with a constructor for each way out of it.

/-- Looking up the people of a request. -/
inductive Entering (req : MeetingRequest) : Effects (Except Failure (List Participant))
  | fails {fault : Fault} :
      Entering req (.error fault) [.participants req.people (.error fault)] []
  | unknown {known : List Participant} {first : Int} {rest : List Int}
      (h : missingPeople req.people known = first :: rest)
      (short : first.natAbs < 10 ^ numeralLimit) :
      Entering req (.ok (.error (.unknownParticipant first)))
        [.participants req.people (.ok known)] []
  | unnamed {known : List Participant} {first : Int} {rest : List Int}
      (h : missingPeople req.people known = first :: rest)
      (long : 10 ^ numeralLimit ≤ first.natAbs) :
      Entering req (.error .unprintable) [.participants req.people (.ok known)] []
  | known {known : List Participant} (h : missingPeople req.people known = []) :
      Entering req (.ok (.ok known)) [.participants req.people (.ok known)] []

/-- Looking up the commitments in the way of a request. -/
inductive Looking (req : MeetingRequest) : Effects (List (Option Commitment))
  | unreachable {fault : TimeFault}
      (h : daysTouched req.earliest.zoned req.latest.zoned = .error fault) :
      Looking req (.error (.time fault)) [] []
  | fails {first last : Utc} {fault : Fault} :
      Looking req (.error fault) [.lookup req.people first last (.error fault)] []
  | sees {first last : Utc} {found : List (Option Commitment)}
      (h : daysTouched req.earliest.zoned req.latest.zoned = .ok (first, last)) :
      Looking req (.ok found) [.lookup req.people first last (.ok found)] []

/-- Adding a booking, announcing it and showing it. -/
inductive Committing (s : Scheduler σ) (known : List Participant) (b : Booking) :
    Effects BookingView
  | fails {fault : Fault} : Committing s known b (.error fault) [.add b (.error fault)] []
  | saved {id : Int} :
      Committing s known b
        (.ok ⟨{ b with id := some id }, recordsOf b.people known⟩)
        [.add b (.ok { b with id := some id })]
        (deliveries s.sinks.length ((Event.announce s.now b).withBookingId (some id)))

/-- The booking of a request from a slot on. -/
def MeetingRequest.unsaved (req : MeetingRequest) (slot stop : Utc) : Booking :=
  ⟨none, req.people.map .number, slot, stop⟩

/-- Seeking a slot among commitments and booking it. -/
inductive Settling (s : Scheduler σ) (req : MeetingRequest) (known : List Participant)
    (found : List (Option Commitment)) : Effects (Except Failure BookingView)
  | unsearched {fault : Fault}
      (h : slotAmong s.grid req.people (some req.duration) req.earliest.zoned req.latest.zoned
        found = .error fault) :
      Settling s req known found (.error fault) [] []
  | noSlot
      (h : slotAmong s.grid req.people (some req.duration) req.earliest.zoned req.latest.zoned
        found = .ok none) :
      Settling s req known found (.ok (.error .noSlot)) [] []
  | unreachable {slot : Utc} {fault : TimeFault}
      (h : slot.plusMinutes req.duration = .error fault) :
      Settling s req known found (.error (.time fault)) [] []
  | refused {fault : BookingFault} :
      Settling s req known found (.ok (.error (.booking fault))) [] []
  | fails {slot stop : Utc} {fault : Fault}
      (hslot : slotAmong s.grid req.people (some req.duration) req.earliest.zoned
        req.latest.zoned found = .ok (some slot))
      (hstop : slot.plusMinutes req.duration = .ok stop) :
      Settling s req known found (.error fault)
        [.add (req.unsaved slot stop) (.error fault)] []
  | books {slot stop : Utc} {id : Int}
      (hslot : slotAmong s.grid req.people (some req.duration) req.earliest.zoned
        req.latest.zoned found = .ok (some slot))
      (hstop : slot.plusMinutes req.duration = .ok stop) :
      Settling s req known found
        (.ok (.ok ⟨{ req.unsaved slot stop with id := some id },
          recordsOf (req.unsaved slot stop).people known⟩))
        [.add (req.unsaved slot stop) (.ok { req.unsaved slot stop with id := some id })]
        (deliveries s.sinks.length
          ((Event.announce s.now (req.unsaved slot stop)).withBookingId (some id)))

theorem has_enter (s : Scheduler σ) (req : MeetingRequest) :
    (s.recorded.enter req).Has (Entering req) := by
  refine Has.log (Has.call ?_ fun fault => .fails)
  intro known _
  cases hmissing : missingPeople req.people known with
  | cons first rest =>
    refine Has.log ?_
    obtain ⟨hshort, hanswer⟩ | ⟨hlong, hanswer⟩ := notFound_cases (List Participant) first
    · rw [hanswer]
      exact has_lift (.unknown hmissing hshort)
    · rw [hanswer]
      exact has_lift (.unnamed hmissing hlong)
  | nil => exact has_pure (.known hmissing)

/-- For somebody the commitments are looked up. -/
theorem has_look (s : Scheduler σ) (hpeople : req.people ≠ []) :
    (s.recorded.look req).Has (Looking req) := by
  unfold Scheduler.look Scheduler.existing
  rw [if_neg (by simpa using hpeople)]
  refine Has.liftTime ?_ fun fault h => .unreachable h
  rintro ⟨first, last⟩ hdays
  refine Has.call ?_ fun fault => .fails
  intro found _
  exact Has.log (has_pure (.sees hdays))

/-- Everyone who listens is told the event, once. -/
theorem has_publish (s : Scheduler σ) (e : Event) :
    (s.recorded.publish e).Has fun x calls told =>
      x = .ok () ∧ calls = [] ∧ told = deliveries s.sinks.length e := by
  have hsinks (sinks : List (Event → σ → σ)) (place : Nat → Nat) :
      ((sinks.mapIdx fun i sink e (r : Recorded σ) =>
          { r with inner := sink e r.inner, told := r.told ++ [Delivery.mk (place i) e] }).forM
        fun sink => (update (sink e) : Action (Recorded σ) Unit)).Has fun x calls told =>
        x = .ok () ∧ calls = [] ∧ told = (List.range sinks.length).map fun i => ⟨place i, e⟩ := by
    induction sinks generalizing place with
    | nil => exact has_pure ⟨rfl, rfl, rfl⟩
    | cons sink rest ih =>
      rw [List.mapIdx_cons, List.length_cons, List.range_succ_eq_map, List.map_cons, List.map_map]
      refine Has.bind (P := fun x calls told =>
        x = .ok () ∧ calls = [] ∧ told = [⟨place 0, e⟩]) ?_ ?_ ?_
      · -- The first of those who listen.
        intro r
        exact ⟨[], [⟨place 0, e⟩], ⟨rfl, rfl, rfl⟩, (List.append_nil _).symm, rfl⟩
      · rintro _ _ _ ⟨-, rfl, rfl⟩ r
        obtain ⟨calls, told, ⟨hx, rfl, rfl⟩, h⟩ := ih (fun i => place (i + 1)) r
        exact ⟨[], _, ⟨hx, rfl, rfl⟩, h⟩
      · rintro _ _ _ ⟨⟨⟩, -⟩
  exact hsinks s.sinks id

theorem has_commit (hadd : s.store.Assigns) (req : MeetingRequest) (known : List Participant)
    (b : Booking) : (s.recorded.commit req known b).Has (Committing s known b) := by
  refine Has.call ?_ fun fault => .fails
  rintro saved ⟨r, r', hrun⟩
  -- What comes back is the booking that was given, so the view shows that one.
  obtain ⟨id, rfl⟩ := hadd b r saved r' hrun
  refine Has.log (Has.map (has_publish s _) ?_ ?_)
  · rintro _ _ _ ⟨-, rfl, rfl⟩
    exact .saved
  · rintro _ _ _ ⟨⟨⟩, -⟩

theorem has_settle (hadd : s.store.Assigns) (req : MeetingRequest) (known : List Participant)
    (found : List (Option Commitment)) :
    (s.recorded.settle req known found).Has (Settling s req known found) := by
  -- The search only logs; what it finds decides how the step goes on.
  refine Has.bind (P := fun x calls told =>
    x = slotAmong s.grid req.people (some req.duration) req.earliest.zoned req.latest.zoned found ∧
      calls = [] ∧ told = []) ?_ ?_ ?_
  · intro r
    obtain ⟨log, hlog⟩ := gives_searchSlot s.recorded.grid req.people (some req.duration)
      req.earliest.zoned req.latest.zoned found r.state r.log
    rw [hlog]
    exact ⟨[], [], ⟨rfl, rfl, rfl⟩, (List.append_nil _).symm, (List.append_nil _).symm⟩
  · rintro (_ | slot) _ _ ⟨hslot, rfl, rfl⟩
    · exact Has.log (has_pure (.noSlot hslot.symm))
    · refine Has.liftTime ?_ fun fault h => .unreachable h
      intro stop hstop
      cases hbooking : Booking.ofUtc none (req.people.map .number) slot stop with
      | error fault => exact Has.log (has_pure .refused)
      | ok b =>
        obtain ⟨rfl, -⟩ := Booking.ofUtc_eq_ok_iff.mp hbooking
        refine Has.map (has_commit hadd req known _) ?_ ?_
        · rintro view calls told ⟨⟩
          exact .books hslot.symm hstop
        · rintro fault calls told ⟨⟩
          exact .fails hslot.symm hstop
  · rintro fault _ _ ⟨hslot, rfl, rfl⟩
    exact .unsearched hslot.symm

/-- All of scheduling for a request. -/
inductive Scheduling (s : Scheduler σ) (req : MeetingRequest) :
    Effects (Except Failure BookingView)
  | refused {fault : Fault} :
      Scheduling s req (.error fault) [.participants req.people (.error fault)] []
  | unknown {known : List Participant} {first : Int} {rest : List Int}
      (h : missingPeople req.people known = first :: rest)
      (short : first.natAbs < 10 ^ numeralLimit) :
      Scheduling s req (.ok (.error (.unknownParticipant first)))
        [.participants req.people (.ok known)] []
  | unnamed {known : List Participant} {first : Int} {rest : List Int}
      (h : missingPeople req.people known = first :: rest)
      (long : 10 ^ numeralLimit ≤ first.natAbs) :
      Scheduling s req (.error .unprintable) [.participants req.people (.ok known)] []
  | unseen {known : List Participant} {fault : Fault} {calls : List StoreCall}
      {told : List Delivery} (hlook : Looking req (.error fault) calls told) :
      Scheduling s req (.error fault) (.participants req.people (.ok known) :: calls) told
  | settled {known : List Participant} {first last : Utc} {found : List (Option Commitment)}
      {answer : Except Fault (Except Failure BookingView)} {calls : List StoreCall}
      {told : List Delivery} (h : missingPeople req.people known = [])
      (hdays : daysTouched req.earliest.zoned req.latest.zoned = .ok (first, last))
      (hsettle : Settling s req known found answer calls told) :
      Scheduling s req answer
        (.participants req.people (.ok known) :: .lookup req.people first last (.ok found) :: calls)
        told

theorem has_schedule (hadd : s.store.Assigns) (hpeople : req.people ≠ []) :
    (s.recorded.schedule req).Has (Scheduling s req) := by
  rw [Scheduler.schedule_eq]
  refine Has.bind (has_enter s req) ?_ ?_
  · rintro _ _ _ h
    cases h with
    | unknown h hshort => exact has_pure (.unknown h hshort)
    | @known known h =>
      refine Has.bind (has_look s hpeople) ?_ ?_
      · rintro found _ _ hlook
        cases hlook with
        | sees hdays =>
          refine (has_settle hadd req known found).mono ?_
          intro answer calls told hsettle
          exact .settled h hdays hsettle
      · intro fault calls told hlook
        exact .unseen hlook
  · rintro fault _ _ h
    cases h with
    | fails => exact .refused
    | unnamed h hlong => exact .unnamed h hlong

end Steps

/-! ### From a raw request to an answer -/

/-- What scheduling a request does to the store, and whom it tells.  The request
is `parsed`, the answer is `answer`; meanwhile the calls `calls` are made and the
announcements `told` are heard. -/
structure Orderly (s : Scheduler σ) (parsed : Except Fault (Except RequestFault MeetingRequest))
    (answer : Except Fault (Except Failure BookingView)) (calls : List StoreCall)
    (told : List Delivery) : Prop where
  /-- A request that does not pass makes no call. -/
  unparsed : (∀ req, parsed ≠ .ok (.ok req)) → calls = []
  /-- Calls come in this order, and each at most once. -/
  order : calls.map StoreCall.kind <+: [.participants, .lookup, .add]
  /-- A fault of the store is the answer, as it is. -/
  faults : ∀ call ∈ calls, ∀ fault, call.fault? = some fault → answer = .error fault
  /-- A booking is added only after everyone is known and a slot is found, and it is
  a booking of that slot, without an id. -/
  adding : ∀ b saved, .add b saved ∈ calls →
    ∃ req known first last found slot stop, parsed = .ok (.ok req) ∧
      .participants req.people (.ok known) ∈ calls ∧
      (∀ id ∈ req.people, ∃ p ∈ known, p.id = some id) ∧
      .lookup req.people first last (.ok found) ∈ calls ∧
      slotAmong s.grid req.people (some req.duration) req.earliest.zoned req.latest.zoned found =
        .ok (some slot) ∧
      slot.plusMinutes req.duration = .ok stop ∧ b = req.unsaved slot stop
  /-- Without a booking in the answer nobody is told anything. -/
  silent : (∀ view, answer ≠ .ok (.ok view)) → told = []
  /-- A booking in the answer was added, and everyone who listens is told of it once. -/
  announced : ∀ view, answer = .ok (.ok view) →
    (∃ b, .add b (.ok view.booking) ∈ calls) ∧
    ∃ e : Event, told = deliveries s.sinks.length e ∧ e.bookingId = view.booking.id ∧
      e.people = view.booking.people ∧ e.start = view.booking.start ∧
      e.stop = view.booking.stop ∧ e.occurredAt = s.now

theorem add_mem_kinds {b : Booking} {saved : Except Fault Booking} {calls : List StoreCall}
    (h : .add b saved ∈ calls) : StoreCall.Kind.add ∈ calls.map StoreCall.kind :=
  List.mem_map.mpr ⟨_, h, rfl⟩

theorem everyone_known {people : List Int} {known : List Participant}
    (h : missingPeople people known = []) : ∀ id ∈ people, ∃ p ∈ known, p.id = some id := by
  intro id hid
  have hnot := List.filter_eq_nil_iff.mp h id hid
  rw [Bool.not_eq_true', Bool.not_eq_false, List.any_eq_true] at hnot
  obtain ⟨p, hp, heq⟩ := hnot
  exact ⟨p, hp, beq_iff_eq.mp heq⟩

section Order

variable {s : Scheduler σ} {req : MeetingRequest}
  {parsed : Except Fault (Except RequestFault MeetingRequest)}
  {answer : Except Fault (Except Failure BookingView)} {calls : List StoreCall}
  {told : List Delivery}

/-- What ends before a booking is added. -/
theorem Orderly.early (hparsed : (∀ req, parsed ≠ .ok (.ok req)) → calls = [])
    (horder : calls.map StoreCall.kind <+: [.participants, .lookup])
    (hfaults : ∀ call ∈ calls, ∀ fault, call.fault? = some fault → answer = .error fault)
    (hanswer : ∀ view, answer ≠ .ok (.ok view)) : Orderly s parsed answer calls [] where
  unparsed := hparsed
  order := horder.trans ⟨[.add], rfl⟩
  faults := hfaults
  adding := by
    intro b saved hadd
    have hmem := horder.subset (add_mem_kinds hadd)
    simp at hmem
  silent := fun _ => rfl
  announced := fun view hview => absurd hview (hanswer view)

/-- What ends after a slot is found among commitments that were looked up for
people who are all known. -/
theorem Settling.orderly {known : List Participant} {first last : Utc}
    {found : List (Option Commitment)} (hparsed : parsed = .ok (.ok req))
    (hknown : missingPeople req.people known = [])
    (h : Settling s req known found answer calls told) :
    Orderly s parsed answer
      (.participants req.people (.ok known) :: .lookup req.people first last (.ok found) :: calls)
      told := by
  have hunparsed {rest : List StoreCall} : (∀ req, parsed ≠ .ok (.ok req)) → rest = [] :=
    fun hno => absurd hparsed (hno req)
  -- The ways out before adding differ in the answer only.
  have hearly {answer : Except Fault (Except Failure BookingView)}
      (hanswer : ∀ view, answer ≠ .ok (.ok view)) : Orderly s parsed answer
        [.participants req.people (.ok known), .lookup req.people first last (.ok found)] [] := by
    refine .early hunparsed (List.prefix_refl _) ?_ hanswer
    simp [StoreCall.fault?]
  cases h with
  | unsearched h => exact hearly (by simp)
  | noSlot h => exact hearly (by simp)
  | unreachable h => exact hearly (by simp)
  | refused => exact hearly (by simp)
  | @fails slot stop fault hslot hstop =>
    refine ⟨hunparsed, List.prefix_refl _, ?_, ?_, fun _ => rfl, by simp⟩
    · simp [StoreCall.fault?]
    · intro b saved hb
      obtain ⟨rfl, -⟩ : b = req.unsaved slot stop ∧ saved = .error fault := by simpa using hb
      exact ⟨req, known, first, last, found, slot, stop, hparsed, by simp, everyone_known hknown,
        by simp, hslot, hstop, rfl⟩
  | @books slot stop id hslot hstop =>
    refine ⟨hunparsed, List.prefix_refl _, ?_, ?_, by simp, ?_⟩
    · simp [StoreCall.fault?]
    · intro b saved hb
      obtain ⟨rfl, -⟩ : b = req.unsaved slot stop ∧ _ := by simpa using hb
      exact ⟨req, known, first, last, found, slot, stop, hparsed, by simp, everyone_known hknown,
        by simp, hslot, hstop, rfl⟩
    · rintro view ⟨⟩
      exact ⟨⟨req.unsaved slot stop, by simp⟩, _, rfl, rfl, rfl, rfl, rfl, rfl⟩

theorem Scheduling.orderly (hparsed : parsed = .ok (.ok req))
    (h : Scheduling s req answer calls told) : Orderly s parsed answer calls told := by
  have hunparsed {rest : List StoreCall} : (∀ req, parsed ≠ .ok (.ok req)) → rest = [] :=
    fun hno => absurd hparsed (hno req)
  have hfirst : [StoreCall.Kind.participants] <+: [.participants, .lookup] :=
    ⟨[.lookup], rfl⟩
  cases h with
  | refused => exact .early hunparsed hfirst (by simp [StoreCall.fault?]) (by simp)
  | unknown h hshort => exact .early hunparsed hfirst (by simp [StoreCall.fault?]) (by simp)
  | unnamed h hlong => exact .early hunparsed hfirst (by simp [StoreCall.fault?]) (by simp)
  | unseen hlook =>
    cases hlook with
    | unreachable h => exact .early hunparsed hfirst (by simp [StoreCall.fault?]) (by simp)
    | fails =>
      exact .early hunparsed (List.prefix_refl _) (by simp [StoreCall.fault?]) (by simp)
  | settled hknown hdays hsettle => exact hsettle.orderly hparsed hknown

end Order

/-- Scheduling for a request as it comes in. -/
def Asked.schedule (p : Pipeline σ) (t : Ticks) : Asked → Action σ (Except Failure BookingView)
  | raw now data => p.schedule t now data
  | read now f => p.scheduleFields t now f

section Asked

open Meetings.Action

variable {p : Pipeline σ}

theorem Asked.schedule_eq (p : Pipeline σ) (t : Ticks) (asked : Asked) :
    asked.schedule p t = p.book t (asked.parsed p.maxParticipants) := by
  cases asked with
  | raw now data => rfl
  | read now f => rfl

/-- **A record changes nothing.** -/
theorem Asked.follows_schedule (p : Pipeline σ) (t : Ticks) (asked : Asked) :
    (asked.schedule p.recorded t).Follows (asked.schedule p t) := by
  rw [schedule_eq, schedule_eq]
  refine Follows.bind ((follows_lift _).bind ?_) fun outcome =>
    (follows_writeAll _).bind fun _ => follows_pure outcome
  rintro (fault | req)
  · exact follows_pure _
  · exact Scheduler.follows_schedule p.scheduler req

theorem Asked.has_schedule (hadd : p.scheduler.store.Assigns) (t : Ticks) (asked : Asked) :
    (asked.schedule p.recorded t).Has (Orderly p.scheduler (asked.parsed p.maxParticipants)) := by
  rw [schedule_eq]
  have hact : (Pipeline.withRequest (asked.parsed p.maxParticipants)
      p.scheduler.recorded.schedule).Has
      (Orderly p.scheduler (asked.parsed p.maxParticipants)) := by
    refine Has.lift ?_ fun fault h => .early (fun _ => rfl) List.nil_prefix (by simp) (by simp)
    rintro (fault | req) h
    · exact has_pure (.early (fun _ => rfl) List.nil_prefix (by simp) (by simp))
    · refine (Meetings.has_schedule hadd (rules_of_parsed h).1).mono ?_
      intro answer calls told hschedule
      exact hschedule.orderly h
  refine hact.bind ?_ fun _ _ _ h => h
  intro outcome calls told h
  exact Has.log (has_pure (by rw [List.append_nil, List.append_nil]; exact h))

end Asked

/-- **Scheduling has its effects in order, and tells of them only on success.**
Whatever the store answers, as long as adding returns the booking under an id, the
calls of a request are as they should be, and so is what is announced. -/
theorem schedule_orderly (p : Pipeline σ) (hadd : p.scheduler.store.Assigns) (t : Ticks)
    (asked : Asked) (st : σ) (log : List LogLine) :
    let run := asked.schedule p t ⟨st, log⟩
    ∃ calls told,
      asked.schedule p.recorded t ⟨⟨st, [], []⟩, log⟩ =
        (run.1, ⟨⟨run.2.state, calls, told⟩, run.2.log⟩) ∧
      Orderly p.scheduler (asked.parsed p.maxParticipants) run.1 calls told := by
  intro run
  have hrun := asked.follows_schedule p t ⟨⟨st, [], []⟩, log⟩
  obtain ⟨calls, told, h, hcalls, htold⟩ := asked.has_schedule hadd t ⟨⟨st, [], []⟩, log⟩
  rcases hkept : asked.schedule p.recorded t ⟨⟨st, [], []⟩, log⟩ with
    ⟨answer, ⟨⟨st', calls', told'⟩, log'⟩⟩
  rw [hkept] at hrun h hcalls htold
  have hplain : run = (answer, ⟨st', log'⟩) := hrun
  -- The record was empty, so what was added to it is all that it holds.
  cases hcalls
  cases htold
  rw [hplain]
  exact ⟨calls, told, rfl, h⟩

/-- An office adds a booking under its next id. -/
theorem Office.collaborator_assigns : Office.collaborator.Assigns := by
  intro b r b' r' h
  cases hid : b.id with
  | some id =>
    obtain ⟨log, hlog⟩ :=
      gives_onArchive (Archive.gives_addBooking_assigned r.state.archive hid) r.log
    cases congrArg Prod.fst (hlog.symm.trans h)
  | none =>
    obtain ⟨log, hlog⟩ := gives_onArchive (gives_addBooking r.state.archive hid) r.log
    have hanswer := congrArg Prod.fst (hlog.symm.trans h)
    unfold Archive.outcome at hanswer
    split at hanswer
    · cases hanswer
      exact ⟨_, rfl⟩
    · cases hanswer

/-- Half an hour for participant 1, between eight and twelve. -/
def Asked.halfHour : Asked :=
  .read none (.ofValues [1] 30 (Moment.saturday 480) (Moment.saturday 720))

/-- Participant 1 is busy from nine to ten, and is booked from ten on; the one who
listens is told so. -/
theorem schedule_orderly_saturday :
    Settings.saturday.pipeline.scheduler.store.Assigns ∧
    ∃ calls told,
      (Asked.halfHour.schedule Settings.saturday.pipeline.recorded .none
        ⟨⟨Office.saturday, [], []⟩, []⟩).2.state = ⟨(Asked.halfHour.schedule
          Settings.saturday.pipeline .none ⟨Office.saturday, []⟩).2.state, calls, told⟩ ∧
      Orderly Settings.saturday.pipeline.scheduler (Asked.halfHour.parsed 20)
        (Asked.halfHour.schedule Settings.saturday.pipeline .none ⟨Office.saturday, []⟩).1
        calls told ∧
      (∃ b, .add b (.ok ⟨some 2, [.number 1], Moment.saturday 600, Moment.saturday 630⟩) ∈ calls) ∧
      told = [⟨0, ⟨some 2, [.number 1], Moment.saturday 600, Moment.saturday 630,
        Moment.saturday 0⟩⟩] := by
  obtain ⟨calls, told, hrun, horderly⟩ := schedule_orderly Settings.saturday.pipeline
    Office.collaborator_assigns .none Asked.halfHour Office.saturday []
  have hanswer : (Asked.halfHour.schedule Settings.saturday.pipeline .none
      ⟨Office.saturday, []⟩).1 =
      .ok (.ok ⟨⟨some 2, [.number 1], Moment.saturday 600, Moment.saturday 630⟩,
        [⟨some 1, "Ada"⟩]⟩) := by
    refine (Asked.halfHour.booked_eq Settings.saturday .none Office.saturday).trans ?_
    cbv
  obtain ⟨hadded, e, htold, hid, hpeople, hstart, hstop, hnow⟩ := horderly.announced _ hanswer
  have he : e = ⟨some 2, [.number 1], Moment.saturday 600, Moment.saturday 630,
      Moment.saturday 0⟩ := by
    cases e
    cases hid
    cases hpeople
    cases hstart
    cases hstop
    cases hnow
    rfl
  rw [hrun]
  exact ⟨Office.collaborator_assigns, calls, told, rfl, horderly, hadded, by rw [htold, he]; rfl⟩

end Meetings
