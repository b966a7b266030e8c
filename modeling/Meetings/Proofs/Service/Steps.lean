/-
Scheduling in three steps.

* `Scheduler.enter`, `Scheduler.look`, `Scheduler.settle` — the people of a
  request are looked up, then the commitments in its way, and then a slot is
  sought and booked;
* **`schedule_eq`** — scheduling is these three, one after another;
* `gives_enter`, `gives_look`, `settle_cases` — what each of them does to an
  office.

Design notes: between these steps others may come, so each of them is an action
of its own, which takes what the steps before it have found.
-/
import Meetings.Proofs.Office.Perform

namespace Meetings

open Meetings.Text
open Archive (kept replaced)

namespace Scheduler

variable {σ : Type}

/-- Looks up the people of a request, who must all be known. -/
def enter (s : Scheduler σ) (r : MeetingRequest) :
    Action σ (Except Failure (List Participant)) := do
  let people := bracketed (r.people.map signedDecimal)
  let window := r.earliest.spaced ++ " - " ++ r.latest.spaced
  Action.info ("Scheduling meeting for participants " ++ people ++ ", duration " ++
    signedDecimal r.duration ++ " minutes, window " ++ window)
  let known ← s.store.participants r.people
  match missingPeople r.people known with
  | first :: rest =>
    Action.warn ("Scheduling failed: missing participants " ++
      bracketed ((first :: rest).map signedDecimal))
    Action.lift (notFound first)
  | [] => return .ok known

/-- Looks up the commitments that may stand in the way of a request. -/
def look (s : Scheduler σ) (r : MeetingRequest) : Action σ (List (Option Commitment)) :=
  s.existing r.people r.earliest.zoned r.latest.zoned

/-- Seeks the earliest slot among commitments, and books it. -/
def settle (s : Scheduler σ) (r : MeetingRequest) (known : List Participant)
    (found : List (Option Commitment)) : Action σ (Except Failure BookingView) := do
  let people := bracketed (r.people.map signedDecimal)
  let window := r.earliest.spaced ++ " - " ++ r.latest.spaced
  match ← searchSlot s.grid (some (r.people.map .number)) (some r.duration) r.earliest.zoned
      r.latest.zoned found with
  | none =>
    Action.warn ("No available slot for participants " ++ people ++ " in window " ++ window)
    return .error .noSlot
  | some slot =>
    let stop ← Action.liftTime (slot.plusMinutes r.duration)
    match Booking.ofUtc none (r.people.map .number) slot stop with
    | .error fault =>
      Action.warn ("Booking creation failed for " ++ people ++ ": " ++ fault.message)
      return .error (.booking fault)
    | .ok b => return .ok (← s.commit r known b)

/-- What passes a failure on is never reached by an answer that somebody is not known. -/
theorem lift_notFound_bind {α β : Type} {next : Except Failure α → Action σ (Except Failure β)}
    (h : ∀ failure, next (.error failure) = pure (.error failure)) (id : Int) :
    (Action.lift (notFound id) >>= next) = Action.lift (notFound id) := by
  unfold notFound
  split
  · rfl
  · exact h _

/-- **Scheduling is entering, looking and settling.** -/
theorem schedule_eq (s : Scheduler σ) (r : MeetingRequest) :
    s.schedule r = (do
      match ← s.enter r with
      | .error failure => return .error failure
      | .ok known => s.settle r known (← s.look r)) := by
  unfold schedule enter look settle find
  simp only [bind_assoc]
  congr 1
  funext _
  congr 1
  funext known
  cases missingPeople r.people known with
  | cons first rest =>
    simp only [bind_assoc]
    congr 1
    funext _
    symm
    refine lift_notFound_bind (fun failure => ?_) first
    rfl
  | nil => exact (pure_bind _ _).symm

end Scheduler

/-! ### The steps of an office -/

variable {set : Settings} {o : Office} {r : MeetingRequest} {known : List Participant}
  {found : List (Option Commitment)}

/-- The known people of a request, who must be all of them. -/
def Store.knownFor (s : Store) (r : MeetingRequest) :
    Except Fault (Except Failure (List Participant)) :=
  match missingPeople r.people (s.participantsAmong (r.people.map .number)) with
  | first :: _ => notFound first
  | [] => .ok (.ok (s.participantsAmong (r.people.map .number)))

theorem gives_enter (set : Settings) (o : Office) (r : MeetingRequest) :
    (set.pipeline.scheduler.enter r).Gives o (o.archive.store.knownFor r) o := by
  have hknown := gives_query o fun s => s.participantsAmong (r.people.map .number)
  refine (Action.gives_info _ o).bind (hknown.bind ?_)
  unfold Store.knownFor
  cases missingPeople r.people (o.archive.store.participantsAmong (r.people.map .number)) with
  | cons first rest => exact (Action.gives_warn _ o).bind (Action.gives_lift _ o)
  | nil => exact Action.gives_pure _ o

theorem gives_look (set : Settings) (o : Office) (r : MeetingRequest) :
    (set.pipeline.scheduler.look r).Gives o
      (o.archive.store.inTheWay r.people r.earliest.zoned r.latest.zoned) o :=
  gives_existing o set r.people r.earliest.zoned r.latest.zoned

theorem does_settle (set : Settings) (o : Office) (r : MeetingRequest) (known : List Participant)
    (found : List (Option Commitment)) :
    (set.pipeline.scheduler.settle r known found).Does o
      (.onSlot (slotAmong set.grid r.people (some r.duration) r.earliest.zoned r.latest.zoned found)
        (o.archive.store.booking set r known)) :=
  does_onSlot (gives_searchSlot _ _ _ _ _ _ o)
    ((Action.gives_warn _ o).bind (Action.gives_pure _ o)) fun slot => does_book r known _ slot

/-- Settling answers with a booking of a slot that is found among the commitments,
which comes to be stored; or it gives another answer, and nothing changes. -/
theorem settle_cases (set : Settings) (r : MeetingRequest) (known : List Participant)
    (found : List (Option Commitment)) (hmemory : o.archive.file = none) :
    (((set.pipeline.scheduler.settle r known found).runFrom o).2.state = o ∧
      ∀ view, ((set.pipeline.scheduler.settle r known found).runFrom o).1 ≠ .ok (.ok view)) ∨
    ∃ slot stop,
      slotAmong set.grid r.people (some r.duration) r.earliest.zoned r.latest.zoned found =
        .ok (some slot) ∧
      slot.plusMinutes r.duration = .ok stop ∧
      ((set.pipeline.scheduler.settle r known found).runFrom o).1 =
        .ok (.ok ⟨o.archive.store.saved ⟨none, r.people.map .number, slot, stop⟩,
          recordsOf (r.people.map .number) known⟩) ∧
      ((set.pipeline.scheduler.settle r known found).runFrom o).2.state.archive =
        { o.archive with
          store := o.archive.store.booked ⟨none, r.people.map .number, slot, stop⟩ } := by
  obtain ⟨hanswer, hstate⟩ := (does_settle set o r known found).runFrom
  rw [hanswer, hstate]
  cases hslot : slotAmong set.grid r.people (some r.duration) r.earliest.zoned r.latest.zoned
      found with
  | error fault => exact .inl ⟨rfl, by rintro view ⟨⟩⟩
  | ok found? =>
    cases found? with
    | none => exact .inl ⟨rfl, by rintro view ⟨⟩⟩
    | some slot =>
      simp only [Change.onSlot, Store.booking]
      cases hstop : slot.plusMinutes r.duration with
      | error fault => exact .inl ⟨rfl, by rintro view ⟨⟩⟩
      | ok stop =>
        dsimp only
        cases hbooking : Booking.ofUtc none (r.people.map .number) slot stop with
        | error fault => exact .inl ⟨rfl, by rintro view ⟨⟩⟩
        | ok b =>
          obtain ⟨rfl, -⟩ := Booking.ofUtc_eq_ok_iff.mp hbooking
          have hkept (s : Store) : replaced o.archive s = (none, { o.archive with store := s }) :=
            Archive.kept_of_memory hmemory
          dsimp only
          rw [Change.apply_put_saved (congrArg Prod.fst (hkept _)), hkept]
          exact .inr ⟨slot, stop, rfl, hstop, rfl, rfl⟩

end Meetings
