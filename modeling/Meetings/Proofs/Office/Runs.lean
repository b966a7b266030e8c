/-
Runs of scheduling that come between each other's steps.

* `Stage`, `Stage.next` — how far a run has come, and its next step;
* `World`, `World.after` — an office, the runs on it and what has happened; runs
  take their steps in any order, and participants join in between;
* **`advance_thrice`** — a run that nobody interrupts is one of scheduling;
* `Turn`, `turn_next` — all that a step of a run can do to an office in memory.

Design notes: a step makes one call of the store.  The search between looking up
and adding reads only what was found, so it belongs to the step that adds, and no
other run can tell.  Of what happens only two things matter to others, that a run
has looked and that it has added, and these are kept in order.
-/
import Meetings.Proofs.Service.Steps

namespace Meetings

/-! ### Runs -/

/-- How far a run of scheduling has come. -/
inductive Stage where
  | waiting (r : MeetingRequest)
  | entered (r : MeetingRequest) (known : List Participant)
  | looked (r : MeetingRequest) (known : List Participant) (found : List (Option Commitment))
  | ended (answer : Except Fault (Except Failure BookingView))

/-- The next step of a run: what it comes to, and the office that it leaves. -/
def Stage.next (set : Settings) (o : Office) : Stage → Stage × Office
  | waiting r =>
    let (answer, run) := (set.pipeline.scheduler.enter r).runFrom o
    (match answer with
      | .error fault => ended (.error fault)
      | .ok (.error failure) => ended (.ok (.error failure))
      | .ok (.ok known) => entered r known, run.state)
  | entered r known =>
    let (answer, run) := (set.pipeline.scheduler.look r).runFrom o
    (match answer with
      | .error fault => ended (.error fault)
      | .ok found => looked r known found, run.state)
  | looked r known found =>
    let (answer, run) := (set.pipeline.scheduler.settle r known found).runFrom o
    (ended answer, run.state)
  | ended answer => (ended answer, o)

/-- What can happen that matters to others: a run looks up commitments, or it
adds a booking. -/
inductive Mark where
  | looked (run : Nat)
  | added (run : Nat) (b : Booking)

def Mark.run : Mark → Nat
  | looked i => i
  | added i _ => i

def Mark.booking? : Mark → Option Booking
  | looked _ => none
  | added _ b => some b

/-- What happens when a run comes from one stage to another. -/
def Stage.marks (i : Nat) : Stage → Stage → List Mark
  | entered _ _, looked _ _ _ => [.looked i]
  | looked _ _ _, ended (.ok (.ok view)) => [.added i view.booking]
  | _, _ => []

/-- An office, the runs on it, and what has happened, oldest first. -/
structure World where
  office : Office
  runs : Nat → Stage
  history : List Mark

/-- What can come next: a run takes a step, or a participant is added. -/
inductive Move where
  | advance (run : Nat)
  | join (p : Participant)

namespace World

/-- The world after a move.  Each run has services of its own on the office. -/
def moved (sets : Nat → Settings) (w : World) : Move → World
  | .advance i =>
    let (stage, office) := (w.runs i).next (sets i) w.office
    ⟨office, Function.update w.runs i stage, w.history ++ (w.runs i).marks i stage⟩
  | .join p => { w with office := ((Office.peopleStore.add p).runFrom w.office).2.state }

def after (sets : Nat → Settings) (w : World) (moves : List Move) : World :=
  moves.foldl (moved sets) w

/-- Runs that wait to schedule some requests, over a store in memory. -/
def start (s : Store) (disk : Disk) (outbox : List Delivery) (requests : Nat → MeetingRequest) :
    World :=
  ⟨⟨⟨s, none, disk⟩, outbox⟩, fun i => .waiting (requests i), []⟩

def bookings (w : World) : List Booking := w.office.archive.store.bookings

/-- A run has ended with a booking. -/
def Made (w : World) (i : Nat) (b : Booking) : Prop :=
  ∃ view, w.runs i = .ended (.ok (.ok view)) ∧ view.booking = b

end World

variable {sets : Nat → Settings} {w : World} {o : Office} {i : Nat}

theorem Stage.next_waiting (set : Settings) (o : Office) (r : MeetingRequest) :
    (waiting r).next set o =
      (match o.archive.store.knownFor r with
        | .error fault => ended (.error fault)
        | .ok (.error failure) => ended (.ok (.error failure))
        | .ok (.ok known) => entered r known, o) := by
  obtain ⟨hanswer, hstate⟩ := (gives_enter set o r).runFrom
  simp only [next, hanswer, hstate]

theorem Stage.next_entered (set : Settings) (o : Office) (r : MeetingRequest)
    (known : List Participant) : (entered r known).next set o =
      (match o.archive.store.inTheWay r.people r.earliest.zoned r.latest.zoned with
        | .error fault => ended (.error fault)
        | .ok found => looked r known found, o) := by
  obtain ⟨hanswer, hstate⟩ := (gives_look set o r).runFrom
  simp only [next, hanswer, hstate]

theorem World.runs_advance :
    (w.moved sets (.advance i)).runs i = ((w.runs i).next (sets i) w.office).1 :=
  Function.update_self _ _ _

theorem World.office_advance :
    (w.moved sets (.advance i)).office = ((w.runs i).next (sets i) w.office).2 := rfl

/-- **A run that nobody interrupts is one of scheduling.** -/
theorem advance_thrice {r : MeetingRequest} (h : w.runs i = .waiting r) :
    (w.after sets [.advance i, .advance i, .advance i]).runs i =
        .ended (((sets i).pipeline.scheduler.schedule r).runFrom w.office).1 ∧
      (w.after sets [.advance i, .advance i, .advance i]).office =
        (((sets i).pipeline.scheduler.schedule r).runFrom w.office).2.state := by
  have henter := gives_enter (sets i) w.office r
  have hlook := gives_look (sets i) w.office r
  simp only [World.after, List.foldl_cons, List.foldl_nil, World.runs_advance, World.office_advance,
    h, Stage.next_waiting]
  cases hknown : w.office.archive.store.knownFor r with
  | error fault =>
    rw [hknown] at henter
    have hschedule : ((sets i).pipeline.scheduler.schedule r).Gives w.office
        (.error fault) w.office := by
      rw [Scheduler.schedule_eq]
      exact henter.stop
    rw [hschedule.runFrom.1, hschedule.runFrom.2]
    exact ⟨rfl, rfl⟩
  | ok entered =>
    rw [hknown] at henter
    cases entered with
    | error failure =>
      have hschedule : ((sets i).pipeline.scheduler.schedule r).Gives w.office
          (.ok (.error failure)) w.office := by
        rw [Scheduler.schedule_eq]
        exact henter.bind (Action.gives_pure _ _)
      rw [hschedule.runFrom.1, hschedule.runFrom.2]
      exact ⟨rfl, rfl⟩
    | ok known =>
      simp only [Stage.next_entered]
      cases hfound : w.office.archive.store.inTheWay r.people r.earliest.zoned r.latest.zoned with
      | error fault =>
        rw [hfound] at hlook
        have hschedule : ((sets i).pipeline.scheduler.schedule r).Gives w.office
            (.error fault) w.office := by
          rw [Scheduler.schedule_eq]
          exact henter.bind hlook.stop
        rw [hschedule.runFrom.1, hschedule.runFrom.2]
        exact ⟨rfl, rfl⟩
      | ok found =>
        rw [hfound] at hlook
        have hschedule : ((sets i).pipeline.scheduler.schedule r).Gives w.office
            (((sets i).pipeline.scheduler.settle r known found).runFrom w.office).1
            (((sets i).pipeline.scheduler.settle r known found).runFrom w.office).2.state := by
          rw [Scheduler.schedule_eq]
          exact henter.bind (hlook.bind (does_settle (sets i) w.office r known found).self)
        rw [hschedule.runFrom.1, hschedule.runFrom.2]
        exact ⟨rfl, rfl⟩

/-! ### What a step can do -/

/-- What a step of a run can do to an office in memory: the run comes from one
stage to another, and something may happen. -/
inductive Turn (set : Settings) (o : Office) (i : Nat) :
    Stage → Stage → Office → List Mark → Prop
  | enter {r : MeetingRequest} {known : List Participant} :
      Turn set o i (.waiting r) (.entered r known) o []
  | look {r : MeetingRequest} {known : List Participant} {found : List (Option Commitment)}
      (h : o.archive.store.inTheWay r.people r.earliest.zoned r.latest.zoned = .ok found) :
      Turn set o i (.entered r known) (.looked r known found) o [.looked i]
  | book {r : MeetingRequest} {known : List Participant} {found : List (Option Commitment)}
      {slot stop : Utc} {view : BookingView} {o' : Office}
      (hslot : slotAmong set.grid r.people (some r.duration) r.earliest.zoned r.latest.zoned found =
        .ok (some slot))
      (hstop : slot.plusMinutes r.duration = .ok stop)
      (hview : view.booking =
        o.archive.store.saved ⟨none, r.people.map .number, slot, stop⟩)
      (hafter : o'.archive = { o.archive with
        store := o.archive.store.booked ⟨none, r.people.map .number, slot, stop⟩ }) :
      Turn set o i (.looked r known found) (.ended (.ok (.ok view))) o' [.added i view.booking]
  | stop {stage : Stage} {answer : Except Fault (Except Failure BookingView)}
      (hrunning : ∀ answer, stage ≠ .ended answer) (hanswer : ∀ view, answer ≠ .ok (.ok view)) :
      Turn set o i stage (.ended answer) o []
  | rest {answer : Except Fault (Except Failure BookingView)} :
      Turn set o i (.ended answer) (.ended answer) o []

theorem turn_next (set : Settings) (i : Nat) (stage : Stage) (hmemory : o.archive.file = none) :
    Turn set o i stage (stage.next set o).1 (stage.next set o).2
      (stage.marks i (stage.next set o).1) := by
  cases stage with
  | waiting r =>
    rw [Stage.next_waiting]
    cases o.archive.store.knownFor r with
    | error fault => exact .stop (by rintro answer ⟨⟩) (by rintro view ⟨⟩)
    | ok entered =>
      cases entered with
      | error failure => exact .stop (by rintro answer ⟨⟩) (by rintro view ⟨⟩)
      | ok known => exact .enter
  | entered r known =>
    rw [Stage.next_entered]
    cases hfound : o.archive.store.inTheWay r.people r.earliest.zoned r.latest.zoned with
    | error fault => exact .stop (by rintro answer ⟨⟩) (by rintro view ⟨⟩)
    | ok found => exact .look hfound
  | looked r known found =>
    rw [Stage.next]
    dsimp only
    rcases settle_cases set r known found hmemory with
      ⟨hsame, hanswer⟩ | ⟨slot, stop, hslot, hstop, hanswer, hafter⟩
    · have hmarks : (Stage.looked r known found).marks i
          (.ended ((set.pipeline.scheduler.settle r known found).runFrom o).1) = [] := by
        unfold Stage.marks
        split
        · next heq => cases heq
        · next heq => exact absurd (Stage.ended.inj heq) (hanswer _)
        · rfl
      rw [hsame, hmarks]
      exact .stop (by rintro answer ⟨⟩) hanswer
    · rw [hanswer]
      exact .book hslot hstop rfl hafter
  | ended answer => exact .rest

end Meetings
