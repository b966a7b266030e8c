/-
Looking up the commitments of the days a window touches loses nothing.

* `daysTouched_spec` — the days touched surround the window;
* `Sees` — what a lookup may answer for a collection of bookings: some of them,
  and among these all that share a person and meet the interval asked about;
* `find_run` — how a search among looked-up commitments runs;
* **`find_eq_findSlot_all`** — it finds what a search among all bookings finds;
* `lookup_sees` — the lookup of an office answers so for its own bookings.
-/
import Mathlib
import Meetings.Office
import Meetings.Proofs.Action
import Meetings.Proofs.Slot.Prefilter

namespace Meetings

/-- The days that a window touches begin no later than the window and end after
it. -/
theorem daysTouched_spec {start stop : Zoned} {first last : Utc}
    (h : daysTouched start stop = .ok (first, last)) :
    first.wall ≤ start.instant ∧ stop.instant < last.wall := by
  unfold daysTouched at h
  obtain ⟨u, hu, h⟩ := bind_eq_ok.mp h
  obtain ⟨v, hv, h⟩ := bind_eq_ok.mp h
  obtain ⟨w, hw, h⟩ := bind_eq_ok.mp h
  cases h
  have hu : u.wall = start.instant := Moment.toUtc_wall hu
  have hv : v.wall = stop.instant := Moment.toUtc_wall hv
  have hw := Moment.plusDays_wall hw
  have hzero : (⟨0, 0⟩ : TimeOfDay).span = 0 := by decide
  simp only [Moment.startOfDay, Moment.onDay_wall, hzero] at hw ⊢
  rw [← hu, ← hv]
  constructor
  · unfold daySpan
    omega
  · show v.wall < last.wall
    unfold daySpan at hw
    omega

/-- The commitments of bookings. -/
def commitmentsOf (bookings : List Booking) : List (Option Commitment) :=
  bookings.map fun b => some b.commitment

/-- What a lookup may answer for a collection of bookings: commitments of these
bookings only, and those of all that share a person and meet the interval; more
of them, in any order and any number of times. -/
structure Sees (bookings : List Booking) (people : List PersonRef) (first last : Instant)
    (found : List (Option Commitment)) : Prop where
  sound : ∀ c, some c ∈ found → ∃ b ∈ bookings, b.commitment = c
  complete : ∀ b ∈ bookings, overlaps b.start.instant b.stop.instant first last = true →
    sharesPerson people b.people = true → some b.commitment ∈ found

/-- Within a window that the interval surrounds, the answer is as good as all
bookings. -/
theorem Sees.sameWithin {bookings : List Booking} {people : List PersonRef}
    {first last start stop : Int} {found : List (Option Commitment)}
    (h : Sees bookings people first last found) (hfirst : first ≤ start) (hlast : stop ≤ last) :
    SameWithin people start stop found (commitmentsOf bookings) := by
  intro c hs ho
  have hmem : some c ∈ commitmentsOf bookings ↔ ∃ b ∈ bookings, b.commitment = c := by
    simp [commitmentsOf]
  rw [hmem]
  constructor
  · exact h.sound c
  · rintro ⟨b, hb, rfl⟩
    obtain ⟨hlt, hlt'⟩ := overlaps_iff.mp ho
    exact h.complete b hb
      (overlaps_iff.mpr ⟨Int.lt_of_lt_of_le hlt hlast, Int.lt_of_le_of_lt hfirst hlt'⟩) hs

/-- The answer of a search among commitments. -/
def slotAmong (g : Grid) (people : List Int) (duration : Option Int) (start stop : Zoned)
    (existing : List (Option Commitment)) : Except Fault (Option Utc) :=
  ((findSlot g (some (people.map .number)) duration start stop existing).map
    Outcome.slot).mapError .time

theorem slotAmong_eq_ok {g : Grid} {people : List Int} {duration : Option Int} {start stop : Zoned}
    {existing : List (Option Commitment)} {slot : Option Utc} :
    slotAmong g people duration start stop existing = .ok slot ↔
      ∃ out, findSlot g (some (people.map .number)) duration start stop existing = .ok out ∧
        out.slot = slot :=
  mapError_eq_ok.trans map_eq_ok

theorem gives_searchSlot {σ : Type} (g : Grid) (people : List Int) (duration : Option Int)
    (start stop : Zoned) (existing : List (Option Commitment)) (t : σ) :
    (searchSlot g (some (people.map .number)) duration start stop existing).Gives t
      (slotAmong g people duration start stop existing) t := by
  unfold searchSlot slotAmong
  refine (Action.gives_writeAll _ t).bind ?_
  cases findSlot g (some (people.map .number)) duration start stop existing with
  | error f => exact (Action.gives_lift (.error (.time f)) t).stop
  | ok out => exact (Action.gives_lift (.ok out) t).bind (Action.gives_pure out.slot t)

/-- Commitments that are the same within the window give the same answer. -/
theorem slotAmong_congr {g : Grid} (hq : 0 < g.quantum) {people : List Int} {duration : Option Int}
    {start stop : Zoned} {l l' : List (Option Commitment)}
    (h : SameWithin (people.map .number) start.instant stop.instant l l') :
    slotAmong g people duration start stop l = slotAmong g people duration start stop l' := by
  have hsame : SameWithin ((some (people.map .number)).getD []) start.instant stop.instant l l' := h
  unfold slotAmong
  rw [findSlot_congr hq hsame]

/-- On the days touched, a lookup that sees the bookings answers as all bookings
do. -/
theorem slotAmong_eq_of_sees {g : Grid} (hq : 0 < g.quantum) {people : List Int}
    {duration : Option Int} {start stop : Zoned} {first last : Utc} {bookings : List Booking}
    {found : List (Option Commitment)} (hdays : daysTouched start stop = .ok (first, last))
    (hsees : Sees bookings (people.map .number) first.wall last.wall found) :
    slotAmong g people duration start stop found =
      slotAmong g people duration start stop (commitmentsOf bookings) := by
  obtain ⟨hfirst, hlast⟩ := daysTouched_spec hdays
  exact slotAmong_congr hq (hsees.sameWithin hfirst (Int.le_of_lt hlast))

namespace Scheduler

variable {σ : Type} {s : Scheduler σ} {people : List Int} {duration : Option Int}
  {start stop : Zoned} {first last : Utc} {found : List (Option Commitment)} {r r₁ : Run σ}

/-- A search in which the days touched are found and the lookup answers. -/
theorem find_run (duration : Option Int) (hpeople : people ≠ [])
    (hdays : daysTouched start stop = .ok (first, last))
    (hlookup : s.store.lookup people first last r = (.ok found, r₁)) :
    ∃ log, s.find people duration start stop r =
      (slotAmong s.grid people duration start stop found, ⟨r₁.state, log⟩) := by
  have hexisting : ∃ log, s.existing people start stop r = (.ok found, ⟨r₁.state, log⟩) := by
    unfold existing
    rw [if_neg (by simpa using hpeople), hdays, Action.bind_run,
      show Action.liftTime (.ok (first, last)) r = (.ok (first, last), r) from rfl]
    dsimp only
    rw [Action.bind_run, hlookup]
    exact ⟨_, rfl⟩
  obtain ⟨log₁, h₁⟩ := hexisting
  obtain ⟨log₂, h₂⟩ := gives_searchSlot s.grid people duration start stop found r₁.state log₁
  exact ⟨log₂, by rw [find, Action.bind_run, h₁]; exact h₂⟩

/-- A search for somebody that gives an answer has looked up the days touched. -/
theorem find_inv {slot : Option Utc} {r' : Run σ} (hpeople : people ≠ [])
    (h : s.find people duration start stop r = (.ok slot, r')) :
    ∃ first last found r₁, daysTouched start stop = .ok (first, last) ∧
      s.store.lookup people first last r = (.ok found, r₁) := by
  unfold find existing at h
  rw [if_neg (by simpa using hpeople), Action.bind_run, Action.bind_run] at h
  cases hdays : daysTouched start stop with
  | error f =>
    rw [hdays] at h
    cases h
  | ok days =>
    obtain ⟨first, last⟩ := days
    rw [hdays, show Action.liftTime (.ok (first, last)) r = (.ok (first, last), r) from rfl] at h
    dsimp only at h
    rw [Action.bind_run] at h
    rcases hlookup : s.store.lookup people first last r with ⟨f | found, r₁⟩
    · rw [hlookup] at h
      cases h
    · exact ⟨first, last, found, r₁, rfl, hlookup⟩

/-- A search for nobody finds nothing, whatever the commitments. -/
theorem find_nobody {slot : Option Utc} {r' : Run σ} {existing : List (Option Commitment)}
    (h : s.find [] duration start stop r = (.ok slot, r')) :
    slotAmong s.grid [] duration start stop existing = .ok slot := by
  obtain ⟨log, hlog⟩ := gives_searchSlot s.grid [] duration start stop [] r.state r.log
  have h' : searchSlot s.grid (some (([] : List Int).map .number)) duration start stop [] r =
      (.ok slot, r') := h
  exact congrArg Prod.fst (hlog.symm.trans h')

end Scheduler

/-! ### The lookup of an office -/

theorem mem_overlapping {s : Store} {people : List PersonRef} {start stop : Instant}
    {b : Booking} : b ∈ s.overlapping people start stop ↔
      b ∈ s.bookings ∧ overlaps b.start.instant b.stop.instant start stop = true ∧
        sharesPerson b.people people = true := by
  unfold Store.overlapping
  rw [List.mem_filter, Bool.and_eq_true]

/-- An action on the archive leaves the deliveries alone. -/
theorem gives_onArchive {α : Type} {action : Action Archive α} {o : Office} {x : Except Fault α}
    {a : Archive} (h : action.Gives o.archive x a) :
    (Office.onArchive action).Gives o x { o with archive := a } :=
  @Action.Gives.zoom _ _ _ _ _ _ Office.archive (fun a o => { o with archive := a }) o h

theorem gives_overlapping (people : List Int) (start stop : Instant) (a : Archive) :
    (Archive.overlapping people start stop).Gives a
      (.ok (a.store.overlapping (people.map .number) start stop)) a :=
  (Action.gives_state a).bind ((Action.gives_debug _ a).bind (Action.gives_pure _ a))

/-- What a store answers for an interval sees its bookings. -/
theorem sees_overlapping (s : Store) (people : List PersonRef) (start stop : Instant) :
    Sees s.bookings people start stop (commitmentsOf (s.overlapping people start stop)) where
  sound := fun c hc => by
    obtain ⟨b, hb, hbc⟩ := List.mem_map.mp hc
    exact ⟨b, (mem_overlapping.mp hb).1, Option.some.inj hbc⟩
  complete := fun b hb ho hs => by
    rw [sharesPerson_comm] at hs
    exact List.mem_map.mpr ⟨b, mem_overlapping.mpr ⟨hb, ho, hs⟩, rfl⟩

/-- The lookup of an office changes nothing and sees the bookings of its store. -/
theorem lookup_sees (o : Office) (people : List Int) (first last : Utc) :
    ∃ found, (Office.collaborator.lookup people first last).Gives o (.ok found) o ∧
      Sees o.archive.store.bookings (people.map .number) first.instant last.instant found := by
  refine ⟨_, ?_, sees_overlapping o.archive.store _ _ _⟩
  exact (gives_onArchive (gives_overlapping people first.instant last.instant o.archive)).bind
    (Action.gives_pure _ o)

theorem sees_of_lookup {r r₁ : Run Office} {people : List Int} {first last : Utc}
    {found : List (Option Commitment)}
    (h : Office.collaborator.lookup people first last r = (.ok found, r₁)) :
    Sees r.state.archive.store.bookings (people.map .number) first.instant last.instant found := by
  obtain ⟨found', hgives, hsees⟩ := lookup_sees r.state people first last
  obtain ⟨log, hlog⟩ := hgives r.log
  have hok : Except.ok found' = .ok found := congrArg Prod.fst (hlog.symm.trans h)
  cases hok
  exact hsees

/-- **Looking up loses nothing.**  When the days touched are looked up in any
collaborator that answers with what a lookup may answer for some bookings, a
search that gives an answer gives that of a search among all of these bookings;
and the lookup of an office is one that may be asked. -/
theorem find_eq_findSlot_all :
    (∀ {σ : Type} (s : Scheduler σ), 0 < s.grid.quantum →
      ∀ (bookings : List Booking) (people : List Int) (duration : Option Int) (start stop : Zoned)
        (r : Run σ),
      (∀ first last found r₁, daysTouched start stop = .ok (first, last) →
        s.store.lookup people first last r = (.ok found, r₁) →
        Sees bookings (people.map .number) first.instant last.instant found) →
      ∀ slot r', s.find people duration start stop r = (.ok slot, r') →
        ∃ out, findSlot s.grid (some (people.map .number)) duration start stop
          (commitmentsOf bookings) = .ok out ∧ out.slot = slot) ∧
    ∀ (o : Office) (people : List Int) (first last : Utc),
      ∃ found, (Office.collaborator.lookup people first last).Gives o (.ok found) o ∧
        Sees o.archive.store.bookings (people.map .number) first.instant last.instant found := by
  refine ⟨fun {σ} s hq bookings people duration start stop r hsees slot r' h => ?_, lookup_sees⟩
  have hanswer :
      slotAmong s.grid people duration start stop (commitmentsOf bookings) = .ok slot := by
    -- For nobody the lookup is not asked, and the search ends at once.
    by_cases hpeople : people = []
    · subst hpeople
      exact Scheduler.find_nobody h
    · obtain ⟨first, last, found, r₁, hdays, hlookup⟩ := Scheduler.find_inv hpeople h
      obtain ⟨log, hlog⟩ := Scheduler.find_run duration hpeople hdays hlookup
      have hs := hsees first last found r₁ hdays hlookup
      simp only [Moment.instant_utc] at hs
      rw [← slotAmong_eq_of_sees hq hdays hs]
      exact congrArg Prod.fst (hlog.symm.trans h)
  exact slotAmong_eq_ok.mp hanswer

/-- An office that keeps in memory a meeting of participant 1 on a Saturday from
nine to ten. -/
def Office.saturday : Office where
  archive := {
    store := ⟨[⟨some 1, "Ada"⟩],
      [⟨some 1, [.number 1], Moment.saturday 540, Moment.saturday 600⟩], 2, 2⟩
    file := none
    disk := ⟨[], [], none, []⟩ }
  outbox := []

theorem find_eq_findSlot_all_saturday :
    ∃ out, findSlot Grid.standard (some [.number 1]) (some 30) (Moment.saturday 480).zoned
        (Moment.saturday 720).zoned (commitmentsOf Office.saturday.archive.store.bookings) =
        .ok out ∧ out.slot = some (Moment.saturday 600) := by
  have hfind : (Scheduler.find
      (Office.pipeline Grid.standard (Moment.saturday 0) 0 20 1000).scheduler [1] (some 30)
      (Moment.saturday 480).zoned (Moment.saturday 720).zoned ⟨Office.saturday, []⟩).1 =
      .ok (some (Moment.saturday 600)) := by
    cbv
  exact find_eq_findSlot_all.1
    (Office.pipeline Grid.standard (Moment.saturday 0) 0 20 1000).scheduler (by decide)
    Office.saturday.archive.store.bookings [1] (some 30) (Moment.saturday 480).zoned
    (Moment.saturday 720).zoned ⟨Office.saturday, []⟩
    (fun _ _ _ _ _ h => sees_of_lookup h) _ _ (Prod.ext hfind rfl)

end Meetings
