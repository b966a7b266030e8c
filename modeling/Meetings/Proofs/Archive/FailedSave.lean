/-
What a call that fails leaves in memory.

* `Entry`, `Entry.add` — a participant or a booking, and adding it to an archive;
* `Entry.gives_add` — an entry without an id comes into the store, whether or not
  the file is written; `Entry.gives_add_assigned` — another one is refused;
* **`failed_add`** — after a refusal nothing has changed, and after a save that
  failed the store is the one that the entry is in;
* `failed_add_stays` — participant 1 stays although the file cannot be written.

Design notes: the store is changed before its file is written, and nothing takes
the change back.
-/
import Meetings.Proofs.Archive.Calls

namespace Meetings.Archive

/-- What can be added to an archive. -/
inductive Entry where
  | participant (p : Participant)
  | booking (b : Booking)

namespace Entry

variable {a : Archive} {e : Entry} {fault : Fault}

/-- The id that an entry comes with. -/
def id : Entry → Option Int
  | participant p => p.id
  | booking b => b.id

/-- The fault of an entry that comes with an id. -/
def refusal (id : Int) : Entry → Fault
  | participant _ => .participantHasId id
  | booking _ => .bookingHasId id

/-- A store with an entry under the next id. -/
def into (s : Store) : Entry → Store
  | participant p => s.joined p.name
  | booking b => s.booked b

/-- Adds an entry. -/
def add : Entry → Action Archive Unit
  | participant p => do
    let _ ← addParticipant p
    return ()
  | booking b => do
    let _ ← addBooking b
    return ()

theorem outcome_map {α β : Type} (fault : Option Fault) (v : α) (f : α → β) :
    (outcome fault v).map f = outcome fault (f v) := by
  cases fault with
  | none => rfl
  | some fault => rfl

/-- An entry without an id comes into the store, and then the file is written. -/
theorem gives_add (a : Archive) (hid : e.id = none) :
    e.add.Gives a (outcome (replaced a (e.into a.store)).1 ())
      (replaced a (e.into a.store)).2 := by
  cases e with
  | participant p =>
    have hadd := (gives_addParticipant a hid).andPure fun _ => ()
    rwa [outcome_map] at hadd
  | booking b =>
    have hadd := (gives_addBooking a hid).andPure fun _ => ()
    rwa [outcome_map] at hadd

/-- An entry with an id is refused. -/
theorem gives_add_assigned {id : Int} (a : Archive) (hid : e.id = some id) :
    e.add.Gives a (.error (e.refusal id)) a := by
  cases e with
  | participant p => exact (gives_addParticipant_assigned a hid).stop
  | booking b => exact (gives_addBooking_assigned a hid).stop

theorem refusal_isOfSaving (e : Entry) (id : Int) : (e.refusal id).isOfSaving = false := by
  cases e with
  | participant p => rfl
  | booking b => rfl

/-- The next id is used up. -/
theorem into_ne (e : Entry) (s : Store) : e.into s ≠ s := by
  intro h
  cases e with
  | participant p =>
    have hnext : s.nextParticipant + 1 = s.nextParticipant := congrArg Store.nextParticipant h
    omega
  | booking b =>
    have hnext : s.nextBooking + 1 = s.nextBooking := congrArg Store.nextBooking h
    omega

end Entry

variable {a : Archive} {e : Entry} {fault : Fault}

/-- **A save that fails does not undo what was added.**  A call that is refused leaves
everything as it was.  A call whose save fails leaves the store that the same call
leaves in memory, which is never the store before it. -/
theorem failed_add (h : (e.add.runFrom a).1 = .error fault) :
    (fault.isOfSaving = false → (e.add.runFrom a).2.state = a) ∧
    (fault.isOfSaving = true →
      (e.add.runFrom a).2.state.store = (e.add.runFrom { a with file := none }).2.state.store ∧
      (e.add.runFrom a).2.state.store ≠ a.store) := by
  cases hid : e.id with
  | some id =>
    obtain ⟨hanswer, hstate⟩ := (Entry.gives_add_assigned a hid).runFrom
    rw [hanswer] at h
    cases h
    rw [e.refusal_isOfSaving]
    exact ⟨fun _ => hstate, fun htrue => absurd htrue Bool.false_ne_true⟩
  | none =>
    obtain ⟨hanswer, hstate⟩ := (Entry.gives_add a hid).runFrom
    have hmemory := (Entry.gives_add { a with file := none } hid).runFrom.2
    have hsaving : fault.isOfSaving = true := by
      rw [hanswer] at h
      cases hfault : (replaced a (e.into a.store)).1 with
      | none =>
        rw [hfault] at h
        cases h
      | some fault' =>
        rw [hfault] at h
        cases h
        exact kept_isOfSaving hfault
    rw [hstate, hmemory, replaced, replaced, (kept_store _).1, (kept_store _).1, hsaving]
    refine ⟨fun hfalse => absurd hfalse.symm Bool.false_ne_true, fun _ => ⟨rfl, ?_⟩⟩
    exact e.into_ne a.store

/-- Putting a store that can be written whole in the place of another comes to saving
it. -/
theorem replaced_of_save {s : Store} {file : Path} {d : Disk} {f : Option FileFault}
    (hfile : a.file = some file) (hcut : s.document.cut = none)
    (hsave : a.disk.save file (Text.encodeUtf8 (fileText s)) = (f, d)) :
    replaced a s = (f.map (savingFault file), ⟨s, some file, d⟩) := by
  have hfile' : ({ a with store := s } : Archive).file = some file := hfile
  rw [replaced, kept_of_file hfile']
  simp only [write, hcut, hsave, hfile]

/-- An empty archive in `m.json`, whose temporary file cannot be written for a
directory in its place. -/
def obstructed : Archive :=
  ⟨Store.empty, some Office.direct, ⟨[], [(["m.json.tmp"], .directory)], none, []⟩⟩

theorem save_obstructed : (replaced obstructed (Store.empty.joined "Ada")).1 =
    some (.storage (.unwritable "m.json" (.isDirectory "m.json.tmp"))) := by
  have hsave (bytes : List UInt8) : obstructed.disk.save Office.direct bytes =
      (some (.isDirectory "m.json.tmp"), obstructed.disk) := by cbv
  rw [@replaced_of_save obstructed _ Office.direct _ _ rfl cut_adaJoined (hsave _)]
  rfl

theorem failed_add_obstructed :
    let run := (Entry.participant ⟨none, "Ada"⟩).add.runFrom obstructed
    run.1 = .error (.storage (.unwritable "m.json" (.isDirectory "m.json.tmp"))) ∧
      run.2.state.store = ((Entry.participant ⟨none, "Ada"⟩).add.runFrom
        { obstructed with file := none }).2.state.store ∧
      run.2.state.store ≠ obstructed.store := by
  intro run
  have hanswer : run.1 =
      .error (.storage (.unwritable "m.json" (.isDirectory "m.json.tmp"))) := by
    rw [(Entry.gives_add obstructed rfl).runFrom.1]
    exact congrArg (outcome · ()) save_obstructed
  exact ⟨hanswer, (failed_add hanswer).2 rfl⟩

/-- **A participant stays although the save failed.**  The call stops with a fault of
writing the file, and participant 1 is in the store that was empty before it. -/
theorem failed_add_stays :
    let run := (addParticipant ⟨none, "Ada"⟩).runFrom obstructed
    run.1 = .error (.storage (.unwritable "m.json" (.isDirectory "m.json.tmp"))) ∧
      run.2.state.store = ⟨[⟨some 1, "Ada"⟩], [], 2, 1⟩ ∧
      obstructed.store = ⟨[], [], 1, 1⟩ := by
  intro run
  obtain ⟨hanswer, hstate⟩ := (@gives_addParticipant obstructed ⟨none, "Ada"⟩ rfl).runFrom
  refine ⟨hanswer.trans ?_, ?_, rfl⟩
  · exact congrArg (outcome · _) save_obstructed
  · rw [hstate]
    exact (kept_store _).1

end Meetings.Archive
