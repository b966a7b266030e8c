/-
An archive in a file is as good as one in memory.

* `Fault.isOfSaving` — the faults that writing a file can have;
* `Mirrors` — an office with a file and an office in memory have the same store
  and the same deliveries, and the file holds that store;
* `Mirrors.operate`, `Mirrors.reopen` — an operation gives the same answer in
  both and keeps them so, if the file is written; so does opening the archive of
  the first one anew;
* **`said_eq_in_memory`** — as long as every file is written, operations on a
  file are answered as operations in memory, wherever the archive is opened anew.

Design notes: both offices do the same change, since a change follows from the
store alone.  What is read from the file is the store itself, not only one with
the same entries, because stores that began empty are settled.
-/
import Meetings.Proofs.Office.Growth
import Meetings.Proofs.Office.Session

namespace Meetings

/-- The fault is one of writing a file. -/
def Fault.isOfSaving : Fault → Bool
  | .storage (.unwritable _ _) => true
  | .badPath _ => true
  | .numeral .tooLongToWrite => true
  | _ => false

namespace Archive

theorem savingFault_isOfSaving (file : Path) (fault : FileFault) :
    (savingFault file fault).isOfSaving = true := by
  cases fault <;> rfl

theorem write_isOfSaving {s : Store} {file : Path} {d d' : Disk} {fault : Fault}
    (h : write s file d = (some fault, d')) : fault.isOfSaving = true := by
  unfold write at h
  split at h
  · obtain ⟨f, -, rfl⟩ := Option.map_eq_some_iff.mp (Prod.mk.inj h).1
    exact savingFault_isOfSaving file f
  · next written _ =>
    have hgiven (f : Option FileFault) :
        ((f.map (savingFault file)).getD (.numeral .tooLongToWrite)).isOfSaving = true := by
      cases f with
      | none => rfl
      | some f => exact savingFault_isOfSaving file f
    rw [← Option.some.inj (Prod.mk.inj h).1]
    exact hgiven _

theorem kept_isOfSaving {a : Archive} {fault : Fault} (h : (kept a).1 = some fault) :
    fault.isOfSaving = true := by
  unfold kept at h
  split at h
  · cases h
  · exact write_isOfSaving (Prod.ext h rfl)

end Archive

/-- A store is loaded as it is from a file that is written. -/
structure Store.Stable (s : Store) : Prop where
  valid : s.Valid
  numbered : s.Numbered
  settled : s.Settled

theorem Store.empty_stable : Store.empty.Stable :=
  ⟨empty_valid, by simp [Numbered, empty], empty_settled⟩

theorem Store.Stable.adds {g : Grid} {s s' : Store} (h : s.Stable) (hadds : s.Adds g s') :
    s'.Stable :=
  ⟨hadds.valid h.valid, hadds.numbered h.numbered, hadds.settled h.valid h.settled⟩

namespace Office

open Archive (kept replaced outcome)

variable {o m : Office} {file : Path}

/-- An office with a file and an office in memory have the same store, which any
load of the file gives, and the same deliveries. -/
structure Mirrors (file : Path) (o m : Office) : Prop where
  kept : o.archive.file = some file
  memory : m.archive.file = none
  store : o.archive.store = m.archive.store
  outbox : o.outbox = m.outbox
  stable : o.archive.store.Stable
  loads : ∀ now, Archive.load now file o.archive.disk = .ok o.archive.store

/-- A change that is answered without a fault of saving is answered alike in
memory, and leaves the two offices alike. -/
theorem Mirrors.apply {α : Type} {g : Grid} {c : Change α} (h : Mirrors file o m)
    (hadds : c.AddsTo g o.archive.store)
    (hsaved : ∀ fault, (c.apply o).1 = .error fault → fault.isOfSaving = false) :
    (c.apply o).1 = (c.apply m).1 ∧ Mirrors file (c.apply o).2 (c.apply m).2 := by
  cases c with
  | answer result => exact ⟨rfl, h⟩
  | put store told result =>
    have hmemory : replaced m.archive store = (none, { m.archive with store := store }) :=
      Archive.kept_of_memory h.memory
    obtain ⟨hstore, hfile⟩ := Archive.kept_store { o.archive with store := store }
    cases hfault : (replaced o.archive store).1 with
    | some fault =>
      -- A file that is not written gives a fault of saving, which there was not.
      have hnot := hsaved fault (by rw [Change.apply_put_failed hfault])
      rw [Archive.kept_isOfSaving hfault] at hnot
      cases hnot
    | none =>
      rw [Change.apply_put_saved hfault, Change.apply_put_saved (congrArg Prod.fst hmemory),
        hmemory]
      have hstore : (replaced o.archive store).2.store = store := hstore
      have hstable : store.Stable := h.stable.adds hadds
      -- The file was written, and a stable store is loaded as it is.
      have hload (now : Utc) :
          Archive.load now file (replaced o.archive store).2.disk = .ok store := by
        have hload := Archive.load_of_kept (show { o.archive with store := store }.file = some file
          from h.kept) hstable.valid hstable.numbered hfault now
        rwa [Archive.reloaded, hstable.settled.ofEntities] at hload
      exact ⟨rfl, {
        kept := hfile.trans h.kept
        memory := h.memory
        store := hstore
        outbox := congrArg (· ++ told) h.outbox
        stable := hstore.symm ▸ hstable
        loads := fun now => (hload now).trans (congrArg _ hstore.symm) }⟩

/-- An operation that is answered without a fault of saving is answered alike in
memory, and leaves the two offices alike. -/
theorem Mirrors.operate (h : Mirrors file o m) (set : Settings) (op : Operation)
    (hsaved : ∀ fault, .error fault ∈ Step.said o (.operate set op) → fault.isOfSaving = false) :
    Step.said o (.operate set op) = Step.said m (.operate set op) ∧
      Mirrors file (Step.after o (.operate set op)) (Step.after m (.operate set op)) := by
  rw [Step.said_operate] at hsaved
  rw [Step.said_operate, Step.said_operate, Step.after_operate, Step.after_operate, ← h.store]
  obtain ⟨hanswer, hmirrors⟩ := h.apply (change_addsTo set o.archive.store op) fun fault hfault =>
    hsaved fault (List.mem_singleton.mpr hfault.symm)
  exact ⟨congrArg (fun x => [x]) hanswer, hmirrors⟩

/-- Opening the archive anew succeeds and changes nothing. -/
theorem Mirrors.reopen (h : Mirrors file o m) (now : Utc) :
    (reopen now).Gives o (.ok ()) o :=
  gives_reopen_ok h.kept (h.loads now)

theorem Mirrors.refuse (h : Mirrors file o m) (refusal : Option Refusal) :
    Mirrors file (Step.after o (.refuse refusal)) m :=
  { h with
    loads := fun now => by
      have hload := h.loads now
      rw [Archive.load_eq] at hload ⊢
      exact (congrArg _ (Disk.refusing_content _ _ _)).trans hload }

/-- A session on a file, while every file is written, is answered as its
operations are in memory. -/
theorem Mirrors.session {session : List Step} (h : Mirrors file o m)
    (hsaved : ∀ fault, .error fault ∈ o.said session → fault.isOfSaving = false) :
    o.said session = m.said (session.filter Step.isOperation) ∧
      Mirrors file (o.after session) (m.after (session.filter Step.isOperation)) := by
  induction session generalizing o m with
  | nil => exact ⟨rfl, h⟩
  | cons step rest ih =>
    have hrest : ∀ fault, .error fault ∈ (step.after o).said rest → fault.isOfSaving = false :=
      fun fault hmem => hsaved fault (List.mem_append_right _ hmem)
    cases step with
    | operate set op =>
      obtain ⟨hanswer, hmirrors⟩ := h.operate set op fun fault hmem =>
        hsaved fault (List.mem_append_left _ hmem)
      obtain ⟨hanswers, hmirrors⟩ := ih hmirrors hrest
      refine ⟨?_, hmirrors⟩
      rw [said, hanswer, hanswers]
      rfl
    | reopen now =>
      have hafter : Step.after o (.reopen now) = o := (h.reopen now).runFrom.2
      obtain ⟨hanswers, hmirrors⟩ := ih (hafter ▸ h) hrest
      exact ⟨hanswers, hmirrors⟩
    | refuse refusal =>
      obtain ⟨hanswers, hmirrors⟩ := ih (h.refuse refusal) hrest
      exact ⟨hanswers, hmirrors⟩

theorem fresh_mirrors {disk disk' : Disk} (hmissing : disk.has file = false) :
    Mirrors file (fresh (some file) disk) (fresh none disk') where
  kept := rfl
  memory := rfl
  store := rfl
  outbox := rfl
  stable := Store.empty_stable
  loads := fun now => by
    show Archive.load now file disk = .ok Store.empty
    rw [Archive.load, hmissing]
    rfl

/-- **An archive in a file is as good as one in memory.**  From a file that is
not there, and as long as every file is written, operations give the answers and
leave the store and the deliveries that they do in memory, wherever the archive
is opened anew, which never fails. -/
theorem said_eq_in_memory {disk disk' : Disk} {session : List Step}
    (hmissing : disk.has file = false)
    (hsaved : ∀ fault, .error fault ∈ (fresh (some file) disk).said session →
      fault.isOfSaving = false) :
    let o := fresh (some file) disk
    let m := fresh none disk'
    let operations := session.filter Step.isOperation
    o.said session = m.said operations ∧
      (o.after session).archive.store = (m.after operations).archive.store ∧
      (o.after session).outbox = (m.after operations).outbox ∧
      ∀ done now, done ++ [.reopen now] <+: session →
        (reopen now).Gives (o.after done) (.ok ()) (o.after done) := by
  have hfresh : Mirrors file (fresh (some file) disk) (fresh none disk') := fresh_mirrors hmissing
  obtain ⟨hanswers, hmirrors⟩ := hfresh.session hsaved
  refine ⟨hanswers, hmirrors.store, hmirrors.outbox, fun done now hdone => ?_⟩
  obtain ⟨rest, rfl⟩ := hdone
  rw [List.append_assoc, said_append] at hsaved
  obtain ⟨-, hmirrors⟩ := hfresh.session fun fault hmem =>
    hsaved fault (List.mem_append_left _ hmem)
  exact hmirrors.reopen now

/-! ### Ada -/

/-- A disk with nothing but the file `m.json`, if that. -/
def lone (held : Option (List UInt8)) : Disk :=
  ⟨[], (held.map fun bytes => (["m.json"], .file bytes)).toList, none, []⟩

/-- On such a disk the file is written. -/
theorem replaced_lone {s s' : Store} {held : Option (List UInt8)}
    (hcut : s'.document.cut = none) : replaced ⟨s, some direct, lone held⟩ s' =
      (none, ⟨s', some direct, lone (some (Text.encodeUtf8 (Archive.fileText s')))⟩) := by
  have hsave (bytes : List UInt8) : (lone held).save direct bytes = (none, lone (some bytes)) := by
    cases held with
    | none => cbv
    | some old => cbv
  unfold replaced kept Archive.write
  simp only [hcut, hsave]
  rfl

/-- And an operation that adds is answered. -/
theorem operate_lone {set : Settings} {op : Operation} {s s' : Store}
    {held : Option (List UInt8)} {outbox told : List Delivery} {answer : Answer}
    (hchange : op.change set s = .put s' told answer) (hcut : s'.document.cut = none) :
    Step.said ⟨⟨s, some direct, lone held⟩, outbox⟩ (.operate set op) = [.ok answer] ∧
      ∃ held', Step.after ⟨⟨s, some direct, lone held⟩, outbox⟩ (.operate set op) =
        ⟨⟨s', some direct, lone held'⟩, outbox ++ told⟩ := by
  have hreplaced := @replaced_lone s s' held hcut
  rw [Step.said_operate, Step.after_operate, hchange,
    Change.apply_put_saved (congrArg Prod.fst hreplaced), hreplaced]
  exact ⟨rfl, _, rfl⟩

/-- The hour that is booked for Ada. -/
def hourOfAda : Booking := ⟨none, [.number 1], Moment.saturday 540, Moment.saturday 600⟩

theorem change_adaMeets : Operation.adaMeets.change .saturday (Store.empty.joined "Ada") =
    .put ((Store.empty.joined "Ada").booked hourOfAda)
      ((Store.empty.joined "Ada").announcements .saturday hourOfAda)
      (.booking (.ok ⟨(Store.empty.joined "Ada").saved hourOfAda, [⟨some 1, "Ada"⟩]⟩)) := by
  cbv

theorem cut_adaBooked : ((Store.empty.joined "Ada").booked hourOfAda).document.cut = none := by
  cbv

/-- Ada is registered and booked, the archive is opened anew, participants are
listed, and it is opened anew again. -/
theorem said_eq_in_memory_ada :
    (fresh (some direct) (lone none)).said [.operate .saturday .adaJoins,
      .operate .saturday .adaMeets, .reopen (Moment.saturday 0), .operate .saturday .list,
      .reopen (Moment.saturday 1)] =
    (fresh none (lone none)).said [.operate .saturday .adaJoins, .operate .saturday .adaMeets,
      .operate .saturday .list] := by
  obtain ⟨hjoins, held, hjoined⟩ := @operate_lone _ _ _ _ none [] _ _ change_adaJoins cut_adaJoined
  obtain ⟨hmeets, held', hmet⟩ := @operate_lone _ _ _ _ held ([] ++ []) _ _ change_adaMeets
    cut_adaBooked
  refine (said_eq_in_memory rfl fun fault hmem => ?_).1
  have hlist (o : Office) : Step.said o (.operate .saturday .list) =
      [.ok (.listing o.archive.store.participantList)] := Step.said_operate o .saturday .list
  simp only [said, fresh, hjoins, hjoined, hmeets, hmet, hlist] at hmem
  simp [Step.said] at hmem

end Office

end Meetings
