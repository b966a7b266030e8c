/-
What the file of an archive holds while entries are added.

* `written_of_added`, `spared_of_failed` — what a call comes to: the store is written and
  no temporary file stays, or the file is spared;
* `Ran` — an archive of a file after any calls that add to it, some saved and some not,
  with the store that was saved last;
* `Holds`, `Ran.holds` — then the file holds the text of that store, whole;
* **`file_during_run`** — at any point of a run the next call comes to that, and any load
  gives the store that was saved last;
* `failed_add_uncovers` — a call that failed brings a file to light, which had no path.

Design notes: a save fails for what is on the disk, or is refused for reasons of the disk.
Between calls anything may happen to the disk, as long as nobody writes the file.
-/
import Meetings.Proofs.Archive.FailedSave
import Meetings.Proofs.Archive.ReadBack
import Meetings.Proofs.Disk.Rooted
import Meetings.Proofs.Office.NoDoubleBooking

namespace Meetings.Archive

open Text (encodeUtf8)

variable {a : Archive} {e : Entry} {file : Path} {d : Disk} {s : Store} {fault : Fault}
  {saved : Option Store}

/-! ### One call -/

theorem spared_of_write_failed (h : d.Rooted) (hwrite : (write s file d).1 = some fault) :
    d.Spared (write s file d).2 file := by
  unfold write at hwrite ⊢
  split
  · next hcut =>
    rw [hcut] at hwrite
    obtain ⟨f, hf, -⟩ := Option.map_eq_some_iff.mp hwrite
    exact Disk.spared_of_save_failed h (Prod.ext hf rfl)
  · exact Disk.spared_of_writeTemporary h rfl

theorem spared_of_kept_failed (hfile : a.file = some file) (h : a.disk.Rooted)
    (hkept : (kept a).1 = some fault) : a.disk.Spared (kept a).2.disk file := by
  rw [kept_of_file hfile] at hkept ⊢
  exact spared_of_write_failed h hkept

theorem rooted_of_kept (hfile : a.file = some file) (h : a.disk.Rooted) :
    (kept a).2.disk.Rooted := by
  rw [kept_of_file hfile]
  show (write a.store file a.disk).2.Rooted
  unfold write
  split
  · exact h.save rfl
  · exact h.writeTemporary rfl

/-- No temporary file stays behind a file that is written. -/
theorem temporary_of_kept (hfile : a.file = some file) (h : (kept a).1 = none) :
    (kept a).2.disk.has (Disk.temporary file) = false := by
  rw [kept_of_file hfile] at h ⊢
  exact Disk.save_temporary (write_eq_none (Prod.ext h rfl)).2

/-- After a call that succeeds the file holds the whole store as it is now, and no
temporary file is left. -/
structure Written (file : Path) (a : Archive) : Prop where
  whole : a.store.document.cut = none
  text : a.disk.content file = some (.ok (encodeUtf8 (fileText a.store)))
  alone : a.disk.has (Disk.temporary file) = false

theorem written_of_added (hfile : a.file = some file) (h : (e.add.runFrom a).1 = .ok ()) :
    Written file (e.add.runFrom a).2.state := by
  cases hid : e.id with
  | some id =>
    rw [(Entry.gives_add_assigned a hid).runFrom.1] at h
    cases h
  | none =>
    obtain ⟨hanswer, hstate⟩ := (Entry.gives_add a hid).runFrom
    have hkept : (replaced a (e.into a.store)).1 = none := by
      rw [hanswer] at h
      cases hfault : (replaced a (e.into a.store)).1 with
      | none => rfl
      | some fault =>
        rw [hfault] at h
        cases h
    have hfile' : ({ a with store := e.into a.store } : Archive).file = some file := hfile
    obtain ⟨hwhole, htext⟩ := content_of_kept hfile' hkept
    rw [hstate, replaced]
    refine ⟨?_, ?_, temporary_of_kept hfile' hkept⟩
    · rwa [(kept_store _).1]
    · rwa [(kept_store _).1]

theorem spared_of_failed (hfile : a.file = some file) (hroot : a.disk.Rooted)
    (h : (e.add.runFrom a).1 = .error fault) :
    a.disk.Spared (e.add.runFrom a).2.state.disk file := by
  cases hid : e.id with
  | some id =>
    rw [(Entry.gives_add_assigned a hid).runFrom.2]
    exact .inl rfl
  | none =>
    obtain ⟨hanswer, hstate⟩ := (Entry.gives_add a hid).runFrom
    rw [hstate]
    cases hfault : (replaced a (e.into a.store)).1 with
    | none =>
      rw [hanswer, hfault] at h
      cases h
    | some fault' => exact spared_of_kept_failed hfile hroot hfault

/-! ### Runs -/

/-- An entry that can be built: with a valid name, or by the rules of bookings. -/
def Entry.Proper : Entry → Prop
  | .participant p => ValidName p.name
  | .booking b => b.Valid ∧ b.Legible

/-- An archive that was opened from a file, whatever that held, after any calls that add
to it, with the store that was saved last.  The disk may change between the calls, but
nobody writes the file. -/
inductive Ran (file : Path) : Archive → Option Store → Prop
  | opened {now : Utc} {d : Disk} {s : Store} (rooted : d.Rooted) (h : load now file d = .ok s) :
    Ran file ⟨s, some file, d⟩ none
  | saved {a : Archive} {saved : Option Store} {e : Entry} (ran : Ran file a saved)
    (proper : e.Proper) (h : (e.add.runFrom a).1 = .ok ()) :
    Ran file (e.add.runFrom a).2.state (some (e.add.runFrom a).2.state.store)
  | failed {a : Archive} {saved : Option Store} {e : Entry} {fault : Fault}
    (ran : Ran file a saved) (proper : e.Proper) (h : (e.add.runFrom a).1 = .error fault) :
    Ran file (e.add.runFrom a).2.state saved
  | disturbed {a : Archive} {saved : Option Store} {d : Disk} (ran : Ran file a saved)
    (rooted : d.Rooted) (same : d.content file = a.disk.content file) :
    Ran file { a with disk := d } saved

/-- What holds at every point of a run. -/
structure Holds (file : Path) (a : Archive) (saved : Option Store) : Prop where
  ofFile : a.file = some file
  rooted : a.disk.Rooted
  sound : a.store.Sound
  legible : a.store.Legible
  last : ∀ s, saved = some s → s.Sound ∧ s.Legible ∧ s.document.cut = none ∧
    a.disk.content file = some (.ok (encodeUtf8 (fileText s)))

/-- An entry comes into a store that stays sound and legible, or is refused. -/
theorem Holds.added (h : Holds file a saved) (proper : e.Proper) :
    (e.add.runFrom a).2.state.file = some file ∧ (e.add.runFrom a).2.state.disk.Rooted ∧
      (e.add.runFrom a).2.state.store.Sound ∧ (e.add.runFrom a).2.state.store.Legible := by
  cases hid : e.id with
  | some id =>
    rw [(Entry.gives_add_assigned a hid).runFrom.2]
    exact ⟨h.ofFile, h.rooted, h.sound, h.legible⟩
  | none =>
    have hfile : ({ a with store := e.into a.store } : Archive).file = some file := h.ofFile
    rw [(Entry.gives_add a hid).runFrom.2, replaced, (kept_store _).1, (kept_store _).2]
    refine ⟨h.ofFile, rooted_of_kept hfile h.rooted, ?_, ?_⟩
    · cases e with
      | participant p => exact h.sound.joined proper
      | booking b => exact h.sound.booked proper.1
    · cases e with
      | participant p => exact h.legible
      | booking b =>
        intro c hc
        rcases List.mem_append.mp hc with hc | hc
        · exact h.legible c hc
        · rw [List.mem_singleton.mp hc]
          exact proper.2

theorem Ran.holds (ran : Ran file a saved) : Holds file a saved := by
  -- `last` is carried by what a call comes to, the rest by `Holds.added`.
  induction ran with
  | opened rooted h => exact ⟨rfl, rooted, load_sound h, load_legible h, nofun⟩
  | @saved a saved e ran proper h ih =>
    obtain ⟨hfile, hroot, hsound, hlegible⟩ := ih.added proper
    have hwritten := written_of_added ih.ofFile h
    refine ⟨hfile, hroot, hsound, hlegible, fun s hs => ?_⟩
    cases hs
    exact ⟨hsound, hlegible, hwritten.whole, hwritten.text⟩
  | @failed a saved e fault ran proper h ih =>
    obtain ⟨hfile, hroot, hsound, hlegible⟩ := ih.added proper
    refine ⟨hfile, hroot, hsound, hlegible, fun s hs => ?_⟩
    obtain ⟨hsound', hlegible', hwhole, htext⟩ := ih.last s hs
    refine ⟨hsound', hlegible', hwhole, ?_⟩
    -- The file is there, so it is spared as it is.
    rw [(spared_of_failed ih.ofFile ih.rooted h).of_present (by rw [htext]; nofun), htext]
  | @disturbed a saved d ran rooted same ih =>
    refine ⟨ih.ofFile, rooted, ih.sound, ih.legible, fun s hs => ?_⟩
    obtain ⟨hsound', hlegible', hwhole, htext⟩ := ih.last s hs
    exact ⟨hsound', hlegible', hwhole, same.trans htext⟩

/-- **What the file of an archive holds during a run.**  After a call that succeeds it
holds the text of the whole store, and no temporary file is left.  After a call that
fails it holds what it held, but for a path that led to nothing.  Once a save has
succeeded, any load gives the store that was saved last. -/
theorem file_during_run (ran : Ran file a saved) :
    (∀ e : Entry, (e.add.runFrom a).1 = .ok () →
      (e.add.runFrom a).2.state.disk.content file =
          some (.ok (encodeUtf8 (fileText (e.add.runFrom a).2.state.store))) ∧
        (e.add.runFrom a).2.state.disk.has (Disk.temporary file) = false) ∧
    (∀ (e : Entry) fault, (e.add.runFrom a).1 = .error fault →
      a.disk.Spared (e.add.runFrom a).2.state.disk file) ∧
    ∀ s, saved = some s → ∃ t, s.Same t ∧ ∀ now, load now file a.disk = .ok t := by
  have h := ran.holds
  refine ⟨?_, ?_, ?_⟩
  · intro e hadd
    have hwritten := written_of_added h.ofFile hadd
    exact ⟨hwritten.text, hwritten.alone⟩
  · intro e fault hadd
    exact spared_of_failed h.ofFile h.rooted hadd
  · intro s hs
    obtain ⟨hsound, hlegible, hwhole, htext⟩ := h.last s hs
    refine ⟨reloaded s, hsound.same_reloaded, fun now => ?_⟩
    rw [load_of_content htext]
    exact decode_fileText_of_legible hsound.valid hlegible hwhole

/-! ### Ada and Bob -/

/-- An archive in `m.json` with Ada in it and in its file, which nothing can replace. -/
def adaHeld : Archive :=
  ⟨Store.empty.joined "Ada", some Office.direct, ⟨[], [(["m.json"],
    .file (encodeUtf8 (fileText (Store.empty.joined "Ada"))))], some ⟨.replace, "busy"⟩, []⟩⟩

theorem runFrom_participant (a : Archive) (name : String) :
    ((Entry.participant ⟨none, name⟩).add.runFrom a).1 =
        outcome (replaced a (a.store.joined name)).1 () ∧
      ((Entry.participant ⟨none, name⟩).add.runFrom a).2.state =
        (replaced a (a.store.joined name)).2 :=
  (Entry.gives_add a rfl).runFrom

theorem ran_adaHeld : Ran Office.direct adaHeld (some (Store.empty.joined "Ada")) := by
  have hopened : Ran Office.direct ⟨Store.empty, some Office.direct, Office.lone none⟩ none :=
    .opened (Disk.rooted_of_flat rfl nofun) (show load (Moment.saturday 0) _ _ = .ok _ from rfl)
  obtain ⟨hanswer, hstate⟩ :=
    runFrom_participant ⟨Store.empty, some Office.direct, Office.lone none⟩ "Ada"
  rw [Office.replaced_lone cut_adaJoined] at hanswer hstate
  have hname : ValidName "Ada" := by decide
  have hsaved := hopened.saved (show Entry.Proper (.participant ⟨none, "Ada"⟩) from hname) hanswer
  rw [hstate] at hsaved
  exact hsaved.disturbed (Disk.rooted_of_flat rfl (by simp)) rfl

/-- Ada is saved, Bob is not, and any load gives the store with Ada alone. -/
theorem file_during_run_ada :
    let run := (Entry.participant ⟨none, "Bob"⟩).add.runFrom adaHeld
    run.1 = .error (.storage (.unwritable "m.json" (.refused "busy"))) ∧
      ∃ t, (Store.empty.joined "Ada").Same t ∧
        ∀ now, load now Office.direct run.2.state.disk = .ok t := by
  intro run
  have hsave (bytes : List UInt8) : (adaHeld.disk.save Office.direct bytes).1 =
      some (.refused "busy") := by cbv
  have hcut : (adaHeld.store.joined "Bob").document.cut = none := by cbv
  have hrefused : run.1 = .error (.storage (.unwritable "m.json" (.refused "busy"))) := by
    rw [(runFrom_participant adaHeld "Bob").1,
      @replaced_of_save adaHeld _ Office.direct _ _ rfl hcut (Prod.ext (hsave _) rfl)]
    rfl
  have hname : ValidName "Bob" := by decide
  have hran := ran_adaHeld.failed (show Entry.Proper (.participant ⟨none, "Bob"⟩) from hname)
    hrefused
  exact ⟨hrefused, (file_during_run hran).2.2 _ rfl⟩

/-! ### A path that comes to lead to a file -/

/-- **A call that failed brings a file to light.**  The path `x/../m.json` leads to nothing
before the call.  The save makes `x` before it fails, and then the path leads to the
`m.json` that was there all the time. -/
theorem failed_add_uncovers :
    let a : Archive := ⟨Store.empty, some Office.roundabout, Office.blocked [0x7B, 0x7D]⟩
    let run := (Entry.participant ⟨none, "Ada"⟩).add.runFrom a
    Ran Office.roundabout a none ∧
      run.1 = .error (.storage (.unwritable "x/../m.json" (.isDirectory "x/../m.json.tmp"))) ∧
      a.disk.content Office.roundabout = none ∧
      run.2.state.disk.content Office.roundabout = some (.ok [0x7B, 0x7D]) := by
  intro a run
  have hroot : a.disk.Rooted := Disk.rooted_of_flat rfl (by simp [a, Office.blocked])
  have hsave (bytes : List UInt8) : (a.disk.save Office.roundabout bytes).1 =
        some (.isDirectory "x/../m.json.tmp") ∧
      (a.disk.save Office.roundabout bytes).2.content Office.roundabout =
        some (.ok [0x7B, 0x7D]) := ⟨by cbv, by cbv⟩
  obtain ⟨hanswer, hstate⟩ := runFrom_participant a "Ada"
  have hreplaced := @replaced_of_save a _ Office.roundabout _ _ rfl cut_adaJoined
    (Prod.ext (hsave _).1 rfl)
  refine ⟨.opened hroot (show load (Moment.saturday 0) _ _ = .ok _ from rfl), ?_, rfl, ?_⟩
  · rw [hanswer]
    exact congrArg (fun r => outcome r.1 ()) hreplaced
  · rw [hstate]
    exact (congrArg (fun r => r.2.disk.content Office.roundabout) hreplaced).trans (hsave _).2

end Meetings.Archive
