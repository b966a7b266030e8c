/-
An archive is loaded as it was kept.

* `load_eq` — loading is a function of what the file holds;
* `storeHeld_valid`, `load_legible` — a store that is loaded is valid and legible,
  whoever wrote the file;
* `decode_fileText_of_legible` — a store of both kinds is decoded from its text;
* `kept`, `gives_keep` — what writing the file of an archive leaves and gives;
* **`load_of_kept`** — once the file is written, any load gives the store, with
  its participants by id and the ids to be given next as they follow from it;
* `mayHold_of_kept_failed` — when it is not, the file holds what it held.
-/
import Meetings.Archive
import Meetings.Proofs.Action
import Meetings.Proofs.Disk
import Meetings.Proofs.Json.Printed
import Meetings.Proofs.Store.RoundTrip

namespace Meetings.Archive

open Meetings.Text

variable {a a' : Archive} {s : Store} {now : Utc} {file : Path} {d d' : Disk}

/-- The store in what a file holds. -/
def storeHeld (now : Utc) (file : Path) :
    Option (Except FileFault (List UInt8)) → Except Fault Store
  | none => .ok Store.empty
  | some held => do
    let bytes ← held.mapError fun fault => .storage (.unreadable file.display fault)
    decode now file bytes

theorem load_eq (now : Utc) (file : Path) (d : Disk) :
    load now file d = storeHeld now file (d.content file) := by
  unfold load Disk.content
  cases d.has file with
  | true => rfl
  | false => rfl

/-- A file that can be read is decoded. -/
theorem load_of_content {bytes : List UInt8} (h : d.content file = some (.ok bytes)) :
    load now file d = decode now file bytes := by
  rw [load_eq, h]
  rfl

/-! ### What is loaded is valid -/

/-- A store that is decoded is one of the fields of a document, and these are
legible. -/
theorem ofFields_of_decode {bytes : List UInt8} (h : decode now file bytes = .ok s) :
    ∃ fields : List (String × Json), Store.ofFields now fields = .ok s ∧
      ∀ f ∈ fields, f.2.Legible := by
  obtain ⟨text, -, h⟩ := bind_eq_ok.mp h
  dsimp only at h
  split at h
  · cases h
  · cases h
  · cases h
  · next document hread =>
    split at h
    · cases h
    · next store hdocument =>
      cases h
      unfold Store.ofDocument? at hdocument
      split at hdocument
      · exact ⟨[], Option.some.inj hdocument, fun f hf => absurd hf List.not_mem_nil⟩
      · split at hdocument
        · cases Json.read_legible hread with
          | obj each => exact ⟨_, Option.some.inj hdocument, each⟩
        · cases hdocument
    · cases h

/-- So is any store in what a file holds; no file is a document without fields. -/
theorem ofFields_of_storeHeld {held : Option (Except FileFault (List UInt8))}
    (h : storeHeld now file held = .ok s) :
    ∃ fields : List (String × Json), Store.ofFields now fields = .ok s ∧
      ∀ f ∈ fields, f.2.Legible := by
  unfold storeHeld at h
  split at h
  · cases h
    exact ⟨[], rfl, fun f hf => absurd hf List.not_mem_nil⟩
  · obtain ⟨bytes, -, h⟩ := bind_eq_ok.mp h
    exact ofFields_of_decode h

theorem ofFields_of_load (h : load now file d = .ok s) :
    ∃ fields : List (String × Json), Store.ofFields now fields = .ok s ∧
      ∀ f ∈ fields, f.2.Legible := by
  rw [load_eq] at h
  exact ofFields_of_storeHeld h

/-- A store that is loaded is legible. -/
theorem load_legible (h : load now file d = .ok s) : s.Legible := by
  obtain ⟨fields, hfields, hlegible⟩ := ofFields_of_load h
  exact Store.ofFields_legible hlegible hfields

theorem storeHeld_valid {held : Option (Except FileFault (List UInt8))}
    (h : storeHeld now file held = .ok s) : s.Valid := by
  obtain ⟨fields, hfields, -⟩ := ofFields_of_storeHeld h
  exact Store.ofFields_valid hfields

/-! ### What is written is loaded -/

/-- The store that a valid store is loaded as. -/
def reloaded (s : Store) : Store := Store.ofEntities s.participantList s.bookings

/-- The store of a plain document is read from its bytes. -/
theorem decode_pretty {document : Json} (hplain : document.Plain Json.depthLimit)
    (h : Store.ofDocument? now document = some (.ok s)) :
    decode now file (encodeUtf8 document.pretty) = .ok s := by
  obtain ⟨htext, hread⟩ := Json.decode_pretty hplain
  unfold decode
  rw [htext, ok_mapError, ok_bind]
  simp only [hread, h]
  rfl

theorem decode_fileText_of_legible (hs : s.Valid) (hl : s.Legible)
    (hcut : s.document.cut = none) :
    decode now file (encodeUtf8 (fileText s)) = .ok (reloaded s) :=
  decode_pretty (Store.document_plain hs hl hcut) (Store.ofDocument_document now hs)

theorem decode_fileText (hs : s.Valid) (hn : s.Numbered) (hcut : s.document.cut = none) :
    decode now file (encodeUtf8 (fileText s)) = .ok (reloaded s) :=
  decode_fileText_of_legible hs hn.legible hcut

theorem write_eq_none (h : write s file d = (none, d')) :
    s.document.cut = none ∧ d.save file (encodeUtf8 (fileText s)) = (none, d') := by
  unfold write at h
  split at h
  · next hcut =>
    obtain ⟨hfault, hdisk⟩ := Prod.mk.inj h
    exact ⟨hcut, Prod.ext (Option.map_eq_none_iff.mp hfault) hdisk⟩
  · cases h

theorem mayHold_of_write_failed {fault : Fault}
    {held : Option (Except FileFault (List UInt8))} (h : write s file d = (some fault, d'))
    (hheld : d'.MayHold file held) : d.MayHold file held := by
  unfold write at h
  split at h
  · obtain ⟨hfault, hdisk⟩ := Prod.mk.inj h
    obtain ⟨f, hf, -⟩ := Option.map_eq_some_iff.mp hfault
    exact Disk.mayHold_of_save_failed (Prod.ext hf hdisk) hheld
  · next written _ =>
    have hwrite : d.writeTemporary file (encodeUtf8 written) =
        ((d.writeTemporary file (encodeUtf8 written)).1, d') := Prod.ext rfl (Prod.mk.inj h).2
    exact Disk.mayHold_of_writeTemporary hwrite hheld

/-- The fault of writing the file of an archive, and the archive it leaves. -/
def kept (a : Archive) : Option Fault × Archive :=
  match a.file with
  | none => (none, a)
  | some file =>
    let (fault, disk) := write a.store file a.disk
    (fault, { a with disk := disk })

/-- Going on, or stopping with a fault. -/
def outcome {α : Type} (fault : Option Fault) (v : α) : Except Fault α :=
  match fault with
  | none => .ok v
  | some fault => .error fault

theorem gives_keep (a : Archive) : keep.Gives a (outcome (kept a).1 ()) (kept a).2 := by
  refine (Action.gives_state a).bind ?_
  unfold kept
  cases a.file with
  | none => exact Action.gives_pure () a
  | some file =>
    dsimp only
    refine (Action.gives_setState a _).bind ?_
    cases (write a.store file a.disk).1 with
    | none => exact Action.gives_pure () _
    | some fault => exact Action.gives_throw fault _

theorem kept_store (a : Archive) :
    (kept a).2.store = a.store ∧ (kept a).2.file = a.file := by
  unfold kept
  split
  · exact ⟨rfl, rfl⟩
  · exact ⟨rfl, rfl⟩

theorem kept_of_file (h : a.file = some file) : kept a =
    ((write a.store file a.disk).1, { a with disk := (write a.store file a.disk).2 }) := by
  unfold kept
  rw [h]

theorem kept_of_memory (h : a.file = none) : kept a = (none, a) := by
  unfold kept
  rw [h]

/-- A file that is written holds the text of its store, whole. -/
theorem content_of_kept (hfile : a.file = some file) (h : (kept a).1 = none) :
    a.store.document.cut = none ∧
      (kept a).2.disk.content file = some (.ok (encodeUtf8 (fileText a.store))) := by
  rw [kept_of_file hfile] at h ⊢
  obtain ⟨hcut, hsave⟩ := write_eq_none (Prod.ext h rfl)
  exact ⟨hcut, Disk.save_content hsave⟩

/-- **Once the file of an archive is written, any load gives its store.** -/
theorem load_of_kept (hfile : a.file = some file) (hs : a.store.Valid) (hn : a.store.Numbered)
    (h : (kept a).1 = none) (now : Utc) :
    load now file (kept a).2.disk = .ok (reloaded a.store) := by
  obtain ⟨hcut, hcontent⟩ := content_of_kept hfile h
  rw [load_of_content hcontent]
  exact decode_fileText hs hn hcut

/-- Nor can it come to hold anything else. -/
theorem storeHeld_of_kept {held : Option (Except FileFault (List UInt8))}
    (hfile : a.file = some file) (hs : a.store.Valid) (hn : a.store.Numbered)
    (h : (kept a).1 = none) (hheld : (kept a).2.disk.MayHold file held) (now : Utc) :
    storeHeld now file held = .ok (reloaded a.store) := by
  have hpresent : (kept a).2.disk.content file ≠ none := by
    rw [(content_of_kept hfile h).2]
    exact Option.some_ne_none _
  rw [← Disk.content_of_mayHold hpresent hheld, ← load_eq]
  exact load_of_kept hfile hs hn h now

/-- **When the file is not written, it holds what it may have held before.** -/
theorem mayHold_of_kept_failed {fault : Fault} {held : Option (Except FileFault (List UInt8))}
    (hfile : a.file = some file) (h : (kept a).1 = some fault)
    (hheld : (kept a).2.disk.MayHold file held) : a.disk.MayHold file held := by
  rw [kept_of_file hfile] at h hheld
  exact mayHold_of_write_failed (Prod.ext h rfl) hheld

end Meetings.Archive
