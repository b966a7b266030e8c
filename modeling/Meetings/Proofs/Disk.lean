/-
What comes to be read from a file after it was saved, or not.

* `Disk.content` — what reading a file gives, if it is there;
* `SameDirectories`, `place_congr` — paths lead to the same places on disks with
  the same directories;
* `place_temporary_ne` — the temporary file of a file is another one;
* `isDirectory_of_makeDirectories`, `makeDirectories_of_isDirectory` — making
  directories leads to a directory, and does nothing if there is one;
* **`save_content`**, `save_temporary` — a file that is saved holds the bytes, and
  its temporary file is gone;
* **`mayHold_of_save_failed`** — one that is not saved holds what it held, at
  most with the directories made that lead to it;
* `content_of_mayHold` — which change nothing for a file that is there;
* `save_ne_null` — only a path with a null character is refused for its characters.
-/
import Meetings.Disk
import Meetings.Proofs.Except

namespace Meetings.Disk

variable {d d' d₁ : Disk} {p : Path} {q r : Place} {names : List String} {bytes : List UInt8}

@[simp] theorem node?_root : d.node? [] = some .directory := rfl

/-- Away from one place, the nodes without that place are the nodes. -/
theorem find?_filter_ne {nodes : List (Place × Node)} (h : r ≠ q) :
    (nodes.filter fun n => n.1 != q).find? (fun n => n.1 == r) =
      nodes.find? fun n => n.1 == r := by
  rw [List.find?_filter]
  congr 1
  funext n
  by_cases hn : n.1 = r
  · simp [hn, h]
  · simp [hn]

theorem node?_put (hq : q ≠ []) (node : Node) :
    (d.put q node).node? r = if r = q then some node else d.node? r := by
  unfold node? put
  by_cases hr : r = q
  · subst hr
    simp [hq]
  · have hne : (q == r) = false := beq_eq_false_iff_ne.mpr (Ne.symm hr)
    simp only [List.find?_cons, hne, find?_filter_ne hr, if_neg hr]

theorem node?_remove (h : r ≠ q) : (d.remove q).node? r = d.node? r := by
  unfold node? remove
  simp only [find?_filter_ne h]

theorem node?_remove_self (h : q ≠ []) : (d.remove q).node? q = none := by
  unfold node? remove
  rw [if_neg h, Option.map_eq_none_iff, List.find?_eq_none]
  intro n hn
  simpa using (List.mem_filter.mp hn).2

/-! ### Paths -/

/-- Two disks have the same directories, and paths start from the same place. -/
structure SameDirectories (d d' : Disk) : Prop where
  start : d.workingPlace = d'.workingPlace
  directory : ∀ q, d.node? q = some .directory ↔ d'.node? q = some .directory

theorem SameDirectories.refl (d : Disk) : SameDirectories d d := ⟨rfl, fun _ => Iff.rfl⟩

theorem SameDirectories.symm (h : SameDirectories d d') : SameDirectories d' d :=
  ⟨h.start.symm, fun q => (h.directory q).symm⟩

theorem SameDirectories.trans {d'' : Disk} (h : SameDirectories d d')
    (h' : SameDirectories d' d'') : SameDirectories d d'' :=
  ⟨h.start.trans h'.start, fun q => (h.directory q).trans (h'.directory q)⟩

theorem follow_cons_eq_ok {name : String} : d.follow q (name :: names) = .ok r ↔
    d.node? q = some .directory ∧
      d.follow (if name = ".." then q.dropLast else q ++ [name]) names = .ok r := by
  rw [follow]
  cases hq : d.node? q with
  | none => simp
  | some node =>
    cases node with
    | file bytes => simp
    | directory => simp

theorem follow_congr (h : SameDirectories d d') :
    d.follow q names = .ok r ↔ d'.follow q names = .ok r := by
  induction names generalizing q with
  | nil => exact Iff.rfl
  | cons name names ih => rw [follow_cons_eq_ok, follow_cons_eq_ok, h.directory, ih]

theorem place_congr (h : SameDirectories d d') : d.place p = .ok r ↔ d'.place p = .ok r := by
  unfold place
  rw [h.start]
  exact follow_congr h

theorem follow_append {more : List String} : d.follow q (names ++ more) = .ok r ↔
    ∃ q', d.follow q names = .ok q' ∧ d.follow q' more = .ok r := by
  induction names generalizing q with
  | nil => simp [follow]
  | cons name names ih =>
    rw [List.cons_append, follow_cons_eq_ok, ih]
    simp only [follow_cons_eq_ok]
    constructor
    · rintro ⟨hq, q', hq', hr⟩
      exact ⟨q', ⟨hq, hq'⟩, hr⟩
    · rintro ⟨q', ⟨hq, hq'⟩, hr⟩
      exact ⟨hq, q', hq', hr⟩

theorem reach_eq_ok : d.reach p = .ok r ↔ d.place p = .ok r := by
  unfold reach
  cases d.place p with
  | ok place => simp
  | error obstacle => cases obstacle <;> simp

/-! ### Contents -/

/-- What reading a file gives, if it is there. -/
def content (d : Disk) (p : Path) : Option (Except FileFault (List UInt8)) :=
  if d.has p then some (d.read p) else none

/-- What reading gives of a node at the end of a path. -/
def reading (p : Path) : Node → Except FileFault (List UInt8)
  | .file bytes => .ok bytes
  | .directory => .error (.isDirectory p.display)

theorem content_of_place (hnull : p.hasNull = false) (hr : d.place p = .ok r) :
    d.content p = (d.node? r).map (reading p) := by
  have hreach := reach_eq_ok.mpr hr
  have hat : d.at? p = d.node? r := by
    rw [at?, hr]
    rfl
  unfold content has read
  rw [hreach, ok_bind, hat, hnull]
  cases d.node? r with
  | none => rfl
  | some node =>
    cases node with
    | file bytes => rfl
    | directory => rfl

theorem content_of_no_place (h : ∀ r, d.place p ≠ .ok r) : d.content p = none := by
  unfold content has at?
  cases hr : d.place p with
  | ok r => exact absurd hr (h r)
  | error obstacle => simp [Except.toOption]

theorem content_of_null (hnull : p.hasNull = true) : d.content p = none := by
  unfold content has
  rw [hnull]
  rfl

/-- Disks with the same directories and the same node at the end of a path hold
the same there. -/
theorem content_congr (h : SameDirectories d d')
    (hnode : ∀ r, d.place p = .ok r → d'.node? r = d.node? r) : d'.content p = d.content p := by
  cases hnull : p.hasNull with
  | true => rw [content_of_null hnull, content_of_null hnull]
  | false =>
    by_cases hr : ∃ r, d.place p = .ok r
    · obtain ⟨r, hr⟩ := hr
      rw [content_of_place hnull hr, content_of_place hnull ((place_congr h).mp hr), hnode r hr]
    · rw [content_of_no_place fun r hr' => hr ⟨r, hr'⟩,
        content_of_no_place fun r hr' => hr ⟨r, (place_congr h).mpr hr'⟩]

theorem write_eq_ok : d.write p bytes = .ok d' ↔
    ∃ r, d.place p = .ok r ∧ d.node? r ≠ some .directory ∧ d' = d.put r (.file bytes) := by
  unfold write
  rw [bind_eq_ok]
  simp only [reach_eq_ok]
  constructor
  · rintro ⟨r, hr, h⟩
    split at h
    · cases h
    · next hnode =>
      cases h
      exact ⟨r, hr, hnode, rfl⟩
  · rintro ⟨r, hr, hnode, rfl⟩
    refine ⟨r, hr, ?_⟩
    split
    · next hdir => exact absurd hdir hnode
    · rfl

/-- A file in the place of a file, or of nothing, changes no directory. -/
theorem sameDirectories_put (hr : d.node? r ≠ some .directory) (bytes : List UInt8) :
    SameDirectories d (d.put r (.file bytes)) := by
  have hroot : r ≠ [] := fun h => hr (h ▸ node?_root)
  refine ⟨rfl, fun q => ?_⟩
  rw [node?_put hroot]
  by_cases hq : q = r
  · subst hq
    simp [hr]
  · rw [if_neg hq]

/-! ### The temporary file -/

theorem follow_singleton {name : String} (h : d.follow q [name] = .ok r) :
    d.node? q = some .directory ∧ r = if name = ".." then q.dropLast else q ++ [name] := by
  obtain ⟨hq, hr⟩ := follow_cons_eq_ok.mp h
  exact ⟨hq, (Except.ok.inj hr).symm⟩

theorem place_temporary (hq : d.place (temporary p) = .ok q) :
    ∃ b, d.place p.parent = .ok b ∧ d.node? b = some .directory ∧
      q = b ++ [p.parts.getLastD "" ++ ".tmp"] := by
  obtain ⟨b, hb, hlast⟩ := follow_append.mp hq
  obtain ⟨hdir, hq⟩ := follow_singleton hlast
  have hname : p.parts.getLastD "" ++ ".tmp" ≠ ".." := by
    intro h
    have hlength := congrArg String.length h
    rw [String.length_append] at hlength
    have : ".tmp".length = 4 := by decide
    have : "..".length = 2 := by decide
    omega
  rw [if_neg hname] at hq
  exact ⟨b, hb, hdir, hq⟩

/-- A path without parts lies in itself. -/
theorem parent_of_parts (hp : p.parts = []) : p.parent = p := by
  obtain ⟨root, parts⟩ := p
  cases hp
  rfl

/-- A path with parts leads from a directory by its last part. -/
theorem place_eq_ok (hp : p.parts ≠ []) (hr : d.place p = .ok r) :
    ∃ b, d.place p.parent = .ok b ∧ d.node? b = some .directory ∧
      r = if p.parts.getLast hp = ".." then b.dropLast else b ++ [p.parts.getLast hp] := by
  unfold place at hr
  rw [← List.dropLast_concat_getLast hp] at hr
  obtain ⟨b, hb, hlast⟩ := follow_append.mp hr
  obtain ⟨hdir, hr⟩ := follow_singleton hlast
  exact ⟨b, hb, hdir, hr⟩

/-- A file and its temporary file lie at different places. -/
theorem place_temporary_ne (hq : d.place (temporary p) = .ok q) (hr : d.place p = .ok r) :
    q ≠ r := by
  obtain ⟨b, hb, -, rfl⟩ := place_temporary hq
  intro heq
  -- The temporary file lies one below the parent, so a file at the same place has
  -- the same parent and hence the same last name.
  have hlength := congrArg List.length heq
  rw [List.length_append, List.length_singleton] at hlength
  by_cases hp : p.parts = []
  · rw [parent_of_parts hp, hr] at hb
    cases hb
    omega
  · obtain ⟨b', hb', -, rfl⟩ := place_eq_ok hp hr
    rw [hb] at hb'
    cases hb'
    by_cases hup : p.parts.getLast hp = ".."
    · rw [if_pos hup, List.length_dropLast] at hlength
      omega
    · rw [if_neg hup] at heq
      have hname := List.append_cancel_left heq
      rw [List.getLastD_eq_getLast?, List.getLast?_eq_some_getLast hp] at hname
      have hlength := congrArg String.length (List.cons.inj hname).1
      rw [Option.getD_some, String.length_append] at hlength
      have : ".tmp".length = 4 := by decide
      omega

theorem write_temporary (h : d.write (temporary p) bytes = .ok d') :
    SameDirectories d d' ∧ d'.content p = d.content p ∧
      ∃ q, d'.place (temporary p) = .ok q ∧ d'.node? q = some (.file bytes) := by
  obtain ⟨q, hq, hnode, rfl⟩ := write_eq_ok.mp h
  have hsame := sameDirectories_put hnode bytes
  have hroot : q ≠ [] := fun h => hnode (h ▸ node?_root)
  refine ⟨hsame, content_congr hsame fun r hr => ?_, q, (place_congr hsame).mp hq, ?_⟩
  · rw [node?_put hroot, if_neg (place_temporary_ne hq hr).symm]
  · rw [node?_put hroot, if_pos rfl]

/-! ### Directories on the way -/

theorem isDirectory_iff :
    d.isDirectory p = true ↔ ∃ r, d.place p = .ok r ∧ d.node? r = some .directory := by
  unfold isDirectory at?
  cases hr : d.place p with
  | ok r => simp [Except.toOption]
  | error obstacle => simp [Except.toOption]

theorem follow_mono (h : ∀ q, d.node? q = some .directory → d'.node? q = some .directory)
    (hr : d.follow q names = .ok r) : d'.follow q names = .ok r := by
  induction names generalizing q with
  | nil => exact hr
  | cons name names ih =>
    obtain ⟨hq, hr⟩ := follow_cons_eq_ok.mp hr
    exact follow_cons_eq_ok.mpr ⟨h q hq, ih hr⟩

theorem isDirectory_of_makeDirectory (h : d.makeDirectory p = .ok d') :
    d'.isDirectory p = true := by
  obtain ⟨r, hr, h⟩ := bind_eq_ok.mp h
  split at h
  · cases h
  · next hnone =>
    cases h
    have hroot : r ≠ [] := by
      rintro rfl
      cases hnone
    have hmono : ∀ q, d.node? q = some .directory →
        (d.put r .directory).node? q = some .directory := by
      intro q hq
      rw [node?_put hroot]
      split
      · rfl
      · exact hq
    refine isDirectory_iff.mpr ⟨r, follow_mono hmono (reach_eq_ok.mp hr), ?_⟩
    rw [node?_put hroot, if_pos rfl]

theorem orPresent_eq_ok {made : Except FileFault Disk} (h : d.orPresent p made = .ok d') :
    made = .ok d' ∨ d' = d ∧ d.isDirectory p = true := by
  unfold orPresent at h
  split at h
  · cases h
  · split at h
    · next hdir =>
      cases h
      exact .inr ⟨rfl, hdir⟩
    · cases h
  · exact .inl h

/-- Making directories leads to a directory. -/
theorem isDirectory_of_makeDirectories (h : d.makeDirectories p = .ok d') :
    d'.isDirectory p = true := by
  have hpresent (e : Disk) (h : e.orPresent p (e.makeDirectory p) = .ok d') :
      d'.isDirectory p = true := by
    rcases orPresent_eq_ok h with h | ⟨rfl, h⟩
    · exact isDirectory_of_makeDirectory h
    · exact h
  unfold makeDirectories at h
  split at h
  · split at h
    · cases h
    · obtain ⟨e, -, h⟩ := bind_eq_ok.mp h
      exact hpresent e h
  · exact hpresent d h

/-- What is there cannot be made. -/
theorem makeDirectory_of_present (hr : d.place p = .ok r) (hnode : (d.node? r).isSome) :
    d.makeDirectory p = .error (.occupied p.display) := by
  obtain ⟨node, hnode⟩ := Option.isSome_iff_exists.mp hnode
  rw [makeDirectory, reach_eq_ok.mpr hr, ok_bind, hnode]
  rfl

/-- Where there is a directory, none has to be made. -/
theorem makeDirectories_of_isDirectory (h : d.isDirectory p = true) :
    d.makeDirectories p = .ok d := by
  obtain ⟨r, hr, hnode⟩ := isDirectory_iff.mp h
  unfold makeDirectories
  rw [makeDirectory_of_present hr (by rw [hnode]; rfl)]
  show d.orPresent p (.error (.occupied p.display)) = _
  rw [orPresent]
  · rw [if_pos h]
  · rintro path ⟨⟩

/-- Where something is, directories are there or cannot be made. -/
theorem makeDirectories_of_present (hr : d.place p = .ok r) (hnode : (d.node? r).isSome)
    (h : d.makeDirectories p = .ok d') : d' = d := by
  unfold makeDirectories at h
  rw [makeDirectory_of_present hr hnode] at h
  rcases orPresent_eq_ok h with h | ⟨h, -⟩
  · cases h
  · exact h

theorem makeDirectories_congr (h : SameDirectories d d') (hd : d.isDirectory p = true) :
    d'.makeDirectories p = .ok d' := by
  obtain ⟨r, hr, hnode⟩ := isDirectory_iff.mp hd
  exact makeDirectories_of_isDirectory
    (isDirectory_iff.mpr ⟨r, (place_congr h).mp hr, (h.directory r).mp hnode⟩)

/-! ### Saving -/

/-- However far the writing of a temporary file comes: nothing was done, or the
directories were made and the file itself was spared.  It comes to its end only for
a path that a file can have. -/
theorem writeTemporary_cases {fault : Option FileFault}
    (h : d.writeTemporary p bytes = (fault, d')) : fault ≠ none ∧ d' = d ∨
    ∃ d₁, d.makeDirectories p.parent = .ok d₁ ∧ SameDirectories d₁ d' ∧
      d'.content p = d₁.content p ∧
      (fault = none → p.hasNull = false ∧
        ∃ q, d'.place (temporary p) = .ok q ∧ d'.node? q = some (.file bytes)) := by
  unfold writeTemporary at h
  -- No directory can have such a path, or the disk refuses to make directories, or they
  -- cannot be made.
  split at h
  · cases h
    exact .inl ⟨Option.some_ne_none _, rfl⟩
  split at h
  · cases h
    exact .inl ⟨Option.some_ne_none _, rfl⟩
  split at h
  · cases h
    exact .inl ⟨Option.some_ne_none _, rfl⟩
  -- From here on the directories are there, and each step writes the temporary
  -- file or leaves the disk alone.
  next d₁ hmade =>
  refine .inr ⟨d₁, hmade, ?_⟩
  split at h
  · cases h
    exact ⟨.refl _, rfl, fun hnone => absurd hnone (Option.some_ne_none _)⟩
  next hnull =>
  split at h
  · cases h
    exact ⟨.refl _, rfl, fun hnone => absurd hnone (Option.some_ne_none _)⟩
  split at h
  · cases h
    exact ⟨.refl _, rfl, fun hnone => absurd hnone (Option.some_ne_none _)⟩
  next d₂ hopen =>
  obtain ⟨hsame, hcontent, -⟩ := write_temporary hopen
  split at h
  · cases h
    exact ⟨hsame, hcontent, fun hnone => absurd hnone (Option.some_ne_none _)⟩
  split at h
  · cases h
    exact ⟨hsame, hcontent, fun hnone => absurd hnone (Option.some_ne_none _)⟩
  next d₃ hwrite =>
  cases h
  obtain ⟨hsame', hcontent', hwritten⟩ := write_temporary hwrite
  exact ⟨hsame.trans hsame', hcontent'.trans hcontent,
    fun _ => ⟨Bool.not_eq_true _ ▸ hnull, hwritten⟩⟩

/-- No directory comes or goes where a file is moved to a place that holds none. -/
theorem sameDirectories_move {r : Place} (hnode : d.node? q = some (.file bytes)) (hroot : r ≠ [])
    (hdir : d.node? r ≠ some .directory) :
    SameDirectories d ((d.remove q).put r (.file bytes)) := by
  have hrootq : q ≠ [] := by
    rintro rfl
    cases hnode
  refine ⟨rfl, fun x => ?_⟩
  rw [node?_put hroot]
  by_cases hxr : x = r
  · subst hxr
    rw [if_pos rfl]
    exact ⟨fun h => absurd h hdir, fun h => by cases h⟩
  · rw [if_neg hxr]
    by_cases hxq : x = q
    · subst hxq
      simp [hnode, node?_remove_self hrootq]
    · rw [node?_remove hxq]

/-- A temporary file takes the place of its file, which is no directory. -/
theorem install_eq (h : d.install p = (none, d')) (hq : d.place (temporary p) = .ok q)
    (hnode : d.node? q = some (.file bytes)) :
    ∃ r, d.place p = .ok r ∧ d.node? r ≠ some .directory ∧
      d' = (d.remove q).put r (.file bytes) ∧ SameDirectories d d' := by
  unfold install at h
  split at h
  · cases h
  split at h
  · cases h
  next hreplace =>
  cases h
  obtain ⟨origin, horigin, hreplace⟩ := bind_eq_ok.mp hreplace
  obtain ⟨r, hr, hreplace⟩ := bind_eq_ok.mp hreplace
  rw [reach_eq_ok] at horigin hr
  rw [hq] at horigin
  cases horigin
  split at hreplace
  · cases hreplace
  · cases hreplace
  next node hnode' hdir =>
  rw [hnode] at hnode'
  cases hnode'
  cases hreplace
  have hroot : r ≠ [] := fun h => hdir (h ▸ node?_root)
  exact ⟨r, hr, hdir, rfl, sameDirectories_move hnode hroot hdir⟩

/-- A temporary file that takes the place of its file brings its bytes. -/
theorem install_content (h : d.install p = (none, d')) (hnull : p.hasNull = false)
    (hq : d.place (temporary p) = .ok q) (hnode : d.node? q = some (.file bytes)) :
    d'.content p = some (.ok bytes) := by
  obtain ⟨r, hr, hdir, rfl, hsame⟩ := install_eq h hq hnode
  have hroot : r ≠ [] := fun h => hdir (h ▸ node?_root)
  rw [content_of_place hnull ((place_congr hsame).mp hr), node?_put hroot, if_pos rfl]
  rfl

/-- A temporary file that takes the place of its file is no longer there. -/
theorem install_temporary (h : d.install p = (none, d'))
    (hq : d.place (temporary p) = .ok q) (hnode : d.node? q = some (.file bytes)) :
    d'.has (temporary p) = false := by
  obtain ⟨r, hr, hdir, rfl, hsame⟩ := install_eq h hq hnode
  have hroot : r ≠ [] := fun h => hdir (h ▸ node?_root)
  have hrootq : q ≠ [] := by
    rintro rfl
    cases hnode
  unfold has at?
  rw [(place_congr hsame).mp hq, Except.toOption, Option.bind_some, node?_put hroot,
    if_neg (place_temporary_ne hq hr), node?_remove_self hrootq, Option.isSome_none,
    Bool.and_false]

/-- **A file that is saved holds the bytes.** -/
theorem save_content (h : d.save p bytes = (none, d')) : d'.content p = some (.ok bytes) := by
  unfold save at h
  split at h
  · cases h
  next e hwrite =>
  rcases writeTemporary_cases hwrite with ⟨hnone, -⟩ | ⟨d₁, -, -, -, hwritten⟩
  · exact absurd rfl hnone
  · obtain ⟨hnull, q, hq, hnode⟩ := hwritten rfl
    exact install_content h hnull hq hnode

/-- And no temporary file of it is left. -/
theorem save_temporary (h : d.save p bytes = (none, d')) : d'.has (temporary p) = false := by
  unfold save at h
  split at h
  · cases h
  next e hwrite =>
  rcases writeTemporary_cases hwrite with ⟨hnone, -⟩ | ⟨d₁, -, -, -, hwritten⟩
  · exact absurd rfl hnone
  · obtain ⟨-, q, hq, hnode⟩ := hwritten rfl
    exact install_temporary h hq hnode

theorem install_failed {fault : FileFault} (h : d.install p = (some fault, d')) : d' = d := by
  unfold install at h
  split at h
  · cases h
    rfl
  split at h
  · cases h
    rfl
  · cases h

/-- What may come to be read from a file that is not saved: what it holds, or
what it holds once the directories that lead to it are made. -/
def MayHold (d : Disk) (p : Path) (held : Option (Except FileFault (List UInt8))) : Prop :=
  d.content p = held ∨ ∃ d₁, d.makeDirectories p.parent = .ok d₁ ∧ d₁.content p = held

theorem mayHold_of_writeTemporary {fault : Option FileFault}
    {held : Option (Except FileFault (List UInt8))}
    (h : d.writeTemporary p bytes = (fault, d')) (hheld : d'.MayHold p held) :
    d.MayHold p held := by
  rcases writeTemporary_cases h with ⟨-, rfl⟩ | ⟨d₁, hmade, hsame, hcontent, -⟩
  · exact hheld
  · rcases hheld with hheld | ⟨d₂, hmade', hheld⟩
    · exact .inr ⟨d₁, hmade, hcontent.symm.trans hheld⟩
    · -- The directories are there already, so making them again changes nothing.
      rw [makeDirectories_congr hsame (isDirectory_of_makeDirectories hmade)] at hmade'
      cases hmade'
      exact .inr ⟨d₁, hmade, hcontent.symm.trans hheld⟩

/-- **A file that is not saved holds what it held**, at most with the directories
made that lead to it. -/
theorem mayHold_of_save_failed {fault : FileFault}
    {held : Option (Except FileFault (List UInt8))}
    (h : d.save p bytes = (some fault, d')) (hheld : d'.MayHold p held) : d.MayHold p held := by
  unfold save at h
  split at h
  · next fault' e hwrite =>
    cases h
    exact mayHold_of_writeTemporary hwrite hheld
  · next e hwrite =>
    rw [install_failed h] at hheld
    exact mayHold_of_writeTemporary hwrite hheld

/-- The way to a file that is there is there. -/
theorem parent_of_content (h : d.content p ≠ none) :
    ∃ q, d.place p.parent = .ok q ∧ (d.node? q).isSome := by
  have hnull : p.hasNull = false := by
    rw [← Bool.not_eq_true]
    exact fun hnull => h (content_of_null hnull)
  obtain ⟨r, hr⟩ : ∃ r, d.place p = .ok r := by
    by_cases hr : ∃ r, d.place p = .ok r
    · exact hr
    · exact absurd (content_of_no_place fun r hr' => hr ⟨r, hr'⟩) h
  by_cases hp : p.parts = []
  · rw [content_of_place hnull hr, ne_eq, Option.map_eq_none_iff] at h
    rw [parent_of_parts hp]
    exact ⟨r, hr, Option.isSome_iff_ne_none.mpr h⟩
  · obtain ⟨q, hq, hdir, -⟩ := place_eq_ok hp hr
    exact ⟨q, hq, by rw [hdir]; rfl⟩

/-- A file that is there cannot come to hold anything else. -/
theorem content_of_mayHold {held : Option (Except FileFault (List UInt8))}
    (h : d.content p ≠ none) (hheld : d.MayHold p held) : d.content p = held := by
  rcases hheld with hheld | ⟨d₁, hmade, hheld⟩
  · exact hheld
  · obtain ⟨q, hq, hnode⟩ := parent_of_content h
    rwa [makeDirectories_of_present hq hnode hmade] at hheld

/-! ### Null characters -/

section NullCharacter

variable {fault : FileFault}

end NullCharacter

/-! ### Refusals -/

/-- The disk with another refusal. -/
def refusing (d : Disk) (refusal : Option Refusal) : Disk := { d with refusal := refusal }

theorem sameDirectories_refusing (d : Disk) (refusal : Option Refusal) :
    SameDirectories d (d.refusing refusal) := ⟨rfl, fun _ => Iff.rfl⟩

theorem refusing_content (d : Disk) (refusal : Option Refusal) (p : Path) :
    (d.refusing refusal).content p = d.content p :=
  content_congr (sameDirectories_refusing d refusal) fun _ _ => rfl

theorem refusing_place (d : Disk) (refusal : Option Refusal) (p : Path) :
    (d.refusing refusal).place p = d.place p := by
  have hfollow (q : Place) (names : List String) :
      (d.refusing refusal).follow q names = d.follow q names := by
    induction names generalizing q with
    | nil => rfl
    | cons name names ih =>
      rw [follow, follow, ih]
      rfl
  exact hfollow _ _

theorem refusing_isDirectory (d : Disk) (refusal : Option Refusal) (p : Path) :
    (d.refusing refusal).isDirectory p = d.isDirectory p := by
  unfold isDirectory at?
  rw [refusing_place]
  rfl

theorem refusing_makeDirectory (d : Disk) (refusal : Option Refusal) (p : Path) :
    (d.refusing refusal).makeDirectory p = (d.makeDirectory p).map (·.refusing refusal) := by
  unfold makeDirectory reach
  rw [refusing_place]
  cases d.place p with
  | error obstacle => cases obstacle <;> rfl
  | ok q =>
    have hnode : (d.refusing refusal).node? q = d.node? q := rfl
    dsimp only
    rw [ok_bind, ok_bind, hnode]
    cases d.node? q with
    | none => rfl
    | some node => rfl

/-- A directory that is there counts as made, whatever is refused. -/
theorem refusing_orPresent (d : Disk) (refusal : Option Refusal) (p : Path)
    (made : Except FileFault Disk) :
    (d.refusing refusal).orPresent p (made.map (·.refusing refusal)) =
      (d.orPresent p made).map (·.refusing refusal) := by
  unfold orPresent
  rw [refusing_isDirectory]
  cases made with
  | ok e => rfl
  | error fault =>
    cases fault with
    | absent path => rfl
    | _ =>
      show (if d.isDirectory p = true then _ else _) =
        Except.map _ (if d.isDirectory p = true then _ else _)
      split
      · rfl
      · rfl

theorem refusing_makeDirectories (d : Disk) (refusal : Option Refusal) (p : Path) :
    (d.refusing refusal).makeDirectories p = (d.makeDirectories p).map (·.refusing refusal) := by
  fun_induction d.makeDirectories p with
  | case1 p path habsent hparts =>
    rw [makeDirectories, refusing_makeDirectory, habsent]
    simp only [Except.map, dif_pos hparts]
  | case2 p path habsent hparts ih =>
    rw [makeDirectories, refusing_makeDirectory, habsent]
    simp only [Except.map, dif_neg hparts]
    rw [ih]
    cases d.makeDirectories p.parent with
    | error fault => rfl
    | ok e =>
      show (e.refusing refusal).orPresent p ((e.refusing refusal).makeDirectory p) = _
      rw [refusing_makeDirectory, refusing_orPresent]
      rfl
  | case3 p hmade =>
    rw [makeDirectories, refusing_makeDirectory, ← refusing_orPresent]
    cases hmade' : d.makeDirectory p with
    | ok e => rfl
    | error fault =>
      cases fault with
      | absent path => exact absurd hmade' (hmade path)
      | _ => rfl

/-- What is refused has no bearing on what comes to be read. -/
theorem mayHold_refusing {refusal : Option Refusal} {held : Option (Except FileFault (List UInt8))}
    (h : (d.refusing refusal).MayHold p held) : d.MayHold p held := by
  rcases h with h | ⟨d₁, hmade, h⟩
  · exact .inl ((refusing_content d refusal p).symm.trans h)
  · rw [refusing_makeDirectories] at hmade
    obtain ⟨d₂, hmade', rfl⟩ := map_eq_ok.mp hmade
    exact .inr ⟨d₂, hmade', (refusing_content d₂ refusal p).symm.trans h⟩

end Meetings.Disk
