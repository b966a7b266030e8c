/-
Disks on which everything lies in a directory.

* `Rooted` — every node lies in a directory, and paths start from one;
* `Rooted.put`, `Rooted.remove`, **`Rooted.save`** — it stays so when a file is
  saved, and also when that fails;
* `Rooted.content_eq` — what a path without `..` holds is what is at its names;
* **`content_makeDirectories`** — so making the directories that lead to it changes
  nothing there;
* `Spared`, **`spared_of_save_failed`** — what a path leads to after a save that failed.

Design notes: a path with `..` may lead nowhere until a directory is made, and then
lead to a file that was there all the time.
-/
import Mathlib.Data.List.Basic
import Meetings.Proofs.Disk

namespace Meetings.Disk

variable {d d' : Disk} {p : Path} {q r : Place} {names : List String} {bytes : List UInt8}

/-- Every node lies in a directory, and paths start from one. -/
structure Rooted (d : Disk) : Prop where
  start : d.node? d.workingPlace = some .directory
  inside : ∀ q name, d.node? (q ++ [name]) ≠ none → d.node? q = some .directory

/-- A disk with nothing but entries of its root, where paths start. -/
theorem rooted_of_flat (hstart : d.workingPlace = []) (hflat : ∀ n ∈ d.nodes, n.1.length = 1) :
    d.Rooted where
  start := by
    rw [hstart]
    rfl
  inside := by
    intro q name hnode
    have hne : q ++ [name] ≠ [] := List.append_ne_nil_of_right_ne_nil _ (List.cons_ne_nil _ _)
    rw [node?, if_neg hne, ne_eq, Option.map_eq_none_iff] at hnode
    obtain ⟨n, hn⟩ := Option.ne_none_iff_exists'.mp hnode
    have hlength := hflat n (List.mem_of_find?_eq_some hn)
    have hfound := List.find?_some hn
    rw [beq_iff_eq] at hfound
    -- The entry has one name, so nothing comes before it.
    rw [hfound, List.length_append, List.length_singleton] at hlength
    obtain rfl : q = [] := List.length_eq_zero_iff.mp (by omega)
    rfl

namespace Rooted

theorem dropLast (h : d.Rooted) (hq : d.node? q ≠ none) :
    d.node? q.dropLast = some .directory := by
  rcases List.eq_nil_or_concat q with rfl | ⟨b, name, rfl⟩
  · rfl
  · rw [List.concat_eq_append] at hq ⊢
    rw [List.dropLast_concat]
    exact h.inside b name hq

/-- A path ends inside a directory. -/
theorem parent_of_follow (h : d.Rooted) (hq : d.node? q.dropLast = some .directory)
    (hr : d.follow q names = .ok r) : d.node? r.dropLast = some .directory := by
  induction names generalizing q with
  | nil =>
    cases hr
    exact hq
  | cons name names ih =>
    obtain ⟨hdir, hr⟩ := follow_cons_eq_ok.mp hr
    refine ih ?_ hr
    have hup : d.node? q.dropLast = some .directory := h.dropLast (by rw [hdir]; nofun)
    by_cases hname : name = ".."
    · rw [if_pos hname]
      exact h.dropLast (by rw [hup]; nofun)
    · rw [if_neg hname, List.dropLast_concat]
      exact hdir

theorem parent_of_place (h : d.Rooted) (hr : d.place p = .ok r) :
    d.node? r.dropLast = some .directory := by
  refine h.parent_of_follow ?_ hr
  by_cases habsolute : p.isAbsolute = true
  · rw [if_pos habsolute]
    rfl
  · rw [if_neg habsolute]
    exact h.dropLast (by rw [h.start]; nofun)

/-- Something may come into a directory, but not in the place of one. -/
theorem put (h : d.Rooted) {node : Node} (hroot : r ≠ [])
    (hr : d.node? r.dropLast = some .directory)
    (hnode : d.node? r = some .directory → node = .directory) : (d.put r node).Rooted := by
  have hkeeps : ∀ q, d.node? q = some .directory → (d.put r node).node? q = some .directory := by
    intro q hq
    rw [node?_put hroot]
    by_cases hqr : q = r
    · rw [if_pos hqr, hnode (hqr ▸ hq)]
    · rw [if_neg hqr, hq]
  refine ⟨hkeeps _ h.start, ?_⟩
  intro q name hname
  refine hkeeps q ?_
  rw [node?_put hroot] at hname
  by_cases hqr : q ++ [name] = r
  · rw [← hqr, List.dropLast_concat] at hr
    exact hr
  · rw [if_neg hqr] at hname
    exact h.inside q name hname

theorem remove (h : d.Rooted) (hr : d.node? r ≠ some .directory) : (d.remove r).Rooted := by
  have hroot : r ≠ [] := fun hnil => hr (hnil ▸ node?_root)
  have hkeeps : ∀ q, d.node? q = some .directory → (d.remove r).node? q = some .directory := by
    intro q hq
    have hne : q ≠ r := fun hqr => hr (hqr ▸ hq)
    rw [node?_remove hne, hq]
  refine ⟨hkeeps _ h.start, ?_⟩
  intro q name hname
  refine hkeeps q (h.inside q name ?_)
  by_cases hqr : q ++ [name] = r
  · rw [hqr, node?_remove_self hroot] at hname
    exact absurd rfl hname
  · rwa [node?_remove hqr] at hname

/-! ### Saving -/

theorem makeDirectory (h : d.Rooted) (hmade : d.makeDirectory p = .ok d') : d'.Rooted := by
  obtain ⟨r, hr, hmade⟩ := bind_eq_ok.mp hmade
  split at hmade
  · cases hmade
  · next hnone =>
    cases hmade
    have hroot : r ≠ [] := by
      rintro rfl
      cases hnone
    exact h.put hroot (h.parent_of_place (reach_eq_ok.mp hr)) fun _ => rfl

theorem orPresent (h : d.Rooted) (hmade : d.orPresent p (d.makeDirectory p) = .ok d') :
    d'.Rooted := by
  rcases orPresent_eq_ok hmade with hmade | ⟨rfl, -⟩
  · exact h.makeDirectory hmade
  · exact h

theorem makeDirectories (h : d.Rooted) (hmade : d.makeDirectories p = .ok d') : d'.Rooted := by
  fun_induction d.makeDirectories p generalizing d' with
  | case1 p path habsent hparts => cases hmade
  | case2 p path habsent hparts ih =>
    obtain ⟨e, he, hmade⟩ := bind_eq_ok.mp hmade
    exact (ih he).orPresent hmade
  | case3 p hmade' => exact h.orPresent hmade

theorem write (h : d.Rooted) (hwrite : d.write p bytes = .ok d') : d'.Rooted := by
  obtain ⟨r, hr, hnode, rfl⟩ := write_eq_ok.mp hwrite
  exact h.put (fun hnil => hnode (hnil ▸ node?_root)) (h.parent_of_place hr)
    fun hdir => absurd hdir hnode

theorem writeTemporary {fault : Option FileFault} (h : d.Rooted)
    (hwrite : d.writeTemporary p bytes = (fault, d')) : d'.Rooted := by
  unfold Disk.writeTemporary at hwrite
  split at hwrite
  · cases hwrite
    exact h
  split at hwrite
  · cases hwrite
    exact h
  split at hwrite
  · cases hwrite
    exact h
  next d₁ hmade =>
  have h₁ := h.makeDirectories hmade
  split at hwrite
  · cases hwrite
    exact h₁
  split at hwrite
  · cases hwrite
    exact h₁
  split at hwrite
  · cases hwrite
    exact h₁
  next d₂ hopen =>
  have h₂ := h₁.write hopen
  split at hwrite
  · cases hwrite
    exact h₂
  split at hwrite
  · cases hwrite
    exact h₂
  next d₃ hwritten =>
  cases hwrite
  exact h₂.write hwritten

/-- **Everything still lies in a directory after a file was saved**, or was not. -/
theorem save {fault : Option FileFault} (h : d.Rooted) (hsave : d.save p bytes = (fault, d')) :
    d'.Rooted := by
  unfold Disk.save at hsave
  split at hsave
  · next hwrite =>
    cases hsave
    exact h.writeTemporary hwrite
  next e hwrite =>
  have he := h.writeTemporary hwrite
  cases fault with
  | some fault =>
    rw [install_failed hsave]
    exact he
  | none =>
    rcases writeTemporary_cases hwrite with ⟨hnone, -⟩ | ⟨d₁, -, -, -, hwritten⟩
    · exact absurd rfl hnone
    · obtain ⟨-, q, hq, hnode⟩ := hwritten rfl
      obtain ⟨r, hr, hdir, rfl, -⟩ := install_eq hsave hq hnode
      have hroot : r ≠ [] := fun hnil => hdir (hnil ▸ node?_root)
      have hqdir : e.node? q ≠ some .directory := by
        rw [hnode]
        nofun
      -- The directory that the file lies in is not the temporary file.
      have hparent := he.parent_of_place hr
      have hne : r.dropLast ≠ q := fun h => hqdir (h ▸ hparent)
      refine (he.remove hqdir).put hroot ?_ ?_
      · rw [node?_remove hne, hparent]
      · intro hrdir
        rw [node?_remove (place_temporary_ne hq hr).symm] at hrdir
        exact absurd hrdir hdir

end Rooted

/-! ### Paths without `..` -/

/-- The place that a path starts from. -/
def base (d : Disk) (p : Path) : Place := if p.isAbsolute then [] else d.workingPlace

theorem Rooted.base (h : d.Rooted) (p : Path) : d.node? (d.base p) = some .directory := by
  unfold Disk.base
  by_cases habsolute : p.isAbsolute = true
  · rw [if_pos habsolute]
    rfl
  · rw [if_neg habsolute]
    exact h.start

/-- What leads to a node are directories. -/
theorem Rooted.before (h : d.Rooted) {name : String} (hnode : d.node? (q ++ name :: names) ≠ none) :
    d.node? q = some .directory := by
  induction names generalizing q name with
  | nil => exact h.inside q name hnode
  | cons next names ih =>
    have hnext : d.node? (q ++ [name]) = some .directory :=
      ih (by rwa [List.append_assoc])
    exact h.inside q name (by rw [hnext]; nofun)

theorem follow_eq_append (hup : ".." ∉ names) (hr : d.follow q names = .ok r) :
    r = q ++ names := by
  induction names generalizing q with
  | nil =>
    cases hr
    rw [List.append_nil]
  | cons name names ih =>
    rw [List.mem_cons, not_or] at hup
    obtain ⟨-, hr⟩ := follow_cons_eq_ok.mp hr
    rw [if_neg (Ne.symm hup.1)] at hr
    rw [ih hup.2 hr, List.append_assoc]
    rfl

theorem Rooted.follow_of_node? (h : d.Rooted) (hup : ".." ∉ names)
    (hnode : d.node? (q ++ names) ≠ none) : d.follow q names = .ok (q ++ names) := by
  induction names generalizing q with
  | nil => rw [List.append_nil, follow]
  | cons name names ih =>
    rw [List.mem_cons, not_or] at hup
    refine follow_cons_eq_ok.mpr ⟨h.before hnode, ?_⟩
    have hassoc : q ++ name :: names = q ++ [name] ++ names := by rw [List.append_assoc]; rfl
    rw [if_neg (Ne.symm hup.1), hassoc]
    exact ih hup.2 (by rwa [← hassoc])

/-- What a path without `..` holds is what is at its names. -/
theorem Rooted.content_eq (h : d.Rooted) (hup : ".." ∉ p.parts) (hnull : p.hasNull = false) :
    d.content p = (d.node? (d.base p ++ p.parts)).map (reading p) := by
  by_cases hr : ∃ r, d.place p = .ok r
  · obtain ⟨r, hr⟩ := hr
    rw [content_of_place hnull hr, follow_eq_append hup hr]
    rfl
  · have hnone : d.node? (d.base p ++ p.parts) = none := by
      by_contra hnode
      exact hr ⟨_, h.follow_of_node? hup hnode⟩
    rw [content_of_no_place fun r hr' => hr ⟨r, hr'⟩, hnone]
    rfl

theorem length_of_follow (hr : d.follow q names = .ok r) : r.length ≤ q.length + names.length := by
  induction names generalizing q with
  | nil =>
    cases hr
    exact Nat.le_refl _
  | cons name names ih =>
    obtain ⟨-, hr⟩ := follow_cons_eq_ok.mp hr
    have hlength := ih hr
    rw [List.length_cons]
    by_cases hname : name = ".."
    · rw [if_pos hname, List.length_dropLast] at hlength
      omega
    · rw [if_neg hname, List.length_append, List.length_singleton] at hlength
      omega

/-- Directories are made on the way only. -/
theorem node?_makeDirectory (hmade : d.makeDirectory p = .ok d')
    (hq : (d.base p).length + p.parts.length < q.length) :
    d'.node? q = d.node? q ∧ d'.workingPlace = d.workingPlace := by
  obtain ⟨r, hr, hmade⟩ := bind_eq_ok.mp hmade
  split at hmade
  · cases hmade
  · next hnone =>
    cases hmade
    have hroot : r ≠ [] := by
      rintro rfl
      cases hnone
    have hlength : r.length ≤ (d.base p).length + p.parts.length :=
      length_of_follow (reach_eq_ok.mp hr)
    have hne : q ≠ r := by
      rintro rfl
      omega
    exact ⟨by rw [node?_put hroot, if_neg hne], rfl⟩

theorem node?_orPresent (hmade : d.orPresent p (d.makeDirectory p) = .ok d')
    (hq : (d.base p).length + p.parts.length < q.length) :
    d'.node? q = d.node? q ∧ d'.workingPlace = d.workingPlace := by
  rcases orPresent_eq_ok hmade with hmade | ⟨rfl, -⟩
  · exact node?_makeDirectory hmade hq
  · exact ⟨rfl, rfl⟩

theorem node?_makeDirectories (hmade : d.makeDirectories p = .ok d')
    (hq : (d.base p).length + p.parts.length < q.length) :
    d'.node? q = d.node? q ∧ d'.workingPlace = d.workingPlace := by
  fun_induction d.makeDirectories p generalizing d' with
  | case1 p path habsent hparts => cases hmade
  | case2 p path habsent hparts ih =>
    obtain ⟨e, he, hmade⟩ := bind_eq_ok.mp hmade
    have hparent : (d.base p.parent).length + p.parent.parts.length < q.length := by
      have hbase : d.base p.parent = d.base p := rfl
      rw [hbase, Path.parent, List.length_dropLast]
      omega
    obtain ⟨hnode, hstart⟩ := ih he hparent
    have hbase : e.base p = d.base p := by rw [base, base, hstart]
    obtain ⟨hnode', hstart'⟩ := node?_orPresent hmade (by rwa [hbase])
    exact ⟨hnode'.trans hnode, hstart'.trans hstart⟩
  | case3 p hmade' => exact node?_orPresent hmade hq

/-- **Making the directories that lead to a file changes nothing there**, if the path
has no part `..`. -/
theorem content_makeDirectories (h : d.Rooted) (hup : ".." ∉ p.parts)
    (hmade : d.makeDirectories p.parent = .ok d') : d'.content p = d.content p := by
  by_cases hparts : p.parts = []
  · -- The path leads to where it starts, and there is a directory.
    rw [parent_of_parts hparts] at hmade
    have hplace : d.place p = .ok (d.base p) := by
      rw [place, hparts]
      rfl
    have hdir : d.isDirectory p = true := isDirectory_iff.mpr ⟨_, hplace, h.base p⟩
    rw [makeDirectories_of_isDirectory hdir] at hmade
    cases hmade
    rfl
  · cases hnull : p.hasNull with
    | true => rw [content_of_null hnull, content_of_null hnull]
    | false =>
      have hlength : (d.base p.parent).length + p.parent.parts.length <
          (d.base p ++ p.parts).length := by
        have hbase : d.base p.parent = d.base p := rfl
        have hpos := List.length_pos_iff.mpr hparts
        rw [hbase, Path.parent, List.length_append, List.length_dropLast]
        omega
      obtain ⟨hnode, hstart⟩ := node?_makeDirectories hmade hlength
      have hbase : d'.base p = d.base p := by rw [base, base, hstart]
      rw [(h.makeDirectories hmade).content_eq hup hnull, h.content_eq hup hnull, hbase, hnode]

/-! ### Saving that fails -/

/-- What a path leads to after a file was not saved: the same as before; or, if a part of
the path is `..` and it led to nothing, what it leads to with the missing directories
made. -/
def Spared (d d' : Disk) (p : Path) : Prop :=
  d'.content p = d.content p ∨
    (".." ∈ p.parts ∧ d.content p = none ∧
      ∃ d₁, d.makeDirectories p.parent = .ok d₁ ∧ d'.content p = d₁.content p)

theorem spared_of_writeTemporary {fault : Option FileFault} (h : d.Rooted)
    (hwrite : d.writeTemporary p bytes = (fault, d')) : Spared d d' p := by
  rcases writeTemporary_cases hwrite with ⟨-, rfl⟩ | ⟨d₁, hmade, -, hcontent, -⟩
  · exact .inl rfl
  by_cases hup : ".." ∈ p.parts
  · cases hheld : d.content p with
    | none => exact .inr ⟨hup, hheld, d₁, hmade, hcontent⟩
    | some held =>
      -- The directories are there, as the file is.
      obtain ⟨q, hq, hnode⟩ := parent_of_content (Option.ne_none_iff_exists'.mpr ⟨held, hheld⟩)
      rw [makeDirectories_of_present hq hnode hmade] at hcontent
      exact .inl hcontent
  · exact .inl (hcontent.trans (content_makeDirectories h hup hmade))

/-- **A save that fails spares the file.** -/
theorem spared_of_save_failed {fault : FileFault} (h : d.Rooted)
    (hsave : d.save p bytes = (some fault, d')) : Spared d d' p := by
  unfold save at hsave
  split at hsave
  · next hwrite =>
    cases hsave
    exact spared_of_writeTemporary h hwrite
  · next hwrite =>
    rw [install_failed hsave]
    exact spared_of_writeTemporary h hwrite

/-- What is there stays. -/
theorem Spared.of_present (h : Spared d d' p) (hheld : d.content p ≠ none) :
    d'.content p = d.content p := by
  rcases h with hsame | ⟨-, hnone, -⟩
  · exact hsame
  · exact absurd hnone hheld

end Meetings.Disk
