/-
Sessions: what happens to an office, one step after another.

* `Office.reopen` — the archive of an office is opened anew from its file;
* `Step` — an operation is carried out, the archive is opened anew, or the disk
  comes to refuse a step of saving, or to refuse none;
* `Office.after`, `Office.said` — the office after a session, and the answers
  that were given;
* `after_operate`, `said_operate` — what an operation does and answers follows
  from its change;
* `after_reopen` — opening the archive anew changes nothing, or the store alone.

Design notes: a save can fail for what is on the disk and for reasons of its own,
which are refusals; both are states of the disk, so failed saves need no step of
their own.
-/
import Meetings.Proofs.Office.Perform

namespace Meetings

namespace Office

/-- Opens the archive of an office anew from its file.  If that fails, the
office is as it was; an archive in memory stays open. -/
def reopen (now : Utc) : Action Office Unit := do
  let o ← Action.state
  match o.archive.file with
  | none => return
  | some file =>
    let archive ← Archive.openFile now file o.archive.disk
    Action.setState { o with archive := archive }

variable {o : Office} {file : Path} {now : Utc} {store : Store} {fault : Fault}

theorem gives_openFile {σ : Type} {d : Disk} (s : σ) (h : Archive.load now file d = .ok store) :
    (Archive.openFile now file d).Gives s (.ok ⟨store, some file, d⟩) s := by
  unfold Archive.openFile
  rw [h]
  refine (Action.gives_lift (.ok store) s).bind ?_
  -- Only a file that is there is told of in the log.
  by_cases hthere : d.has file = true
  · rw [if_pos hthere]
    exact (Action.gives_writeAll _ s).bind (Action.gives_pure _ s)
  · rw [if_neg hthere]
    exact Action.gives_pure _ s

theorem gives_reopen_memory (hfile : o.archive.file = none) : (reopen now).Gives o (.ok ()) o := by
  refine (Action.gives_state o).bind ?_
  rw [hfile]
  exact Action.gives_pure () o

theorem gives_reopen_ok (hfile : o.archive.file = some file)
    (h : Archive.load now file o.archive.disk = .ok store) :
    (reopen now).Gives o (.ok ()) { o with archive := { o.archive with store := store } } := by
  obtain ⟨⟨s, f, d⟩, outbox⟩ := o
  cases hfile
  exact (Action.gives_state _).bind ((gives_openFile _ h).bind (Action.gives_setState _ _))

theorem gives_reopen_error (hfile : o.archive.file = some file)
    (h : Archive.load now file o.archive.disk = .error fault) :
    (reopen now).Gives o (.error fault) o := by
  obtain ⟨⟨s, f, d⟩, outbox⟩ := o
  cases hfile
  have hopen : (Archive.openFile now file d : Action Office Archive).Gives
      ⟨⟨s, some file, d⟩, outbox⟩ (.error fault) ⟨⟨s, some file, d⟩, outbox⟩ := by
    unfold Archive.openFile
    rw [h]
    exact (Action.gives_lift (.error fault) _).stop
  exact (Action.gives_state _).bind hopen.stop

end Office

/-- What can happen to an office. -/
inductive Step where
  | operate (set : Settings) (op : Operation)
  | reopen (now : Utc)
  | refuse (refusal : Option Refusal)

namespace Step

/-- The office after a step. -/
def after (o : Office) : Step → Office
  | operate set op => ((op.perform set.pipeline).runFrom o).2.state
  | reopen now => ((Office.reopen now).runFrom o).2.state
  | refuse refusal =>
    { o with archive := { o.archive with disk := o.archive.disk.refusing refusal } }

theorem after_operate (o : Office) (set : Settings) (op : Operation) :
    (operate set op).after o = ((op.change set o.archive.store).apply o).2 :=
  (perform_does o set op).runFrom.2

/-- Opening the archive anew leaves an office as it is, or brings the store that
is loaded from its file. -/
theorem after_reopen (o : Office) (now : Utc) : (reopen now).after o = o ∨
    ∃ file store, o.archive.file = some file ∧ Archive.load now file o.archive.disk = .ok store ∧
      (reopen now).after o = { o with archive := { o.archive with store := store } } := by
  cases hfile : o.archive.file with
  | none => exact .inl (Office.gives_reopen_memory hfile).runFrom.2
  | some file =>
    cases hload : Archive.load now file o.archive.disk with
    | error fault => exact .inl (Office.gives_reopen_error hfile hload).runFrom.2
    | ok store =>
      exact .inr ⟨file, store, rfl, hload, (Office.gives_reopen_ok hfile hload).runFrom.2⟩

/-- The answer that a step gives, if it is an operation. -/
def said (o : Office) : Step → List (Except Fault Answer)
  | operate set op => [((op.perform set.pipeline).runFrom o).1]
  | reopen _ | refuse _ => []

theorem said_operate (o : Office) (set : Settings) (op : Operation) :
    (operate set op).said o = [((op.change set o.archive.store).apply o).1] :=
  congrArg (fun x => [x]) (perform_does o set op).runFrom.1

/-- The step is an operation. -/
def isOperation : Step → Bool
  | operate _ _ => true
  | reopen _ | refuse _ => false

end Step

namespace Office

/-- The office after a session. -/
def after (o : Office) (session : List Step) : Office := session.foldl Step.after o

/-- The answers of a session, in order. -/
def said (o : Office) : List Step → List (Except Fault Answer)
  | [] => []
  | step :: rest => step.said o ++ (step.after o).said rest

end Office

namespace Office

/-- An office that begins with nothing, in memory or in a file that is not
there. -/
def fresh (file : Option Path) (disk : Disk) : Office := ⟨⟨Store.empty, file, disk⟩, []⟩

theorem said_append (o : Office) (s t : List Step) :
    o.said (s ++ t) = o.said s ++ (o.after s).said t := by
  induction s generalizing o with
  | nil => rfl
  | cons step rest ih =>
    rw [List.cons_append, said, ih, said, List.append_assoc]
    rfl

end Office

/-- No step moves the file of an office. -/
theorem Step.after_file (o : Office) (step : Step) :
    (step.after o).archive.file = o.archive.file := by
  cases step with
  | operate set op =>
    rw [after_operate]
    cases op.change set o.archive.store with
    | answer result => rfl
    | put store told result => exact (Archive.kept_store { o.archive with store := store }).2
  | reopen now =>
    rcases after_reopen o now with hsame | ⟨file, store, -, -, hbrought⟩
    · rw [hsame]
    · rw [hbrought]
  | refuse refusal => rfl

/-- Services with one listener, on the Saturday of `Moment.saturday`. -/
def Settings.saturday : Settings := ⟨Grid.standard, Moment.saturday 0, 1, 20, 1000⟩

/-- Ada is registered. -/
def Operation.adaJoins : Operation := .create .none (.obj [("name", .str "Ada")])

/-- An hour of that Saturday, between nine and twelve, is booked for Ada. -/
def Operation.adaMeets : Operation :=
  .schedule .none (.read none (.ofValues [1] 60 (Moment.saturday 540) (Moment.saturday 720)))

/-- The path `m.json`. -/
def Office.direct : Path := ⟨"", ["m.json"]⟩

theorem change_adaJoins : Operation.adaJoins.change .saturday Store.empty =
    .put (Store.empty.joined "Ada") [] (.participant (.ok ⟨some 1, "Ada"⟩)) := by
  cbv

theorem cut_adaJoined : (Store.empty.joined "Ada").document.cut = none := by cbv

end Meetings
