/-
What a session comes to on a disk, whatever was printed before.

* `Session.Keeps` — a session leaves the disk alone, and goes on with a value of
  some kind or ends with a code that is not 0;
* `Session.Ends` — how the exit code and the disk go together at the end;
* `Keeps.bind`, `Keeps.thenEnds`, `ends_carryOut` — the rules for a sequence and
  for an operation on the store;
* `keeps_loadConfig`, `keeps_openOffice`, `keeps_request` — each step in front of
  an operation;
* **`Ends.ending`** — that is how a command ends.

Design notes: every way in which a command can end early has a code above 0, a
fault that breaks it off included.  So the code 0 is reached at the end only, and
what has to be known of the steps in front of an operation is that they keep the
disk.
-/
import Meetings.CommandLine.Run
import Meetings.Proofs.Office.Session

namespace Meetings

/-- The exit code of a command that ends early. -/
def Halt.code : Halt → Nat
  | exit code => code
  | broken _ => 1

namespace Session

variable {α β : Type} {m : Session α} {next : α → Session β} {d d' : Disk} {P : α → Prop}
  {Q : β → Prop}

theorem bind_run (m : Session α) (next : α → Session β) (desk : Desk) :
    (m >>= next) desk = match m desk with
      | (.ok a, desk') => next a desk'
      | (.error halt, desk') => (.error halt, desk') := by
  simp only [bind, ExceptT.bind, ExceptT.mk, StateT.bind]
  rcases m desk with ⟨_ | _, _⟩
  · rfl
  · rfl

/-! ### Steps that keep the disk -/

/-- On a disk, the session leaves it as it is, and goes on with a value of some
kind or ends with a code that is not 0. -/
def Keeps (d : Disk) (m : Session α) (P : α → Prop) : Prop :=
  ∀ out, ∃ out' x, m ⟨d, out⟩ = (x, ⟨d, out'⟩) ∧ (∀ a, x = .ok a → P a) ∧
    ∀ halt, x = .error halt → halt.code ≠ 0

theorem keeps_pure (d : Disk) {a : α} (h : P a) : Keeps d (pure a) P := by
  intro out
  refine ⟨out, .ok a, rfl, ?_, fun halt hhalt => by cases hhalt⟩
  rintro b ⟨⟩
  exact h

theorem keeps_throw (d : Disk) {halt : Halt} (h : halt.code ≠ 0) :
    Keeps d (throw halt : Session α) P := by
  intro out
  refine ⟨out, .error halt, rfl, fun a ha => (by cases ha), ?_⟩
  rintro halt' ⟨⟩
  exact h

theorem Keeps.bind (hm : Keeps d m P) (hnext : ∀ a, P a → Keeps d (next a) Q) :
    Keeps d (m >>= next) Q := by
  intro out
  obtain ⟨out₁, x, hrun, hok, hhalt⟩ := hm out
  rw [bind_run, hrun]
  cases x with
  | ok a => exact hnext a (hok a rfl) out₁
  | error halt =>
    refine ⟨out₁, .error halt, rfl, fun b hb => (by cases hb), ?_⟩
    rintro halt' ⟨⟩
    exact hhalt halt rfl

theorem keeps_put (d : Disk) (cs : List Char) : Keeps d (put cs) fun _ => True :=
  fun out => ⟨out ++ String.ofList cs, .ok (), rfl, fun _ _ => trivial,
    fun halt hhalt => by cases hhalt⟩

theorem keeps_breakOff (d : Disk) (fault : RunFault) :
    Keeps d (breakOff fault : Session α) P :=
  keeps_throw d (show (1 : Nat) ≠ 0 by decide)

theorem keeps_withPlain (d : Disk) (plain : Except MarkupFault α) {act : α → Session Unit}
    (h : ∀ a, Keeps d (act a) fun _ => True) : Keeps d (withPlain plain act) fun _ => True := by
  cases plain with
  | ok a => exact h a
  | error fault => exact keeps_breakOff d _

theorem keeps_print (d : Disk) (text : String) : Keeps d (print text) fun _ => True :=
  keeps_withPlain d _ fun _ => keeps_put d _

theorem keeps_printTable (d : Disk) (t : Table) : Keeps d (printTable t) fun _ => True :=
  (keeps_print d "").bind fun _ _ =>
    (keeps_withPlain d _ fun _ => keeps_put d _).bind fun _ _ => keeps_print d ""

theorem keeps_stop (d : Disk) {code : Nat} (hcode : code ≠ 0) (text : String) :
    Keeps d (stop code text : Session α) P :=
  (keeps_print d text).bind fun _ _ => keeps_throw d hcode

theorem keeps_refuse (d : Disk) (reason : String) : Keeps d (refuse reason : Session α) P :=
  keeps_stop d (by decide) _

theorem exitCode_ne_zero (kind : FailureKind) : kind.exitCode ≠ 0 := by
  cases kind <;> decide

theorem keeps_succeed (d : Disk) (result : Except Failure α) :
    Keeps d (succeed result) fun a => result = .ok a := by
  cases result with
  | ok a => exact keeps_pure d rfl
  | error failure => exact keeps_stop d (exitCode_ne_zero _) _

theorem keeps_withinCalendar (d : Disk) (result : Except TimeFault α) :
    Keeps d (withinCalendar result) fun _ => True := by
  cases result with
  | ok a => exact keeps_pure d trivial
  | error fault => exact keeps_breakOff d _

variable {file : Option Path} {now : Utc} {config : Config}

theorem get_run (desk : Desk) : (get : Session Desk) desk = (.ok desk, desk) := rfl

/-- A configuration that is loaded is gone on with. -/
theorem loadConfig_ok (h : Config.load d file = .ok config) (out : String) :
    loadConfig file ⟨d, out⟩ = (.ok config, ⟨d, out⟩) := by
  unfold loadConfig
  rw [bind_run, get_run]
  dsimp only
  rw [h]
  rfl

/-- A fault of the configuration is reported or breaks off. -/
theorem loadConfig_error {fault : ConfigFault} (h : Config.load d file = .error fault)
    (out : String) : loadConfig file ⟨d, out⟩ =
      (if fault.isReported then refuse fault.message else breakOff (.config fault)) ⟨d, out⟩ := by
  unfold loadConfig
  rw [bind_run, get_run]
  dsimp only
  rw [h]

theorem keeps_loadConfig (d : Disk) (file : Option Path) :
    Keeps d (loadConfig file) fun config => Config.load d file = .ok config := by
  intro out
  cases hload : Config.load d file with
  | ok config =>
    refine ⟨out, .ok config, loadConfig_ok hload out, ?_, fun halt hhalt => by cases hhalt⟩
    rintro config' ⟨⟩
    rfl
  | error fault =>
    rw [loadConfig_error hload]
    split
    · exact keeps_refuse d _ out
    · exact keeps_breakOff d _ out

/-- A store that is loaded is opened. -/
theorem openOffice_ok {s : Store} (h : Archive.load now config.dataFile d = .ok s) (out : String) :
    openOffice now config ⟨d, out⟩ = (.ok ⟨⟨s, some config.dataFile, d⟩, []⟩, ⟨d, out⟩) := by
  unfold openOffice
  rw [bind_run, get_run]
  dsimp only
  rw [(Office.gives_openFile () h).runFrom.1]
  rfl

/-- A fault of the store is reported or breaks off. -/
theorem openOffice_error {fault : Fault} (h : Archive.load now config.dataFile d = .error fault)
    (out : String) : openOffice now config ⟨d, out⟩ =
      (if fault.isReported then refuse fault.message
        else breakOff (.operation fault)) ⟨d, out⟩ := by
  have hopen : (Archive.openFile now config.dataFile d : Action Unit Archive).Gives ()
      (.error fault) () := by
    unfold Archive.openFile
    rw [h]
    exact (Action.gives_lift (.error fault) ()).stop
  unfold openOffice
  rw [bind_run, get_run]
  dsimp only
  rw [hopen.runFrom.1]

theorem keeps_openOffice (now : Utc) (config : Config) (d : Disk) :
    Keeps d (openOffice now config) fun office =>
      ∃ s, Archive.load now config.dataFile d = .ok s ∧
        office = ⟨⟨s, some config.dataFile, d⟩, []⟩ := by
  intro out
  cases hload : Archive.load now config.dataFile d with
  | ok s =>
    refine ⟨out, _, openOffice_ok hload out, ?_, fun halt hhalt => by cases hhalt⟩
    rintro office ⟨⟩
    exact ⟨s, rfl, rfl⟩
  | error fault =>
    rw [openOffice_error hload]
    split
    · exact keeps_refuse d _ out
    · exact keeps_breakOff d _ out

theorem keeps_readTime (d : Disk) (now : Utc) (label text : String) :
    Keeps d (readTime now label text) fun _ => True := by
  have hrefuse (reason : String) : Keeps d
      (stop FailureKind.timeRange.exitCode (unreadable label text reason) : Session Utc)
      fun _ => True := keeps_stop d (exitCode_ne_zero _) _
  unfold readTime
  dsimp only
  split
  · exact keeps_withinCalendar d _
  · exact hrefuse _
  · exact hrefuse _
  · exact keeps_breakOff d _
  · exact hrefuse _

theorem keeps_window (d : Disk) (now : Utc) (config : Config) (o : SearchOptions) :
    Keeps d (window now config o) fun _ => True := by
  have hpair (start stop : Utc) : Keeps d (pure (start, stop)) fun _ => True :=
    keeps_pure d trivial
  have hday (start : Utc) : Keeps d
      (withinCalendar (start.plusDays config.windowDays) >>= fun stop => pure (start, stop))
      fun _ => True :=
    (keeps_withinCalendar d _).bind fun stop _ => hpair start stop
  have hread (start : Utc) (text : String) :
      Keeps d (readTime now "end" text >>= fun stop => pure (start, stop)) fun _ => True :=
    (keeps_readTime d now _ text).bind fun stop _ => hpair start stop
  obtain ⟨duration, start, stop⟩ := o
  cases start with
  | none =>
    cases stop with
    | none => exact hday now
    | some last => exact hread now last
  | some first =>
    refine (keeps_readTime d now "start" first).bind fun start _ => ?_
    cases stop with
    | none => exact hday start
    | some last => exact hread start last

theorem keeps_request (d : Disk) (now : Utc) (config : Config) (people : List Int)
    (o : SearchOptions) : Keeps d (request now config people o) fun fields =>
      ∃ start stop, fields =
        .ofValues people (o.duration.getD config.durationMinutes) start stop :=
  (keeps_window d now config o).bind fun w _ => keeps_pure d ⟨w.1, w.2, rfl⟩

/-- What carrying out an operation comes to. -/
theorem carryOut_run {office office' : Office} {action : Action Office α} {x : Except Fault α}
    (h : action.Gives office x office') (d : Disk) (out : String) :
    carryOut office action ⟨d, out⟩ = (match x with
      | .ok a => (pure a : Session α)
      | .error fault => breakOff (.operation fault)) ⟨office'.archive.disk, out⟩ := by
  obtain ⟨hanswer, hstate⟩ := h.runFrom
  rw [← hanswer, ← hstate]
  rfl

/-- An operation that leaves the disk of the store alone. -/
theorem keeps_carryOut {office office' : Office} {action : Action Office α} {x : Except Fault α}
    (h : action.Gives office x office') (hdisk : office'.archive.disk = d) :
    Keeps d (carryOut office action) fun a => x = .ok a := by
  intro out
  rw [carryOut_run h d out, hdisk]
  cases x with
  | ok a =>
    show ∃ out' y, (pure a : Session α) ⟨d, out⟩ = (y, ⟨d, out'⟩) ∧ _
    exact keeps_pure (P := fun b => Except.ok a = Except.ok b) d rfl out
  | error fault => exact keeps_breakOff d _ out

/-! ### How a session ends -/

/-- The exit code at the end of a session. -/
def codeOf : Except Halt Unit → Nat
  | .ok _ => 0
  | .error halt => halt.code

/-- At the end of the session, the exit code and the disk go together in a way. -/
def Ends (d : Disk) (m : Session Unit) (R : Nat → Disk → Prop) : Prop :=
  ∀ out, R (codeOf (m ⟨d, out⟩).1) (m ⟨d, out⟩).2.disk

variable {R : Nat → Disk → Prop}

theorem Ends.imp {m : Session Unit} {R' : Nat → Disk → Prop} (h : Ends d m R)
    (himp : ∀ code d', R code d' → R' code d') : Ends d m R' :=
  fun out => himp _ _ (h out)

/-- A step that is known. -/
theorem Ends.bind_ok {next : α → Session Unit} {a : α}
    (hrun : ∀ out, m ⟨d, out⟩ = (.ok a, ⟨d', out⟩)) (h : Ends d' (next a) R) :
    Ends d (m >>= next) R := by
  intro out
  rw [bind_run, hrun]
  exact h out

theorem Keeps.ends {m : Session Unit} {P : Unit → Prop} (h : Keeps d m P)
    (hR : ∀ code, R code d) : Ends d m R := by
  intro out
  obtain ⟨out', x, hrun, -⟩ := h out
  rw [hrun]
  exact hR _

/-- What ends early has left the disk alone. -/
theorem Keeps.thenEnds {next : α → Session Unit} (hm : Keeps d m P)
    (hnext : ∀ a, P a → Ends d (next a) R) (hearly : ∀ code, code ≠ 0 → R code d) :
    Ends d (m >>= next) R := by
  intro out
  obtain ⟨out₁, x, hrun, hok, hhalt⟩ := hm out
  rw [bind_run, hrun]
  cases x with
  | ok a => exact hnext a (hok a rfl) out₁
  | error halt => exact hearly _ (hhalt halt rfl)

/-- An operation on the store, and what follows it on the disk that it leaves. -/
theorem ends_carryOut {office office' : Office} {action : Action Office α} {x : Except Fault α}
    {next : α → Session Unit} (h : action.Gives office x office')
    (hfault : ∀ fault, x = .error fault → R 1 office'.archive.disk)
    (hnext : ∀ a, x = .ok a → Ends office'.archive.disk (next a) R) :
    Ends d (carryOut office action >>= next) R := by
  intro out
  rw [bind_run, carryOut_run h d out]
  cases x with
  | ok a => exact hnext a rfl out
  | error fault => exact hfault fault rfl

/-- Printing a text that has no faulty tags succeeds. -/
theorem ends_print {text : String} {cs : List Char} (h : plainText text = .ok cs)
    (hR : R 0 d) : Ends d (print text) R := by
  intro out
  unfold print
  rw [h]
  exact hR

theorem ends_print_then {text : String} {cs : List Char} {next : Unit → Session Unit}
    (h : plainText text = .ok cs) (hnext : Ends d (next ()) R) :
    Ends d (print text >>= next) R := by
  intro out
  rw [bind_run]
  unfold print
  rw [h]
  exact hnext _

/-- **How the session of a command ends, the command ends.** -/
theorem Ends.ending {m : Session Unit} (h : Ends d m R) :
    R (Session.ending m d).1.exit (Session.ending m d).2 := by
  have hend := h ""
  unfold Session.ending
  show R (Ending.exit (Prod.fst _)) _
  rcases hrun : m ⟨d, ""⟩ with ⟨x, desk⟩
  rw [hrun] at hend
  rw [show m.run ⟨d, ""⟩ = (x, desk) from hrun]
  cases x with
  | ok a => exact hend
  | error halt =>
    cases halt with
    | exit code => exact hend
    | broken fault => exact hend

end Session

end Meetings
