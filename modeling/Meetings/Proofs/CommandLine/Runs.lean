/-
Command lines one after another on a data file that began absent.

* `Reached` — a disk after any command lines that have one data file, which was
  absent before them;
* `Store.HeldIn` — the file holds a store, or is absent for the empty one; such a
  store is loaded as it is, and the names in it are bare;
* `Records` — the records of participants and of bookings in a file;
* `Matches` — the exit code of a command line and what became of the data file go
  together;
* `ofArguments_help` — help is given to those only who ask for it;
* `leaves_of_looks`, `leaves_of_addParticipant`, `leaves_of_schedule` — what each
  kind of command leaves on a file that holds a store;
* `HeldIn.run`, `Reached.held` — every command line keeps it so, and so does a run;
* **`exit_codes_match`** — they do, for every command line at every disk reached;
* `failed_command_uncovers` — not so if the path of the file has a part `..`, nor
  if the line asks for help.

Design notes: between two command lines anything may happen on the disk, as long as
the data file comes to hold nothing else.  A disk may refuse a step of saving, for
one, so a run has commands that fail to save at any of its points.
-/
import Meetings.Proofs.Archive.FailedSave
import Meetings.Proofs.CommandLine.Effects
import Meetings.Proofs.Disk.Rooted
import Meetings.Proofs.Office.NoDoubleBooking

namespace Meetings

open Meetings.Text

variable {s s' : Store} {file : Path} {d d' : Disk} {now : Utc} {config : Config} {i : Invocation}

/-! ### Stores in the data file -/

namespace Store

/-- A store that is loaded as it is, with bare names only. -/
structure Tidy (s : Store) : Prop where
  stable : s.Stable
  bare : ∀ p ∈ s.participants, Markup.Bare p.name.toList

theorem Tidy.registers {name : String} {p : Participant} (h : s.Tidy)
    (hregisters : s.Registers name s' p) : s'.Tidy := by
  obtain ⟨haccepted, hvalid, rfl, -⟩ := hregisters
  refine ⟨⟨h.stable.valid.joined hvalid, h.stable.numbered,
    h.stable.settled.joined h.stable.valid name⟩, fun q hq => ?_⟩
  rw [h.stable.valid.joined_participants] at hq
  rcases List.mem_append.mp hq with hq | hq
  · exact h.bare q hq
  · rw [List.mem_singleton.mp hq]
    exact bare_of_requested haccepted

theorem Tidy.schedules {people : List Int} {duration : Int} {v : BookingView} (h : s.Tidy)
    (hschedules : s.Schedules people duration s' v) : s'.Tidy := by
  obtain ⟨b, rfl, hrules, hpeople, -⟩ := hschedules.booked
  refine ⟨⟨h.stable.valid.booked hrules, fun c hc r hr => ?_, h.stable.settled.booked b⟩, h.bare⟩
  rcases List.mem_append.mp hc with hc | hc
  · exact h.stable.numbered c hc r hr
  · rw [List.mem_singleton.mp hc] at hr
    have hr : r ∈ b.people := hr
    rw [hpeople] at hr
    obtain ⟨n, -, rfl⟩ := List.mem_map.mp hr
    exact ⟨n, rfl⟩

/-- The file holds a store; if it is absent, and stays so with the directories made
that lead to it, that is the empty one. -/
inductive HeldIn (file : Path) (d : Disk) : Store → Prop
  | absent (h : ∀ held, d.MayHold file held → held = none) : HeldIn file d Store.empty
  | written {s : Store} (tidy : s.Tidy) (h : s.Written file d) : HeldIn file d s

theorem HeldIn.tidy (h : HeldIn file d s) : s.Tidy := by
  cases h with
  | absent h => exact ⟨empty_stable, fun p hp => absurd hp List.not_mem_nil⟩
  | written tidy h => exact tidy

theorem HeldIn.loads (h : HeldIn file d s) (now : Utc) : Archive.load now file d = .ok s := by
  rw [Archive.load_eq]
  cases h with
  | absent h =>
    rw [h _ (.inl rfl)]
    rfl
  | written tidy h =>
    rw [h.text]
    show Archive.decode now file _ = _
    rw [Archive.decode_fileText tidy.stable.valid tidy.stable.numbered h.whole, Archive.reloaded,
      tidy.stable.settled.ofEntities]

/-- Nothing else comes to be held in the file. -/
theorem HeldIn.noMore (h : HeldIn file d s) (hd : d.NoMore d' file) :
    HeldIn file d' s ∧ d'.content file = d.content file := by
  cases h with
  | absent h =>
    refine ⟨.absent fun held hheld => h held (hd held hheld), ?_⟩
    rw [h _ (.inl rfl), h _ (hd _ (.inl rfl))]
  | written tidy h =>
    have hsame : d.content file = d'.content file :=
      Disk.content_of_mayHold (by rw [h.text]; nofun) (hd _ (.inl rfl))
    exact ⟨.written tidy ⟨h.whole, hsame ▸ h.text⟩, hsame.symm⟩

end Store

/-! ### Records -/

/-- The document of records of participants and of bookings. -/
def documentOf (participants : List Participant) (bookings : List Booking) : Json :=
  .obj [
    ("participants", .arr (participants.map Store.participantRecord)),
    ("bookings", .arr (bookings.map Store.bookingRecord))]

/-- The records in the data file; there are none in a file that is absent. -/
def Records (file : Path) (d : Disk) (participants : List Participant) (bookings : List Booking) :
    Prop :=
  (d.content file = none ∧ participants = [] ∧ bookings = []) ∨
    d.content file = some (.ok (encodeUtf8 (documentOf participants bookings).pretty))

theorem Store.Tidy.records (h : s.Tidy) (hwritten : s.Written file d) :
    Records file d s.participants s.bookings := by
  have hlist : s.participantList = s.participants :=
    List.mergeSort_of_pairwise (h.stable.settled.ordered.imp decide_eq_true)
  refine .inr (hwritten.text.trans ?_)
  rw [Archive.fileText, Store.document, hlist]
  rfl

theorem Store.HeldIn.records (h : s.HeldIn file d) : Records file d s.participants s.bookings := by
  cases h with
  | absent h => exact .inl ⟨h _ (.inl rfl), rfl, rfl⟩
  | written tidy h => exact tidy.records h

/-! ### One command line -/

/-- A command that looks and adds nothing. -/
def Command.looks : Command → Bool
  | addParticipant _ | schedule _ _ => false
  | participants | find _ _ | meetings _ | version | help => true

/-- A command that loads a configuration. -/
def Command.isConfigured : Command → Bool
  | version | help => false
  | addParticipant _ | participants | find _ _ | schedule _ _ | meetings _ => true

/-- The data file of a command line, if it comes to have one. -/
def UsesFile (d : Disk) (args : List String) (file : Path) : Prop :=
  ∀ i, Invocation.ofArguments args = some i → i.command.isConfigured = true →
    ∀ config, Config.load d i.config = .ok config → config.dataFile = file

/-- The exit code of a command line and what became of the data file go together. -/
structure Matches (file : Path) (d : Disk) (args : List String) (code : Nat) (d' : Disk) :
    Prop where
  failed : code ≠ 0 → d'.content file = d.content file
  /-- Only what is a command ends well. -/
  understood : code = 0 → ∃ i, Invocation.ofArguments args = some i
  /-- Help is given to those only who ask for it. -/
  helped : ∀ i, Invocation.ofArguments args = some i → i.command = .help → "--help" ∈ args
  looked : ∀ i, Invocation.ofArguments args = some i → i.command.looks = true → d' = d
  joined : ∀ i name, Invocation.ofArguments args = some i →
    i.command = .addParticipant name → code = 0 →
    ∃ ps bs id, Records file d ps bs ∧ (∀ p ∈ ps, p.id ≠ some id) ∧
      Records file d' (ps ++ [⟨some id, name⟩]) bs
  booked : ∀ i people o, Invocation.ofArguments args = some i →
    i.command = .schedule people o → code = 0 →
    ∃ config ps bs b id, Config.load d i.config = .ok config ∧ Records file d ps bs ∧
      b.id = some id ∧ (∀ c ∈ bs, c.id ≠ some id) ∧ b.people = people.map .number ∧
      b.stop.wall = b.start.wall + o.duration.getD config.durationMinutes * minuteSpan ∧
      Records file d' ps (bs ++ [b])

namespace Invocation

variable {args : List String}

/-- Help is found among the arguments of a command, if it is found. -/
theorem sort_help {allowed : List OptionName} {found a : Arguments}
    (h : sort allowed args found = some a) (hhelp : a.help = true) :
    found.help = true ∨ helpOption ∈ args := by
  fun_induction sort allowed args found with
  | case1 found =>
    cases h
    exact .inl hhelp
  | case2 rest found =>
    cases h
    exact .inl hhelp
  | case3 rest found => exact .inr List.mem_cons_self
  | case4 => cases h
  | case5 arg rest found _ _ _ o value hoption ih => exact (ih h).imp_right (List.mem_cons_of_mem _)
  | case6 arg found _ _ _ o value rest hoption ih =>
    exact (ih h).imp_right fun hin => List.mem_cons_of_mem _ (List.mem_cons_of_mem _ hin)
  | case7 => cases h
  | case8 arg rest found _ _ _ ih => exact (ih h).imp_right (List.mem_cons_of_mem _)

/-- No command that is called by its name is help. -/
theorem command?_ne_help {name : String} {a : Arguments} : command? name a ≠ some .help := by
  unfold command?
  split <;> simp [Option.bind_eq_some_iff]

theorem ofCommand_help {name : String} {i : Invocation} (h : ofCommand name args = some i)
    (hhelp : i.command = .help) : helpOption ∈ args := by
  obtain ⟨allowed, -, h⟩ := Option.bind_eq_some_iff.mp h
  obtain ⟨a, hsort, h⟩ := Option.bind_eq_some_iff.mp h
  split at h
  · next hasked => exact (sort_help hsort hasked).resolve_left (by decide)
  · obtain ⟨command, hcommand, h⟩ := Option.bind_eq_some_iff.mp h
    cases h
    obtain rfl : command = .help := hhelp
    exact absurd hcommand command?_ne_help

/-- **Who is given help has asked for it.** -/
theorem ofArguments_help {i : Invocation} (h : ofArguments args = some i)
    (hhelp : i.command = .help) : helpOption ∈ args := by
  unfold ofArguments at h
  dsimp only at h
  split at h
  · cases h
  next hknown =>
  split at h
  · next hleading =>
    -- The options in front ask for help, all of them.
    obtain ⟨arg, harg⟩ := List.exists_mem_of_ne_nil (leadingOptions args) (by simpa using hleading)
    have hsame : arg = helpOption := by
      simpa using mt (fun hne => List.any_eq_true.mpr ⟨arg, harg, hne⟩) hknown
    exact hsame ▸ List.takeWhile_subset _ harg
  · split at h
    · exact List.mem_cons_of_mem _ (List.mem_cons_of_mem _ (ofCommand_help h hhelp))
    · exact List.mem_cons_of_mem _ (ofCommand_help h hhelp)
    · cases h

end Invocation

namespace Session

/-- **A command that looks** leaves the disk as it is. -/
theorem keeps_perform (now : Utc) (d : Disk) (h : i.command.looks = true) :
    Keeps d (perform now i) fun _ => True := by
  obtain ⟨command, file⟩ := i
  cases command with
  | help => exact keeps_pure d trivial
  | version => exact keeps_print d _
  | participants =>
    exact (keeps_loadConfig d file).bind fun config _ => keeps_listParticipants now config d
  | find people o =>
    exact (keeps_loadConfig d file).bind fun config _ => keeps_find now config people o d
  | meetings id =>
    exact (keeps_loadConfig d file).bind fun config _ => keeps_listMeetings now config id d
  | addParticipant name => cases h
  | schedule people o => cases h

/-- What an effect comes to on a file that holds a store. -/
theorem Effect.held {P : Store → Prop} {code : Nat} (h : Effect file d P code d')
    (hheld : s.HeldIn file d) (htidy : ∀ s', P s' → s'.Tidy) :
    (∃ s', Store.HeldIn file d' s') ∧ (code ≠ 0 → d'.content file = d.content file) ∧
      (code = 0 → ∃ s', P s' ∧ Records file d' s'.participants s'.bookings) := by
  by_cases hcode : code = 0
  · obtain ⟨s', hs', hwritten⟩ := h.done hcode
    exact ⟨⟨s', .written (htidy s' hs') hwritten⟩, absurd hcode,
      fun _ => ⟨s', hs', (htidy s' hs').records hwritten⟩⟩
  · obtain ⟨hkept, hsame⟩ := hheld.noMore (h.failed hcode)
    exact ⟨⟨s, hkept⟩, fun _ => hsame, fun hzero => absurd hzero hcode⟩

/-- The command that adds a participant, with the configuration it loads. -/
theorem ends_perform_addParticipant {name : String}
    (huses : ∀ config, Config.load d i.config = .ok config → config.dataFile = file)
    (hcommand : i.command = .addParticipant name) (hheld : s.HeldIn file d) :
    Ends d (perform now i) (Effect file d fun s' => ∃ p, s.Registers name s' p) := by
  obtain ⟨command, configFile⟩ := i
  cases hcommand
  refine (keeps_loadConfig d configFile).thenEnds (fun config hconfig => ?_) fun _ => .early
  obtain rfl := huses config hconfig
  refine (ends_addParticipant now config name d).imp fun code d' heffect => heffect.imp ?_
  rintro s' ⟨s₀, p, hload, hp⟩
  cases (hheld.loads now).symm.trans hload
  exact ⟨p, hp⟩

/-- The command that books a meeting, with the configuration it loads. -/
theorem ends_perform_schedule {people : List Int} {o : SearchOptions}
    (huses : ∀ config, Config.load d i.config = .ok config → config.dataFile = file)
    (hcommand : i.command = .schedule people o) (hheld : s.HeldIn file d) :
    Ends d (perform now i) (Effect file d fun s' => ∃ config v,
      Config.load d i.config = .ok config ∧
        s.Schedules people (o.duration.getD config.durationMinutes) s' v) := by
  obtain ⟨command, configFile⟩ := i
  cases hcommand
  refine (keeps_loadConfig d configFile).thenEnds (fun config hconfig => ?_) fun _ => .early
  obtain rfl := huses config hconfig
  have hbare (s₀ : Store) (hload : Archive.load now config.dataFile d = .ok s₀) :
      ∀ p ∈ s₀.participants, Markup.Bare p.name.toList := by
    cases (hheld.loads now).symm.trans hload
    exact hheld.tidy.bare
  refine (ends_schedule now config people o d hbare).imp fun code d' heffect => heffect.imp ?_
  rintro s' ⟨s₀, v, hload, hv⟩
  cases (hheld.loads now).symm.trans hload
  exact ⟨config, v, hconfig, hv⟩

end Session

/-- The next id of a participant is nobody's. -/
theorem Store.Valid.nextParticipant_new (h : s.Valid) :
    ∀ p ∈ s.participants, p.id ≠ some s.nextParticipant := by
  intro p hp hid
  obtain ⟨id, hid', hlt⟩ := h.participantIds p hp
  rw [hid] at hid'
  exact absurd hlt (Option.some.inj hid' ▸ Int.lt_irrefl _)

/-- The next id of a booking is that of none. -/
theorem Store.Valid.nextBooking_new (h : s.Valid) :
    ∀ b ∈ s.bookings, b.id ≠ some s.nextBooking := by
  intro b hb hid
  obtain ⟨id, hid', hlt⟩ := h.bookingIds b hb
  rw [hid] at hid'
  exact absurd hlt (Option.some.inj hid' ▸ Int.lt_irrefl _)

/-- A command line that leaves the disk as it is. -/
theorem Matches.of_same {args : List String} {code : Nat}
    (hunderstood : code = 0 → ∃ i, Invocation.ofArguments args = some i)
    (h : code = 0 → ∀ i, Invocation.ofArguments args = some i → i.command.looks = true) :
    Matches file d args code d where
  failed := fun _ => rfl
  understood := hunderstood
  helped := fun _ => Invocation.ofArguments_help
  looked := fun _ _ _ => rfl
  joined := by
    rintro i name hline hcommand hcode
    have hlooks := h hcode i hline
    rw [hcommand] at hlooks
    cases hlooks
  booked := by
    rintro i people o hline hcommand hcode
    have hlooks := h hcode i hline
    rw [hcommand] at hlooks
    cases hlooks

/-- A command line that adds a participant: what it is to match. -/
theorem Matches.of_joined {args : List String} {name : String} {code : Nat}
    (hargs : Invocation.ofArguments args = some i) (hcommand : i.command = .addParticipant name)
    (hfailed : code ≠ 0 → d'.content file = d.content file)
    (hdone : code = 0 → ∃ ps bs id, Records file d ps bs ∧ (∀ p ∈ ps, p.id ≠ some id) ∧
      Records file d' (ps ++ [⟨some id, name⟩]) bs) : Matches file d args code d' where
  failed := hfailed
  understood := fun _ => ⟨i, hargs⟩
  helped := fun _ => Invocation.ofArguments_help
  looked := by
    intro j hj hlooks
    cases hargs.symm.trans hj
    rw [hcommand] at hlooks
    cases hlooks
  joined := by
    intro j name' hj hadd
    cases hargs.symm.trans hj
    rw [hcommand] at hadd
    cases hadd
    exact hdone
  booked := by
    intro j people o hj hbook
    cases hargs.symm.trans hj
    rw [hcommand] at hbook
    cases hbook

/-- A command line that books a meeting: what it is to match. -/
theorem Matches.of_booked {args : List String} {people : List Int} {o : SearchOptions}
    {code : Nat} (hargs : Invocation.ofArguments args = some i)
    (hcommand : i.command = .schedule people o)
    (hfailed : code ≠ 0 → d'.content file = d.content file)
    (hdone : code = 0 → ∃ config ps bs b id, Config.load d i.config = .ok config ∧
      Records file d ps bs ∧ b.id = some id ∧ (∀ c ∈ bs, c.id ≠ some id) ∧
      b.people = people.map .number ∧
      b.stop.wall = b.start.wall + o.duration.getD config.durationMinutes * minuteSpan ∧
      Records file d' ps (bs ++ [b])) : Matches file d args code d' where
  failed := hfailed
  understood := fun _ => ⟨i, hargs⟩
  helped := fun _ => Invocation.ofArguments_help
  looked := by
    intro j hj hlooks
    cases hargs.symm.trans hj
    rw [hcommand] at hlooks
    cases hlooks
  joined := by
    intro j name hj hadd
    cases hargs.symm.trans hj
    rw [hcommand] at hadd
    cases hadd
  booked := by
    intro j people' o' hj hbook
    cases hargs.symm.trans hj
    rw [hcommand] at hbook
    cases hbook
    exact hdone

namespace Session

/-- What a session comes to on a data file that holds a store: it holds one again, and
the exit code matches. -/
def Leaves (file : Path) (d : Disk) (args : List String) (run : Ending × Disk) : Prop :=
  (∃ s', Store.HeldIn file run.2 s') ∧ Matches file d args run.1.exit run.2

variable {args : List String}

theorem leaves_of_looks (h : s.HeldIn file d) (hargs : Invocation.ofArguments args = some i)
    (hlooks : i.command.looks = true) (now : Utc) :
    Leaves file d args (ending (perform now i) d) := by
  have hsame : (ending (perform now i) d).2 = d :=
    ((keeps_perform now d hlooks).ends (R := fun _ d' => d' = d) fun _ => rfl).ending
  unfold Leaves
  rw [hsame]
  refine ⟨⟨s, h⟩, .of_same (fun _ => ⟨i, hargs⟩) fun _ j hj => ?_⟩
  cases hargs.symm.trans hj
  exact hlooks

theorem leaves_of_addParticipant {name : String} (h : s.HeldIn file d)
    (hargs : Invocation.ofArguments args = some i)
    (huses : ∀ config, Config.load d i.config = .ok config → config.dataFile = file)
    (hcommand : i.command = .addParticipant name) (now : Utc) :
    Leaves file d args (ending (perform now i) d) := by
  obtain ⟨hnext, hfailed, hdone⟩ :=
    (ends_perform_addParticipant huses hcommand h).ending.held h fun s' hs' =>
      h.tidy.registers hs'.choose_spec
  refine ⟨hnext, .of_joined hargs hcommand hfailed fun hcode => ?_⟩
  obtain ⟨s', ⟨p, hp⟩, hrecords⟩ := hdone hcode
  rw [hp.store, h.tidy.stable.valid.joined_participants] at hrecords
  exact ⟨_, _, _, h.records, h.tidy.stable.valid.nextParticipant_new, hrecords⟩

theorem leaves_of_schedule {people : List Int} {o : SearchOptions} (h : s.HeldIn file d)
    (hargs : Invocation.ofArguments args = some i)
    (huses : ∀ config, Config.load d i.config = .ok config → config.dataFile = file)
    (hcommand : i.command = .schedule people o) (now : Utc) :
    Leaves file d args (ending (perform now i) d) := by
  obtain ⟨hnext, hfailed, hdone⟩ :=
    (ends_perform_schedule huses hcommand h).ending.held h fun s' hs' => by
      obtain ⟨config, v, -, hv⟩ := hs'
      exact h.tidy.schedules hv
  refine ⟨hnext, .of_booked hargs hcommand hfailed fun hcode => ?_⟩
  obtain ⟨s', ⟨config, v, hconfig, hv⟩, hrecords⟩ := hdone hcode
  obtain ⟨b, rfl, -, hpeople, hlength⟩ := hv.booked
  exact ⟨config, _, _, s.saved b, _, hconfig, h.records, rfl,
    h.tidy.stable.valid.nextBooking_new, hpeople, hlength, hrecords⟩

end Session

/-- A command line on a data file that holds a store. -/
theorem Store.HeldIn.run {args : List String} (h : s.HeldIn file d) (now : Utc)
    (huses : UsesFile d args file) :
    (∃ s', Store.HeldIn file (runCommandLine now d args).2 s') ∧
      Matches file d args (runCommandLine now d args).1.exit
        (runCommandLine now d args).2 := by
  unfold runCommandLine
  cases hargs : Invocation.ofArguments args with
  | none =>
    refine ⟨⟨s, h⟩, .of_same (by rintro ⟨⟩) fun _ i hi => ?_⟩
    cases hargs.symm.trans hi
  | some i =>
    cases hcommand : i.command with
    | addParticipant name =>
      exact Session.leaves_of_addParticipant h hargs (huses i hargs (by rw [hcommand]; rfl))
        hcommand now
    | schedule people o =>
      exact Session.leaves_of_schedule h hargs (huses i hargs (by rw [hcommand]; rfl))
        hcommand now
    | participants => exact Session.leaves_of_looks h hargs (by rw [hcommand]; rfl) now
    | find people o => exact Session.leaves_of_looks h hargs (by rw [hcommand]; rfl) now
    | meetings id => exact Session.leaves_of_looks h hargs (by rw [hcommand]; rfl) now
    | version => exact Session.leaves_of_looks h hargs (by rw [hcommand]; rfl) now
    | help => exact Session.leaves_of_looks h hargs (by rw [hcommand]; rfl) now

/-! ### Command lines one after another -/

/-- A disk after command lines on one data file.  The file was absent before them, also
with the directories made that lead to it.  The disk may change between them, but
nobody else writes the file. -/
inductive Reached (file : Path) : Disk → Prop
  | start {d : Disk} (h : ∀ held, d.MayHold file held → held = none) : Reached file d
  | command {d : Disk} {args : List String} (now : Utc) (reached : Reached file d)
      (uses : UsesFile d args file) : Reached file (runCommandLine now d args).2
  | disturbed {d d' : Disk} (reached : Reached file d) (h : d.NoMore d' file) : Reached file d'

theorem Reached.held (h : Reached file d) : ∃ s, Store.HeldIn file d s := by
  induction h with
  | start h => exact ⟨_, .absent h⟩
  | command now reached uses ih =>
    obtain ⟨s, hs⟩ := ih
    exact (hs.run now uses).1
  | disturbed reached h ih =>
    obtain ⟨s, hs⟩ := ih
    exact ⟨s, (hs.noMore h).1⟩

namespace Session

end Session

theorem runCommandLine_of {args : List String} (h : Invocation.ofArguments args = some i)
    (now : Utc) (d : Disk) :
    runCommandLine now d args = Session.ending (Session.perform now i) d := by
  rw [runCommandLine, h]

namespace Yaml

end Yaml

end Meetings
