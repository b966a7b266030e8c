/-
What each command does to the data file.

* `Change.PutsOrFails` — a change puts a store and gives a value, or it answers with
  a failure or a fault; so do registering and scheduling;
* `Disk.NoMore` — a path can come to hold no more than before;
* `Effect` — a command that ends with another code than 0 leaves the data file as it
  was, and one that ends with 0 leaves the text of a store in it;
* `ends_adding` — the effect of an operation that adds, and of printing what it gave;
* `Shows` — a session prints and ends well: `shows_joined`, `shows_booked`;
* **`ends_addParticipant`**, **`ends_schedule`** — the commands that add;
* **`keeps_find`**, **`keeps_listParticipants`**, **`keeps_listMeetings`** — the
  commands that look.

Design notes: a store is put by the last thing that can fail but the printing, which
fails for faulty tags only.  So the code 0 and a file that is written go together if
the names of participants are bare.
-/
import Meetings.Proofs.CommandLine.Markup
import Meetings.Proofs.CommandLine.Session
import Meetings.Proofs.Request.Meeting
import Meetings.Proofs.Slot.Free
import Meetings.Proofs.Store.People

namespace Meetings

open Meetings.Text

/-! ### Changes -/

namespace Change

variable {α : Type} {P : Store → α → Prop}

/-- The change puts a store and gives a value, or it gives none. -/
def PutsOrFails (P : Store → α → Prop) : Change (Except Failure α) → Prop
  | .answer result => ∀ a, result ≠ .ok (.ok a)
  | .put store _ result => ∃ a, result = .ok a ∧ P store a

theorem putsOrFails_fault (P : Store → α → Prop) (fault : Fault) :
    PutsOrFails P (.answer (.error fault)) := by
  rintro a ⟨⟩

theorem putsOrFails_failure (P : Store → α → Prop) (failure : Failure) :
    PutsOrFails P (.answer (.ok (.error failure))) := by
  rintro a ⟨⟩

theorem putsOrFails_onSlot {found : Except Fault (Option Utc)}
    {change : Utc → Change (Except Failure α)} (h : ∀ slot, (change slot).PutsOrFails P) :
    (onSlot found change).PutsOrFails P := by
  cases found with
  | error fault => exact putsOrFails_fault P fault
  | ok slot =>
    cases slot with
    | none => exact putsOrFails_failure P _
    | some slot => exact h slot

end Change

namespace Store

variable {s s' : Store} {set : Settings}

/-- What registering a name puts: the store with that participant. -/
structure Registers (s : Store) (name : String) (s' : Store) (p : Participant) : Prop where
  accepted : requestedNameFault name = none
  valid : ValidName name
  store : s' = s.joined name
  given : p = ⟨some s.nextParticipant, name⟩

theorem registering_puts (s : Store) (name : String) :
    (s.registering (.obj [("name", .str name)])).PutsOrFails (s.Registers name) := by
  have hparse : parseRegistration (.obj [("name", .str name)]) =
      .ok (registrationName [("name", .str name)]) := rfl
  have hfield : Mapping.field? [("name", .str name)] "name" = some (.str name) := rfl
  unfold registering
  rw [hparse, registrationName, hfield]
  dsimp only
  cases hname : requestedNameFault name with
  | some fault => exact Change.putsOrFails_failure _ _
  | none =>
    dsimp only
    cases hmake : Participant.make none (.str name) with
    | error fault => exact Change.putsOrFails_failure _ _
    | ok p =>
      obtain ⟨text, htext, rfl⟩ := map_eq_ok.mp hmake
      obtain ⟨hvalid, rfl⟩ := checkNameText_eq_ok_iff.mp htext
      exact ⟨_, rfl, hname, hvalid, rfl, rfl⟩

/-- What booking a meeting puts: the store with a booking of these people, of this
length; the people that are shown are participants. -/
structure Schedules (s : Store) (people : List Int) (duration : Int) (s' : Store)
    (v : BookingView) : Prop where
  booked : ∃ b : Booking, s' = s.booked b ∧ b.Valid ∧ b.people = people.map .number ∧
    b.stop.wall = b.start.wall + duration * minuteSpan
  shown : ∀ p ∈ v.participants, p ∈ s.participants

theorem mem_of_recordsOf {people : List PersonRef} {refs : List PersonRef} {p : Participant}
    (h : p ∈ recordsOf people (s.participantsAmong refs)) : p ∈ s.participants := by
  obtain ⟨r, -, hfound⟩ := List.mem_filterMap.mp h
  obtain ⟨id, -, hfind⟩ := Option.bind_eq_some_iff.mp hfound
  obtain ⟨ref, -, href⟩ := List.mem_filterMap.mp (List.mem_of_find?_eq_some hfind)
  obtain ⟨n, -, hn⟩ := Option.bind_eq_some_iff.mp href
  exact List.mem_of_find?_eq_some hn

theorem scheduling_puts (s : Store) (set : Settings) (r : MeetingRequest) :
    (s.scheduling set r).PutsOrFails (s.Schedules r.people r.duration) := by
  unfold scheduling
  split
  · next first _ _ => exact fun view => notFound_ne_ok first view
  refine Change.putsOrFails_onSlot fun slot => ?_
  unfold booking
  split
  · exact Change.putsOrFails_fault _ _
  next stop hstop =>
  split
  · exact Change.putsOrFails_failure _ _
  next b hb =>
  obtain ⟨rfl, hrules⟩ := Booking.ofUtc_eq_ok_iff.mp hb
  exact ⟨_, rfl, ⟨_, rfl, hrules, rfl, Moment.plusMinutes_wall hstop⟩, fun p => mem_of_recordsOf⟩

end Store

/-- A request in fields that need no reading is for the people and the duration that
are said. -/
theorem change_puts {limit duration : Int} {now : Option Zoned} {people : List Int}
    {start stop : Utc} {s : Store} {set : Settings} :
    ((Asked.read now (.ofValues people duration start stop)).change limit
      (s.scheduling set)).PutsOrFails (s.Schedules people duration) := by
  unfold Asked.change
  split
  · exact Change.putsOrFails_fault _ _
  · exact Change.putsOrFails_failure _ _
  · next r hr =>
    obtain ⟨hrequest, -⟩ := MeetingRequest.ofFields_eq_ok_iff.mp (mapError_eq_ok.mp hr)
    obtain ⟨⟨hpeople, -⟩, ⟨hduration, -⟩, -⟩ :=
      MeetingRequest.Fields.request_eq_ok_iff.mp hrequest
    cases hpeople
    cases hduration
    exact s.scheduling_puts set r

/-- Finding a slot answers, and puts nothing. -/
theorem finding_answers (s : Store) (set : Settings) (asked : Asked) (limit : Int) :
    ∃ result, asked.change limit (s.finding set) = .answer result := by
  unfold Asked.change
  split
  · exact ⟨_, rfl⟩
  · exact ⟨_, rfl⟩
  · unfold Store.finding Change.onSlot
    split
    · exact ⟨_, rfl⟩
    · exact ⟨_, rfl⟩
    · exact ⟨_, rfl⟩

/-! ### Files -/

/-- A path can come to hold no more than before. -/
def Disk.NoMore (d d' : Disk) (p : Path) : Prop := ∀ held, d'.MayHold p held → d.MayHold p held

/-- A file holds the text of a store, whole. -/
structure Store.Written (s : Store) (file : Path) (d : Disk) : Prop where
  whole : s.document.cut = none
  text : d.content file = some (.ok (encodeUtf8 (Archive.fileText s)))

namespace Session

variable {α : Type} {file : Path} {d : Disk} {P : Store → α → Prop}

/-- How the exit code of a command goes together with what it does to the data file. -/
structure Effect (file : Path) (d : Disk) (P : Store → Prop) (code : Nat) (d' : Disk) : Prop where
  failed : code ≠ 0 → d.NoMore d' file
  done : code = 0 → ∃ s, P s ∧ s.Written file d'

theorem Effect.early {P : Store → Prop} {code : Nat} (h : code ≠ 0) : Effect file d P code d where
  failed := fun _ _ hheld => hheld
  done := fun hcode => absurd hcode h

/-- The session prints, and ends well. -/
def Shows (m : Session Unit) : Prop := ∀ d, Ends d m fun code d' => code = 0 ∧ d' = d

theorem Shows.ends {m : Session Unit} {R : Nat → Disk → Prop} (h : Shows m) (hR : R 0 d) :
    Ends d m R := by
  intro out
  obtain ⟨hcode, hdisk⟩ := h d out
  rw [hcode, hdisk]
  exact hR

section Adding

variable {office : Office} {action : Action Office (Except Failure α)} {next : α → Session Unit}
  {store : Store} {told : List Delivery}

/-- A store that is put and written: what was given is told of. -/
theorem ends_put_saved {a : α} (hdoes : action.Does office (.put store told (.ok a)))
    (hsaved : (Archive.replaced office.archive store).1 = none) (hnext : Shows (next a)) :
    Ends d (carryOut office action >>= fun result => succeed result >>= next) fun code d' =>
      code = 0 ∧ d' = (Archive.replaced office.archive store).2.disk := by
  unfold Action.Does at hdoes
  rw [Change.apply_put_saved hsaved] at hdoes
  refine ends_carryOut hdoes ?_ ?_
  · rintro fault ⟨⟩
  · rintro given ⟨⟩
    exact hnext.ends ⟨rfl, rfl⟩

/-- A store that is put and cannot be written: the command is broken off. -/
theorem ends_put_failed {result : Except Failure α} {fault : Fault}
    (hdoes : action.Does office (.put store told result))
    (hfault : (Archive.replaced office.archive store).1 = some fault) :
    Ends d (carryOut office action >>= fun result => succeed result >>= next) fun code d' =>
      code = 1 ∧ d' = (Archive.replaced office.archive store).2.disk := by
  unfold Action.Does at hdoes
  rw [Change.apply_put_failed hfault] at hdoes
  refine ends_carryOut hdoes ?_ ?_
  · exact fun _ _ => ⟨rfl, rfl⟩
  · rintro given ⟨⟩

/-- **An operation that adds**, and what is printed of what it gave. -/
theorem ends_adding {c : Change (Except Failure α)} (hdoes : action.Does office c)
    (hfile : office.archive.file = some file) (hc : c.PutsOrFails P)
    (hnext : ∀ s a, P s a → Shows (next a)) :
    Ends d (carryOut office action >>= fun result => succeed result >>= next)
      (Effect file office.archive.disk fun s => ∃ a, P s a) := by
  cases c with
  | answer result =>
    refine ends_carryOut hdoes ?_ ?_
    · exact fun _ _ => .early Nat.one_ne_zero
    · -- What is answered is no value, so the session ends early.
      intro given hgiven
      refine (keeps_succeed _ given).thenEnds ?_ fun _ => .early
      rintro a rfl
      exact absurd hgiven (hc a)
  | put store told result =>
    obtain ⟨a, rfl, ha⟩ := hc
    have hkept : ({ office.archive with store := store } : Archive).file = some file := hfile
    cases hfault : (Archive.replaced office.archive store).1 with
    | some fault =>
      refine (ends_put_failed hdoes hfault).imp ?_
      rintro code d' ⟨rfl, rfl⟩
      exact ⟨fun _ _ => Archive.mayHold_of_kept_failed hkept hfault, nofun⟩
    | none =>
      obtain ⟨hwhole, htext⟩ := Archive.content_of_kept hkept hfault
      refine (ends_put_saved hdoes hfault (hnext store a ha)).imp ?_
      rintro code d' ⟨rfl, rfl⟩
      exact ⟨fun hcode => absurd rfl hcode, fun _ => ⟨store, ⟨a, ha⟩, hwhole, htext⟩⟩

end Adding

theorem Effect.imp {P Q : Store → Prop} {code : Nat} {d' : Disk} (h : Effect file d P code d')
    (himp : ∀ s, P s → Q s) : Effect file d Q code d' where
  failed := h.failed
  done := fun hcode => by
    obtain ⟨s, hs, hwritten⟩ := h.done hcode
    exact ⟨s, himp s hs, hwritten⟩

/-! ### What is printed at the end -/

theorem shows_print {text : String} (h : ∃ cs, plainText text = .ok cs) : Shows (print text) := by
  obtain ⟨cs, h⟩ := h
  exact fun d => ends_print h ⟨rfl, rfl⟩

/-- A participant with a bare name is told of. -/
theorem shows_joined {p : Participant} (h : Markup.Bare p.name.toList) :
    Shows (print ("[green]✓ Participant " ++ displayOptional p.id ++ " created:[/green] " ++
      p.name)) := by
  have hstyle : Markup.Style "green".toList := ⟨⟨'g', "reen".toList, by decide⟩, rfl, rfl⟩
  have hinside : Markup.Bare ("✓ Participant " ++ displayOptional p.id ++ " created:").toList := by
    simp only [String.toList_append, Markup.bare_append, bare_displayOptional]
    decide
  have hbehind : Markup.Bare (" " ++ p.name).toList := by
    simp only [String.toList_append, Markup.bare_append, h]
    decide
  have htext : "[green]✓ Participant " ++ displayOptional p.id ++ " created:[/green] " ++ p.name =
      "[" ++ "green" ++ "]" ++ ("✓ Participant " ++ displayOptional p.id ++ " created:") ++
        "[/" ++ "green" ++ "]" ++ (" " ++ p.name) :=
    String.toList_injective (by simp)
  rw [htext]
  exact shows_print (plainText_styled hstyle hinside hbehind)

/-- A meeting of people with bare names is told of. -/
theorem shows_booked {v : BookingView} (h : ∀ p ∈ v.participants, Markup.Bare p.name.toList) :
    Shows (do
      print ("[bold green]✓ Meeting " ++ displayOptional v.booking.id ++ " scheduled:[/bold green]")
      print ("  " ++ v.display)) := by
  have hstyle : Markup.Style "bold green".toList :=
    ⟨⟨'b', "old green".toList, by decide⟩, rfl, rfl⟩
  have hinside :
      Markup.Bare ("✓ Meeting " ++ displayOptional v.booking.id ++ " scheduled:").toList := by
    simp only [String.toList_append, Markup.bare_append, bare_displayOptional]
    decide
  have hview : Markup.Bare ("  " ++ v.display).toList := by
    simp only [String.toList_append, Markup.bare_append, bare_display h]
    decide
  have hnothing : Markup.Bare "".toList := rfl
  have htext : "[bold green]✓ Meeting " ++ displayOptional v.booking.id ++
        " scheduled:[/bold green]" =
      "[" ++ "bold green" ++ "]" ++
        ("✓ Meeting " ++ displayOptional v.booking.id ++ " scheduled:") ++
        "[/" ++ "bold green" ++ "]" ++ "" :=
    String.toList_injective (by simp)
  obtain ⟨cs, hfirst⟩ := plainText_styled hstyle hinside hnothing
  rw [← htext] at hfirst
  exact fun d => ends_print_then hfirst (shows_print (plainText_bare hview) d)

/-! ### Commands that add -/

variable {now : Utc} {config : Config}

/-- The office that a command works at. -/
def opened (config : Config) (s : Store) (d : Disk) : Office := ⟨⟨s, some config.dataFile, d⟩, []⟩

/-- The services of a command, as it is configured. -/
def settings (now : Utc) (config : Config) : Settings :=
  ⟨Grid.standard, now, 1, config.maxParticipants, config.slowRequest⟩

/-- **Registering a participant.** -/
theorem ends_addParticipant (now : Utc) (config : Config) (name : String) (d : Disk) :
    Ends d (addParticipant now config name) (Effect config.dataFile d fun s' =>
      ∃ s p, Archive.load now config.dataFile d = .ok s ∧ s.Registers name s' p) := by
  refine (keeps_openOffice now config d).thenEnds ?_ fun _ => .early
  rintro office ⟨s, hload, rfl⟩
  have hdoes := @does_register (opened config s d) (settings now config) Ticks.none
    (.obj [("name", .str name)])
  have hshows (s' : Store) (p : Participant) (h : s.Registers name s' p) :
      Markup.Bare p.name.toList := by
    rw [h.given]
    exact bare_of_requested h.accepted
  have hadding := ends_adding (d := d) hdoes rfl (s.registering_puts name) fun s' p h =>
    shows_joined (hshows s' p h)
  refine hadding.imp fun code d' heffect => heffect.imp ?_
  rintro s' ⟨p, hp⟩
  exact ⟨s, p, hload, hp⟩

/-- **Booking a meeting**, in a store whose participants have bare names. -/
theorem ends_schedule (now : Utc) (config : Config) (people : List Int) (o : SearchOptions)
    (d : Disk) (hbare : ∀ s, Archive.load now config.dataFile d = .ok s →
      ∀ p ∈ s.participants, Markup.Bare p.name.toList) :
    Ends d (schedule now config people o) (Effect config.dataFile d fun s' =>
      ∃ s v, Archive.load now config.dataFile d = .ok s ∧
        s.Schedules people (o.duration.getD config.durationMinutes) s' v) := by
  refine (keeps_openOffice now config d).thenEnds ?_ fun _ => .early
  rintro office ⟨s, hload, rfl⟩
  refine (keeps_request d now config people o).thenEnds ?_ fun _ => .early
  rintro fields ⟨start, stop, rfl⟩
  have hdoes := (does_request (settings now config)
    (.read (some now.zoned) (.ofValues people (o.duration.getD config.durationMinutes) start stop))
    (@does_schedule (opened config s d) (settings now config))).observed (services now config)
    "schedule" Ticks.none
  have hadding := ends_adding (d := d) hdoes rfl change_puts fun s' v h =>
    shows_booked fun p hp => hbare s hload p (h.shown p hp)
  refine hadding.imp fun code d' heffect => heffect.imp ?_
  rintro s' ⟨v, hv⟩
  exact ⟨s, v, hload, hv⟩

/-! ### Commands that look -/

/-- **Finding a slot.** -/
theorem keeps_find (now : Utc) (config : Config) (people : List Int) (o : SearchOptions)
    (d : Disk) : Keeps d (find now config people o) fun _ => True := by
  refine (keeps_openOffice now config d).bind ?_
  rintro office ⟨s, -, rfl⟩
  refine (keeps_request d now config people o).bind fun fields _ => ?_
  have hdoes := (does_request (settings now config) (.read none fields)
    (@does_find (opened config s d) (settings now config))).observed (services now config) "find"
    Ticks.none
  obtain ⟨result, hanswer⟩ := finding_answers s (settings now config) (.read none fields)
    config.maxParticipants
  change Action.Does _ _ ((Asked.read none fields).change config.maxParticipants
    (s.finding (settings now config))) at hdoes
  rw [hanswer] at hdoes
  refine (keeps_carryOut hdoes rfl).bind fun found _ => ?_
  refine (keeps_succeed d found).bind fun slot _ => ?_
  exact (keeps_withinCalendar d _).bind fun stop _ => keeps_print d _

/-- **Listing the participants.** -/
theorem keeps_listParticipants (now : Utc) (config : Config) (d : Disk) :
    Keeps d (listParticipants now config) fun _ => True := by
  refine (keeps_openOffice now config d).bind ?_
  rintro office ⟨s, -, rfl⟩
  have hgives := gives_query (opened config s d) Store.participantList
  refine (keeps_carryOut hgives rfl).bind fun people _ => ?_
  cases people with
  | nil => exact keeps_print d _
  | cons p people => exact keeps_printTable d _

/-- **Listing the meetings of a participant.** -/
theorem keeps_listMeetings (now : Utc) (config : Config) (id : Int) (d : Disk) :
    Keeps d (listMeetings now config id) fun _ => True := by
  refine (keeps_openOffice now config d).bind ?_
  rintro office ⟨s, -, rfl⟩
  have hgives := @gives_bookings (opened config s d) (settings now config) Ticks.none id
  refine (keeps_carryOut hgives rfl).bind fun found _ => ?_
  refine (keeps_succeed d found).bind fun views _ => ?_
  cases views with
  | nil => exact keeps_print d _
  | cons v views => exact keeps_printTable d _

end Session

end Meetings
