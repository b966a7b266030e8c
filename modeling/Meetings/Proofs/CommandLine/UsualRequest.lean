/-
A search for some people, with everything else as it is configured.

* `request_usual` — the request that is built of the usual duration and window;
* `usualVerdict`, **`ofFields_usual`** — what the checks of a request say of it, for
  every configuration that is accepted;
* `HaltsWith` — the codes with which a session can end early, with the rules for a
  sequence; `Change.FailsWith` — the kinds of failures that a change answers with;
* `finding_failsWith`, `scheduling_failsWith` — searching for a slot fails for a slot
  or for participants that are missing, and for nothing else;
* **`usual_search`** — the request, the verdict, and the codes of both commands.

Design notes: a configuration bounds the usual window as a request does, but not the
usual duration.  A duration above the longest meeting is therefore accepted with the
configuration and refused with every request that leaves it out.
-/
import Meetings.Proofs.CommandLine.Runs
import Meetings.Proofs.Config
import Meetings.Proofs.Office.Agreement
import Meetings.Proofs.Request.Rules

namespace Meetings

open MeetingRequest (AllowedPeople Fields durationFault ofFields peopleFault windowFault)

variable {config : Config} {people : List Int} {now later : Utc} {asOf : Option Zoned}

/-! ### The usual request -/

/-- The request of a search without options is for the usual duration, from now on
for the usual number of days. -/
theorem Session.request_usual (hlater : now.plusDays config.windowDays = .ok later) (desk : Desk) :
    request now config people {} desk =
      (.ok (.ofValues people config.durationMinutes now later), desk) := by
  unfold request window
  dsimp only
  rw [pure_bind, hlater]
  rfl

/-- What the checks say of the usual request: a duration above eight hours is
refused; else the request passes, unless it is checked against a clock within the
first five minutes of the calendar. -/
def usualVerdict (config : Config) (people : List Int) (now later : Utc) (asOf : Option Zoned) :
    Except TimeFault (Except RequestFault MeetingRequest) :=
  if 480 < config.durationMinutes then .ok (.error .tooLengthy)
  else if asOf.isSome ∧ now.wall < 5 * minuteSpan then .error .outsideCalendar
  else .ok (.ok ⟨people, config.durationMinutes, now, later⟩)

theorem durationFault_usual (hconfig : config.Valid) : durationFault config.durationMinutes =
    if 480 < config.durationMinutes then some .tooLengthy else none := by
  obtain ⟨hpositive, hgrid, -⟩ := hconfig
  unfold standardQuantum at hgrid
  unfold durationFault shortestMeeting longestMeeting standardQuantum
  rw [if_neg (by omega), if_neg (by omega)]
  split
  · rfl
  · rw [if_neg (by omega)]

theorem peopleFault_allowed {limit : Int} (h : AllowedPeople limit people) :
    peopleFault limit people = none :=
  MeetingRequest.peopleFault_eq_none_iff.mpr ⟨h.somebody, h.positive, h.once, h.atMost⟩

/-- The usual window obeys the rules of a request for the usual duration, as far as
the calendar goes back to them. -/
theorem windowFault_usual (hconfig : config.Valid)
    (hlater : now.plusDays config.windowDays = .ok later) (hduration : config.durationMinutes ≤ 480)
    (hasOf : asOf = none ∨ asOf = some now.zoned) :
    windowFault asOf ⟨people, config.durationMinutes, now, later⟩ =
      if asOf.isSome ∧ now.wall < 5 * minuteSpan then .error .outsideCalendar else .ok none := by
  obtain ⟨hpositive, -, hfirst, hlast, -⟩ := hconfig
  have hlast : config.windowDays ≤ 30 := hlast
  have hwall := Moment.plusDays_wall hlater
  have hend := later.wall_lt
  unfold daySpan at hwall
  obtain ⟨last, hmeets⟩ : ∃ last, now.plusMinutes config.durationMinutes = .ok last :=
    (Moment.exists_plusMinutes_iff (Int.le_of_lt hpositive)).mpr (by unfold minuteSpan; omega)
  have hlasts := Moment.plusMinutes_wall hmeets
  unfold minuteSpan at hlasts
  unfold windowFault windowLimit daySpan
  dsimp only
  rw [if_neg (by omega), hmeets, ok_bind, if_neg (by omega), if_neg (by omega)]
  rcases hasOf with rfl | rfl
  · rfl
  · have htoUtc : now.zoned.toUtc = .ok now := Moment.toUtc_utc now
    have hthreshold : now.plusMinutes (-MeetingRequest.pastTolerance) =
        Moment.ofWall 0 (now.wall + -5 * minuteSpan) := Moment.plusMinutes_utc (by decide)
    dsimp only
    rw [htoUtc, ok_bind, hthreshold]
    by_cases hearly : now.wall < 5 * minuteSpan
    · rw [if_pos ⟨rfl, hearly⟩, Moment.ofWall, dif_neg (by omega), error_bind]
    · obtain ⟨threshold, hok⟩ : ∃ threshold : Utc,
          Moment.ofWall 0 (now.wall + -5 * minuteSpan) = .ok threshold :=
        Moment.exists_ofWall (by omega) (by unfold minuteSpan; have := now.wall_lt; omega)
      have hbefore := Moment.ofWall_eq_ok_iff.mp hok
      unfold minuteSpan at hbefore
      rw [if_neg (fun h => hearly h.2), hok, ok_bind, if_neg (by omega)]
      rfl

/-- **The verdict on the usual request**, for every accepted configuration. -/
theorem ofFields_usual (hconfig : config.Accepted)
    (hpeople : AllowedPeople config.maxParticipants people)
    (hlater : now.plusDays config.windowDays = .ok later)
    (hasOf : asOf = none ∨ asOf = some now.zoned) :
    ofFields config.maxParticipants asOf (.ofValues people config.durationMinutes now later) =
      usualVerdict config people now later asOf := by
  have hvalid := hconfig.valid
  have hduration := durationFault_usual hvalid
  unfold usualVerdict
  split
  · next hlong =>
    rw [if_pos hlong] at hduration
    have hrefused : (Fields.ofValues people config.durationMinutes now later).request
        config.maxParticipants = .error .tooLengthy := by
      unfold Fields.request Fields.ofValues MeetingRequest.checked
      simp only [peopleFault_allowed hpeople, hduration, ok_bind, error_bind]
    unfold ofFields
    rw [hrefused]
    rfl
  · next hbrief =>
    rw [if_neg hbrief] at hduration
    have hread : (Fields.ofValues people config.durationMinutes now later).request
        config.maxParticipants = .ok ⟨people, config.durationMinutes, now, later⟩ :=
      Fields.request_eq_ok_iff.mpr ⟨⟨rfl, peopleFault_allowed hpeople⟩, ⟨rfl, hduration⟩, rfl, rfl⟩
    unfold ofFields
    rw [hread]
    dsimp only
    rw [windowFault_usual hvalid hlater (Int.not_lt.mp hbrief) hasOf]
    split
    · rfl
    · rfl

/-- What is done with the usual request. -/
theorem change_usual {α : Type} (change : MeetingRequest → Change (Except Failure α))
    (hconfig : config.Accepted) (hpeople : AllowedPeople config.maxParticipants people)
    (hlater : now.plusDays config.windowDays = .ok later)
    (hasOf : asOf = none ∨ asOf = some now.zoned) :
    (Asked.read asOf (.ofValues people config.durationMinutes now later)).change
        config.maxParticipants change =
      if 480 < config.durationMinutes then .answer (.ok (.error (.request .tooLengthy)))
      else if asOf.isSome ∧ now.wall < 5 * minuteSpan then
        .answer (.error (.time .outsideCalendar))
      else change ⟨people, config.durationMinutes, now, later⟩ := by
  have hparsed : (Asked.read asOf (.ofValues people config.durationMinutes now later)).parsed
      config.maxParticipants = (usualVerdict config people now later asOf).mapError .time :=
    congrArg (Except.mapError Fault.time) (ofFields_usual hconfig hpeople hlater hasOf)
  unfold Asked.change
  rw [hparsed, usualVerdict]
  by_cases hlong : 480 < config.durationMinutes
  · rw [if_pos hlong, if_pos hlong]
    rfl
  · rw [if_neg hlong, if_neg hlong]
    by_cases hearly : asOf.isSome ∧ now.wall < 5 * minuteSpan
    · rw [if_pos hearly, if_pos hearly]
      rfl
    · rw [if_neg hearly, if_neg hearly]
      rfl

/-! ### Failures -/

namespace Change

variable {α : Type} {K : FailureKind → Prop} {c : Change (Except Failure α)} {o : Office}

/-- The change answers with failures of some kinds only. -/
def FailsWith (K : FailureKind → Prop) : Change (Except Failure α) → Prop
  | .answer result => ∀ f, result = .ok (.error f) → K f.kind
  | .put _ _ result => ∀ f, result = .error f → K f.kind

theorem FailsWith.kind {f : Failure} (h : c.FailsWith K) (hf : (c.apply o).1 = .ok (.error f)) :
    K f.kind := by
  cases c with
  | answer result => exact h f hf
  | put store told result =>
    cases hfault : (Archive.replaced o.archive store).1 with
    | none =>
      rw [apply_put_saved hfault] at hf
      exact h f (Except.ok.inj hf)
    | some fault =>
      rw [apply_put_failed hfault] at hf
      cases hf

theorem failsWith_failure {f : Failure} (h : K f.kind) :
    FailsWith K (.answer (.ok (.error f)) : Change (Except Failure α)) := by
  rintro _ ⟨⟩
  exact h

/-- What is done with a slot fails for the slot that is missing, or as that fails. -/
theorem failsWith_onSlot {found : Except Fault (Option Utc)}
    {change : Utc → Change (Except Failure α)} (hnone : K .noSlot)
    (h : ∀ slot, found = .ok (some slot) → (change slot).FailsWith K) :
    (onSlot found change).FailsWith K := by
  cases found with
  | error fault => rintro f ⟨⟩
  | ok slot =>
    cases slot with
    | none => exact failsWith_failure hnone
    | some slot => exact h slot rfl

end Change

namespace Store

variable {s : Store} {set : Settings} {r : MeetingRequest}

theorem finding_failsWith (s : Store) (set : Settings) (r : MeetingRequest) :
    (s.finding set r).FailsWith fun kind => kind = .noSlot := by
  refine Change.failsWith_onSlot rfl fun slot _ => ?_
  rintro f ⟨⟩

/-- On the standard grid the rules of a booking never refuse a slot that is found. -/
theorem scheduling_failsWith (hgrid : set.grid = Grid.standard) (hsome : r.people ≠ [])
    (honce : r.people.Nodup) (hduration : 0 < r.duration) :
    (s.scheduling set r).FailsWith fun kind => kind = .noSlot ∨ kind = .unknownParticipant := by
  unfold scheduling
  split
  · intro f hf
    rw [notFound_failure hf]
    exact .inr rfl
  · refine Change.failsWith_onSlot (.inl rfl) fun slot hslot => ?_
    rw [hgrid] at hslot
    obtain ⟨last, hlast, -, hbooking⟩ := slot_bookable hsome honce hduration hslot
    unfold booking
    rw [hlast]
    dsimp only
    rw [hbooking]
    rintro f ⟨⟩

end Store

/-! ### Exit codes -/

namespace Session

variable {α β : Type} {C : Nat → Prop} {m : Session α} {next : α → Session β} {d : Disk}

/-- The session can end early with some codes only. -/
def HaltsWith (C : Nat → Prop) (m : Session α) : Prop :=
  ∀ desk halt, (m desk).1 = .error halt → C halt.code

theorem HaltsWith.imp {C' : Nat → Prop} (hm : HaltsWith C m) (h : ∀ code, C code → C' code) :
    HaltsWith C' m :=
  fun desk halt hhalt => h _ (hm desk halt hhalt)

theorem haltsWith_pure (a : α) : HaltsWith C (pure a : Session α) := by
  rintro desk halt ⟨⟩

theorem haltsWith_throw {halt : Halt} (h : C halt.code) : HaltsWith C (throw halt : Session α) := by
  rintro desk _ ⟨⟩
  exact h

theorem HaltsWith.bind (hm : HaltsWith C m) (hnext : ∀ a, HaltsWith C (next a)) :
    HaltsWith C (m >>= next) := by
  intro desk halt hhalt
  have hearly := hm desk
  rw [bind_run] at hhalt
  rcases hrun : m desk with ⟨x, desk'⟩
  rw [hrun] at hhalt hearly
  cases x with
  | ok a => exact hnext a desk' halt hhalt
  | error early =>
    obtain rfl : early = halt := Except.error.inj hhalt
    exact hearly early rfl

theorem haltsWith_print (h : C 1) (text : String) : HaltsWith C (print text) := by
  unfold print withPlain
  split
  · rintro desk halt ⟨⟩
  · exact haltsWith_throw h

theorem haltsWith_withinCalendar (h : C 1) (result : Except TimeFault α) :
    HaltsWith C (withinCalendar result) := by
  cases result with
  | ok a => exact haltsWith_pure a
  | error fault => exact haltsWith_throw h

theorem haltsWith_stop {code : Nat} (hcode : C code) (h : C 1) (text : String) :
    HaltsWith C (stop code text : Session α) :=
  (haltsWith_print h text).bind fun _ => haltsWith_throw hcode

theorem haltsWith_succeed {result : Except Failure α} (h : C 1)
    (hfailure : ∀ f, result = .error f → C f.kind.exitCode) : HaltsWith C (succeed result) := by
  cases result with
  | ok a => exact haltsWith_pure a
  | error f => exact haltsWith_stop (hfailure f rfl) h _

theorem HaltsWith.ends {m : Session Unit} (hm : HaltsWith C m) (h : C 0) :
    Ends d m fun code _ => C code := by
  intro out
  have hearly := hm ⟨d, out⟩
  cases hrun : (m ⟨d, out⟩).1 with
  | ok a => exact h
  | error halt => exact hearly halt hrun

/-- What is answered to an operation, and what follows it, ends with one of some codes
if the failures of its change do, and a fault that breaks it off. -/
theorem ends_answered {K : FailureKind → Prop} {office : Office}
    {action : Action Office (Except Failure α)} {c : Change (Except Failure α)}
    {next : α → Session Unit} (hdoes : action.Does office c) (hc : c.FailsWith K)
    (hK : ∀ kind, K kind → C kind.exitCode) (h0 : C 0) (h1 : C 1)
    (hnext : ∀ a, HaltsWith C (next a)) :
    Ends d (carryOut office action >>= fun result => succeed result >>= next) fun code _ =>
      C code := by
  refine ends_carryOut hdoes (fun _ _ => h1) fun result hresult => ?_
  have hsucceed : HaltsWith C (succeed result) :=
    haltsWith_succeed h1 fun f hf => hK _ (hc.kind (hf ▸ hresult))
  exact (hsucceed.bind hnext).ends h0

/-- A refusal whose text has no faulty tags ends the command with its code. -/
theorem ends_refused {f : Failure} {cs : List Char} {next : α → Session Unit}
    (htext : plainText ("[bold red]Error (" ++ f.kind.code ++ "):[/bold red] " ++ f.message) =
      .ok cs) : Ends d (succeed (.error f) >>= next) fun code _ => code = f.kind.exitCode := by
  have hstop : (succeed (.error f) : Session α) = (print ("[bold red]Error (" ++ f.kind.code ++
      "):[/bold red] " ++ f.message) >>= fun _ => throw (.exit f.kind.exitCode)) := rfl
  rw [hstop, bind_assoc]
  exact ends_print_then htext fun out => rfl

/-- A session that is refused ends with 1, whatever becomes of the text. -/
theorem refuse_run (reason : String) (desk : Desk) :
    ∃ halt desk', (refuse reason : Session α) desk = (.error halt, desk') ∧ halt.code = 1 := by
  unfold refuse stop print withPlain
  split
  · exact ⟨_, _, rfl, rfl⟩
  · exact ⟨_, _, rfl, rfl⟩

/-- A store that is not loaded ends the command with 1. -/
theorem ends_unopened {fault : Fault} {next : Office → Session Unit}
    (hload : Archive.load now config.dataFile d = .error fault) :
    Ends d (openOffice now config >>= next) fun code _ => code = 1 := by
  intro out
  rw [bind_run, openOffice_error hload]
  by_cases hreported : fault.isReported = true
  · obtain ⟨halt, desk, hrun, hcode⟩ := @refuse_run Office fault.message ⟨d, out⟩
    rw [if_pos hreported, hrun]
    exact hcode
  · rw [if_neg hreported]
    rfl

/-! ### Searches -/

/-- The code of a search without options: never that of a bad window, and that of a
bad duration iff the usual duration is above eight hours and the store is opened. -/
structure UsualCode (config : Config) (now : Utc) (d : Disk) (code : Nat) : Prop where
  window : code ≠ 5
  duration : code = 4 ↔ 480 < config.durationMinutes ∧
    ∃ s, Archive.load now config.dataFile d = .ok s

/-- A search that asks for something of the usual request. -/
theorem ends_usual {K : FailureKind → Prop}
    {change : Store → MeetingRequest → Change (Except Failure α)}
    {action : Fields → Action Office (Except Failure α)} {next : α → Session Unit}
    (hconfig : config.Accepted) (hpeople : AllowedPeople config.maxParticipants people)
    (hlater : now.plusDays config.windowDays = .ok later)
    (hasOf : asOf = none ∨ asOf = some now.zoned)
    (hdoes : ∀ s f, (action f).Does (opened config s d)
      ((Asked.read asOf f).change config.maxParticipants (change s)))
    (hchange : ∀ s (r : MeetingRequest), r.people = people → 0 < r.duration →
      (change s r).FailsWith K)
    (hK : ∀ kind, K kind → kind.exitCode ≠ 4 ∧ kind.exitCode ≠ 5)
    (hnext : ∀ a, HaltsWith (Eq 1) (next a)) :
    Ends d (do
      let office ← openOffice now config
      let fields ← request now config people {}
      let result ← carryOut office (action fields)
      let a ← succeed result
      next a) fun code _ => UsualCode config now d code := by
  cases hload : Archive.load now config.dataFile d with
  | error fault =>
    refine (ends_unopened hload).imp ?_
    rintro code - rfl
    exact ⟨by decide, by simp [hload]⟩
  | ok s =>
    refine .bind_ok (openOffice_ok hload) (.bind_ok (fun out => request_usual hlater ⟨d, out⟩) ?_)
    have hdoes := hdoes s (.ofValues people config.durationMinutes now later)
    rw [change_usual (change s) hconfig hpeople hlater hasOf] at hdoes
    by_cases hlong : 480 < config.durationMinutes
    · -- The request is refused, and the refusal is printed.
      rw [if_pos hlong] at hdoes
      obtain ⟨cs, htext⟩ : ∃ cs, plainText ("[bold red]Error (" ++
          (Failure.request .tooLengthy).kind.code ++ "):[/bold red] " ++
          (Failure.request .tooLengthy).message) = .ok cs := ⟨_, by rfl⟩
      have hcode : Ends d (carryOut (opened config s d)
          (action (.ofValues people config.durationMinutes now later)) >>= fun result =>
          succeed result >>= next) fun code _ => code = 4 := by
        refine ends_carryOut hdoes (by rintro fault ⟨⟩) ?_
        rintro _ ⟨⟩
        exact ends_refused htext
      refine hcode.imp ?_
      rintro code - rfl
      exact ⟨by decide, iff_of_true rfl ⟨hlong, s, hload⟩⟩
    · -- Whatever is answered, no failure has one of the two codes.
      rw [if_neg hlong] at hdoes
      have hfails : Change.FailsWith K (if asOf.isSome ∧ now.wall < 5 * minuteSpan then
          .answer (.error (.time .outsideCalendar))
          else change s ⟨people, config.durationMinutes, now, later⟩) := by
        split
        · rintro f ⟨⟩
        · exact hchange s _ rfl hconfig.valid.1
      refine Ends.imp (R := fun code _ => code ≠ 4 ∧ code ≠ 5) (ends_answered hdoes hfails hK
        ⟨by decide, by decide⟩ ⟨by decide, by decide⟩ fun a => (hnext a).imp ?_) ?_
      · rintro code rfl
        exact ⟨by decide, by decide⟩
      · rintro code - ⟨hduration, hwindow⟩
        exact ⟨hwindow, iff_of_false hduration fun h => hlong h.1⟩

section Commands

variable (hconfig : config.Accepted) (hpeople : AllowedPeople config.maxParticipants people)
  (hlater : now.plusDays config.windowDays = .ok later)

include hconfig hpeople hlater

theorem ends_find_usual (d : Disk) :
    Ends d (find now config people {}) fun code _ => UsualCode config now d code := by
  refine ends_usual (K := fun kind => kind = .noSlot) hconfig hpeople hlater (.inl rfl)
    (fun s f => (does_request (settings now config) (.read none f) (@does_find (opened config s d)
      (settings now config))).observed (services now config) "find" Ticks.none)
    (fun s r _ _ => s.finding_failsWith (settings now config) r) ?_ fun slot => ?_
  · rintro kind rfl
    decide
  · exact (haltsWith_withinCalendar rfl _).bind fun last => haltsWith_print rfl _

theorem ends_schedule_usual (d : Disk) :
    Ends d (schedule now config people {}) fun code _ => UsualCode config now d code := by
  refine ends_usual (K := fun kind => kind = .noSlot ∨ kind = .unknownParticipant) hconfig hpeople
    hlater (.inr rfl) (fun s f => (does_request (settings now config) (.read (some now.zoned) f)
      (@does_schedule (opened config s d) (settings now config))).observed (services now config)
      "schedule" Ticks.none) (fun s r hr hduration => ?_) ?_ fun v => ?_
  · exact s.scheduling_failsWith rfl (hr ▸ hpeople.somebody) (hr ▸ hpeople.once) hduration
  · rintro kind (rfl | rfl)
    · decide
    · decide
  · exact (haltsWith_print rfl _).bind fun _ => haltsWith_print rfl _

end Commands

end Session

/-- **The usual request.**  For every accepted configuration, people who may meet and
a clock from which the usual window ends within the calendar: a search without options
asks for the usual duration and window, and what is said of that request is its verdict.
So it is accepted, unless the usual duration is above eight hours or scheduling would
have to look back behind the start of the calendar; and neither command ever ends with
the code of a bad window, or with that of a bad duration but for a duration above
eight hours. -/
theorem usual_search (hconfig : config.Accepted)
    (hpeople : AllowedPeople config.maxParticipants people)
    (hlater : now.plusDays config.windowDays = .ok later) :
    (∀ desk, Session.request now config people {} desk =
      (.ok (.ofValues people config.durationMinutes now later), desk)) ∧
    (∀ asOf, asOf = none ∨ asOf = some now.zoned →
      ofFields config.maxParticipants asOf (.ofValues people config.durationMinutes now later) =
        usualVerdict config people now later asOf) ∧
    ∀ (d : Disk) (file : Option Path) (args : List String) (command : Command),
      Config.load d file = .ok config →
      command = .find people {} ∨ command = .schedule people {} →
      Invocation.ofArguments args = some ⟨command, file⟩ →
      Session.UsualCode config now d (runCommandLine now d args).1.exit := by
  refine ⟨Session.request_usual hlater, fun asOf => ofFields_usual hconfig hpeople hlater, ?_⟩
  intro d file args command hload hcommand hargs
  rw [runCommandLine_of hargs]
  have hconfigured := Session.loadConfig_ok hload
  have hends : Session.Ends d (Session.perform now ⟨command, file⟩) fun code _ =>
      Session.UsualCode config now d code := by
    rcases hcommand with rfl | rfl
    · exact .bind_ok hconfigured (Session.ends_find_usual hconfig hpeople hlater d)
    · exact .bind_ok hconfigured (Session.ends_schedule_usual hconfig hpeople hlater d)
  exact hends.ending

/-- With nothing configured, the usual request of one person passes. -/
theorem usual_search_saturday :
    let now := Moment.saturday 480
    ∃ later, now.plusDays 7 = .ok later ∧
      ofFields 50 (some now.zoned) (.ofValues [1] 60 now later) = .ok (.ok ⟨[1], 60, now, later⟩) ∧
      (runCommandLine now ⟨[], [], none, []⟩ ["schedule", "1"]).1.exit ≠ 4 ∧
      (runCommandLine now ⟨[], [], none, []⟩ ["schedule", "1"]).1.exit ≠ 5 := by
  intro now
  have hload : Config.load ⟨[], [], none, []⟩ none = .ok {} := rfl
  have hline : Invocation.ofArguments ["schedule", "1"] = some ⟨.schedule [1] {}, none⟩ := by cbv
  have hpeople : AllowedPeople ({} : Config).maxParticipants [1] :=
    ⟨by decide, by decide, by decide, by decide⟩
  obtain ⟨later, hlater⟩ : ∃ later, now.plusDays ({} : Config).windowDays = .ok later :=
    Moment.exists_plusDays (by decide) (by decide)
  obtain ⟨-, hverdict, hcode⟩ := usual_search (.loaded hload) hpeople hlater
  obtain ⟨hwindow, hduration⟩ := hcode _ _ _ _ hload (.inr rfl) hline
  refine ⟨later, hlater, hverdict _ (.inr rfl), fun h => ?_, hwindow⟩
  exact absurd (hduration.mp h).1 (by decide)

/-- **A usual duration that no request may have.**  A configuration of 495 minutes is
accepted, and then every search that leaves the duration out is refused. -/
theorem usual_search_lengthy :
    let now := Moment.saturday 480
    let config : Config := { durationMinutes := 495 }
    Config.ofEntries [(.text "defaults", .mapping [(.text "duration_minutes", .int 495)])] =
      .ok config ∧
    AllowedPeople config.maxParticipants [1] ∧
    ∃ later, now.plusDays config.windowDays = .ok later ∧
      ofFields config.maxParticipants none (.ofValues [1] config.durationMinutes now later) =
        .ok (.error .tooLengthy) ∧
      (Session.ending (Session.find now config [1] {}) ⟨[], [], none, []⟩).1.exit =
        FailureKind.duration.exitCode := by
  intro now config
  have hread : Config.ofEntries [(.text "defaults", .mapping [(.text "duration_minutes",
      .int 495)])] = .ok config := by cbv
  have hpeople : AllowedPeople config.maxParticipants [1] :=
    ⟨by decide, by decide, by decide, by decide⟩
  obtain ⟨later, hlater⟩ : ∃ later, now.plusDays config.windowDays = .ok later :=
    Moment.exists_plusDays (by decide) (by decide)
  have hcode := (Session.ends_find_usual (.read hread) hpeople hlater ⟨[], [], none, []⟩).ending
  exact ⟨hread, hpeople, later, hlater, ofFields_usual (.read hread) hpeople hlater (.inl rfl),
    hcode.duration.mpr ⟨by decide, Store.empty, rfl⟩⟩

end Meetings
