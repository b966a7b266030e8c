/-
What a command line does.

* `Session` — a command at work on a disk: it prints, and it may end early;
* `Ending` — the exit code, what was printed, and the fault that broke off the
  command, if one did;
* `run` — the ending of a command line at a time, with the disk as it is left.

Design notes: the configuration is loaded first, then the store is opened, and
only then the times of a window are read.  A fault that a command has no words
for breaks it off, with the exit code 1.  The time of a command line stands for
all its readings of the clock, of which scheduling takes two: where its window
starts, and what the window may not lie behind.  The pages of help are left out,
so that a command line that asks for help prints nothing.
-/
import Meetings.CommandLine.Command
import Meetings.CommandLine.Table
import Meetings.Config.File
import Meetings.Moment.Reading
import Meetings.Office

namespace Meetings

open Meetings.Text

/-- A fault that breaks off a command. -/
inductive RunFault where
  | operation (fault : Fault)
  | config (fault : ConfigFault)
  | reading (fault : ReadingFault)
  | markup (fault : MarkupFault)

/-- What is said about a fault that breaks off a command. -/
def RunFault.message : RunFault → String
  | operation fault => fault.message
  | config fault => fault.message
  | reading fault => fault.message
  | markup fault => fault.message

/-- How a command line ended. -/
structure Ending where
  exit : Nat
  output : String
  fault : Option RunFault := none

/-- Why a command ends early. -/
inductive Halt where
  | exit (code : Nat)
  | broken (fault : RunFault)

/-- The disk, and what was printed so far. -/
structure Desk where
  disk : Disk
  output : String := ""

/-- A command at work. -/
abbrev Session := ExceptT Halt (StateM Desk)

/-- The exit code of a failure of a kind. -/
def FailureKind.exitCode : FailureKind → Nat
  | participants => 3
  | duration => 4
  | timeRange => 5
  | outsideHours => 6
  | noSlot => 7
  | unknownParticipant => 8
  | participantName => 9

/-- A fault that is reported when a store is opened. -/
def Fault.isReported : Fault → Bool
  | .storage _ | .booking _ | .name _ => true
  | _ => false

namespace Session

variable {α : Type}

/-- Prints characters. -/
def put (cs : List Char) : Session Unit :=
  modify fun d => { d with output := d.output ++ String.ofList cs }

/-- Prints lines. -/
def putLines (lines : List (List Char)) : Session Unit :=
  put (lines.flatMap (· ++ ['\n']))

/-- Breaks the command off. -/
def breakOff (fault : RunFault) : Session α := throw (.broken fault)

/-- Goes on with text that has no faulty tags, or breaks off. -/
def withPlain (plain : Except MarkupFault α) (act : α → Session Unit) : Session Unit :=
  match plain with
  | .ok a => act a
  | .error fault => breakOff (.markup fault)

/-- Prints a text, which may have tags, and a line break. -/
def print (text : String) : Session Unit :=
  withPlain (plainText text) fun cs => putLines (screenLines cs)

/-- Prints a table between empty lines. -/
def printTable (t : Table) : Session Unit := do
  print ""
  withPlain t.lines putLines
  print ""

/-- Prints a text and ends the command with a code. -/
def stop (code : Nat) (text : String) : Session α := do
  print text
  throw (.exit code)

/-- Prints why there is no store and ends the command. -/
def refuse (reason : String) : Session α := stop 1 ("[bold red]Error:[/bold red] " ++ reason)

/-- Goes on with the value of an operation, or prints its failure and ends the
command. -/
def succeed (result : Except Failure α) : Session α :=
  match result with
  | .ok a => return a
  | .error failure =>
    stop failure.kind.exitCode
      ("[bold red]Error (" ++ failure.kind.code ++ "):[/bold red] " ++ failure.message)

/-- Goes on with a time, or breaks off. -/
def withinCalendar (result : Except TimeFault α) : Session α :=
  match result with
  | .ok a => return a
  | .error fault => breakOff (.operation (.time fault))

/-- Loads the configuration. -/
def loadConfig (file : Option Path) : Session Config := do
  match Config.load (← get).disk file with
  | .ok config => return config
  | .error fault => if fault.isReported then refuse fault.message else breakOff (.config fault)

/-- Opens the store. -/
def openOffice (now : Utc) (config : Config) : Session Office := do
  let opening : Action Unit Archive := Archive.openFile now config.dataFile (← get).disk
  match (opening.runFrom ()).1 with
  | .ok archive => return ⟨archive, []⟩
  | .error fault =>
    if fault.isReported then refuse fault.message else breakOff (.operation fault)

/-- Carries out an operation on the store; the disk is left as it leaves it. -/
def carryOut (office : Office) (action : Action Office α) : Session α := do
  let (result, run) := action.runFrom office
  modify fun d => { d with disk := run.state.archive.disk }
  match result with
  | .ok a => return a
  | .error fault => breakOff (.operation fault)

/-! ### Windows -/

/-- What is printed about a text that is no time. -/
def unreadable (label text reason : String) : String :=
  "[red]Could not parse " ++ label ++ " '" ++ text ++ "': " ++ reason ++ "[/red]"

/-- The time of an option, in UTC. -/
def readTime (now : Utc) (label text : String) : Session Utc := do
  let refuse (reason : String) : Session Utc :=
    stop FailureKind.timeRange.exitCode (unreadable label text reason)
  match readMoment now text with
  | .ok (.moment z) => withinCalendar z.toUtc
  | .ok .span => refuse "'Duration' object has no attribute 'in_timezone'"
  | .ok .pair => refuse "'Interval' object has no attribute 'in_timezone'"
  | .error .emptySide => breakOff (.reading .emptySide)
  | .error fault => refuse fault.message

/-- The window of a search.  It starts now, unless it is said when, and ends the
usual number of days later. -/
def window (now : Utc) (config : Config) (o : SearchOptions) : Session (Utc × Utc) := do
  let start ← match o.start with
    | some text => readTime now "start" text
    | none => pure now
  let stop ← match o.stop with
    | some text => readTime now "end" text
    | none => withinCalendar (start.plusDays config.windowDays)
  return (start, stop)

/-! ### Commands -/

/-- The services over an office. -/
def services (now : Utc) (config : Config) : Pipeline Office :=
  Office.pipeline Grid.standard now 1 config.maxParticipants config.slowRequest

/-- The request of a search. -/
def request (now : Utc) (config : Config) (people : List Int) (o : SearchOptions) :
    Session MeetingRequest.Fields := do
  let (start, stop) ← window now config o
  return .ofValues people (o.duration.getD config.durationMinutes) start stop

/-- Registers a participant. -/
def addParticipant (now : Utc) (config : Config) (name : String) : Session Unit := do
  let office ← openOffice now config
  let p ← succeed (← carryOut office
    ((services now config).register Ticks.none (.obj [("name", .str name)])))
  print ("[green]✓ Participant " ++ displayOptional p.id ++ " created:[/green] " ++ p.name)

/-- Lists the participants. -/
def listParticipants (now : Utc) (config : Config) : Session Unit := do
  let office ← openOffice now config
  match ← carryOut office Office.peopleStore.all with
  | [] => print "[yellow]No participants registered yet.[/yellow]"
  | people =>
    printTable ⟨"Participants", ["ID", "Name"],
      people.map fun p => [displayOptional p.id, p.name]⟩

/-- Finds the earliest slot. -/
def find (now : Utc) (config : Config) (people : List Int) (o : SearchOptions) :
    Session Unit := do
  let office ← openOffice now config
  let fields ← request now config people o
  let slot ← succeed (← carryOut office ((services now config).findFields Ticks.none none fields))
  let stop ← withinCalendar (slot.plusMinutes (o.duration.getD config.durationMinutes))
  print ("[bold green]✓ Earliest slot:[/bold green] " ++ slot.weekday ++ ", " ++
    slot.dayMonthYear ++ " | " ++ slot.clock ++ " – " ++ stop.clock ++ " UTC")

/-- Books the earliest slot. -/
def schedule (now : Utc) (config : Config) (people : List Int) (o : SearchOptions) :
    Session Unit := do
  let office ← openOffice now config
  let fields ← request now config people o
  let view ← succeed (← carryOut office
    ((services now config).scheduleFields Ticks.none (some now.zoned) fields))
  print ("[bold green]✓ Meeting " ++ displayOptional view.booking.id ++
    " scheduled:[/bold green]")
  print ("  " ++ view.display)

/-- The row of a booking in a table. -/
def bookingRow (v : BookingView) : List String :=
  [displayOptional v.booking.id, v.booking.start.yearMonthDay ++ " " ++ v.booking.start.clock,
    v.booking.stop.clock, ", ".intercalate (v.participants.map (·.name))]

/-- Lists the meetings of a participant. -/
def listMeetings (now : Utc) (config : Config) (id : Int) : Session Unit := do
  let office ← openOffice now config
  match ← succeed (← carryOut office ((services now config).bookings Ticks.none id)) with
  | [] => print "[yellow]No meetings scheduled.[/yellow]"
  | views =>
    printTable ⟨"Meetings of participant " ++ signedDecimal id,
      ["ID", "Start (UTC)", "End (UTC)", "Participants"], views.map bookingRow⟩

/-- The version of the program. -/
def versionNumber : String := "0.1.0"

/-- Carries out a command. -/
def perform (now : Utc) (i : Invocation) : Session Unit := do
  match i.command with
  | .help => return
  | .version =>
    print ("\n[bold cyan]meetingscheduler[/bold cyan] version [bold]" ++ versionNumber ++
      "[/bold]\n")
  | .addParticipant name => addParticipant now (← loadConfig i.config) name
  | .participants => listParticipants now (← loadConfig i.config)
  | .find people o => find now (← loadConfig i.config) people o
  | .schedule people o => schedule now (← loadConfig i.config) people o
  | .meetings id => listMeetings now (← loadConfig i.config) id

/-- The ending of a session, with the disk as it is left. -/
def ending (session : Session Unit) (disk : Disk) : Ending × Disk :=
  let (result, desk) := session.run ⟨disk, ""⟩
  let ending : Ending := match result with
    | .ok _ => ⟨0, desk.output, none⟩
    | .error (.exit code) => ⟨code, desk.output, none⟩
    | .error (.broken fault) => ⟨1, desk.output, some fault⟩
  (ending, desk.disk)

end Session

/-- The exit code of a command line that is no command. -/
def usageCode : Nat := 2

/-- What a command line does at a time. -/
def runCommandLine (now : Utc) (disk : Disk) (args : List String) : Ending × Disk :=
  match Invocation.ofArguments args with
  | none => (⟨usageCode, "", none⟩, disk)
  | some i => Session.ending (Session.perform now i) disk

end Meetings
