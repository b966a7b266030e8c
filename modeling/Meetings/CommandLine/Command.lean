/-
Commands and how they are written on a command line.

* `Command` — the commands;
* `Invocation.ofArguments` — the command of a command line, if it is one.

Design notes: an argument that begins with a hyphen is an option, unless it is
the value of an option or stands behind `--`.  Of an option that is given twice
the later one counts.  Once all options are known ones and have their values,
`--help` among them asks for help, whatever the other arguments are.  Options in
front of the name of a command can only ask for help on the program.
-/
import Meetings.Disk.Path
import Meetings.Number.Numeral

namespace Meetings

open Meetings.Text

/-- The options of a search for a slot. -/
structure SearchOptions where
  duration : Option Int := none
  start : Option String := none
  stop : Option String := none
deriving DecidableEq, Repr

/-- The commands. -/
inductive Command where
  | addParticipant (name : String)
  | participants
  | find (people : List Int) (options : SearchOptions)
  | schedule (people : List Int) (options : SearchOptions)
  | meetings (participant : Int)
  | version
  /-- Help on the program or on one of its commands. -/
  | help
deriving DecidableEq, Repr

/-- A command with the file of the configuration, if one is asked for. -/
structure Invocation where
  command : Command
  config : Option Path := none
deriving DecidableEq, Repr

namespace Invocation

/-- The options of commands that have a value. -/
inductive OptionName where
  | config
  | duration
  | start
  | stop
deriving DecidableEq, Repr

/-- The long name of an option. -/
def OptionName.long : OptionName → String
  | config => "--config"
  | duration => "--duration"
  | start => "--start"
  | stop => "--end"

/-- The letter of an option. -/
def OptionName.letter : OptionName → Option Char
  | config => some 'c'
  | duration => some 'd'
  | _ => none

/-- The options and the other arguments of a command. -/
structure Arguments where
  /-- The later ones are in front. -/
  options : List (OptionName × String) := []
  words : List String := []
  /-- Help is asked for. -/
  help : Bool := false

/-- The option that asks for help; it has no value. -/
def helpOption : String := "--help"

/-- An argument that is written as an option. -/
def isOption (arg : String) : Bool :=
  match arg.toList with
  | '-' :: _ :: _ => true
  | _ => false

/-- The option that an argument names, with the value that is attached to it: to
a long name by an equals sign, to a letter directly. -/
def option? (allowed : List OptionName) (arg : String) : Option (OptionName × Option String) :=
  let cs := arg.toList
  let name := String.ofList (cs.takeWhile (· != '='))
  let value := match cs.dropWhile (· != '=') with
    | [] => none
    | _ :: rest => some (String.ofList rest)
  match allowed.find? fun o => o.long == name with
  | some o => some (o, value)
  | none =>
    match cs with
    | '-' :: '-' :: _ => none
    | _ :: letter :: rest =>
      (allowed.find? fun o => o.letter == some letter).map fun o =>
        (o, if rest.isEmpty then none else some (String.ofList rest))
    | _ => none

/-- Sorts the arguments of a command; none are sorted if an option is unknown or
lacks its value. -/
def sort (allowed : List OptionName) : List String → Arguments → Option Arguments
  | [], found => some found
  | arg :: rest, found =>
    if arg = "--" then some { found with words := found.words ++ rest }
    else if arg = helpOption then sort allowed rest { found with help := true }
    else if isOption arg then
      match option? allowed arg, rest with
      | none, _ => none
      | some (o, some value), rest =>
        sort allowed rest { found with options := (o, value) :: found.options }
      | some (o, none), value :: rest =>
        sort allowed rest { found with options := (o, value) :: found.options }
      | some (_, none), [] => none
    else sort allowed rest { found with words := found.words ++ [arg] }

/-- The value of an option. -/
def Arguments.value? (a : Arguments) (o : OptionName) : Option String := a.options.lookup o

/-- The whole number of a word. -/
def number? (word : String) : Option Int := (readNumeral word).toOption

/-- The file of the configuration. -/
def Arguments.config (a : Arguments) : Option Path := (a.value? .config).map Path.ofText

/-- The options of a search. -/
def Arguments.search? (a : Arguments) : Option SearchOptions := do
  let duration ← match a.value? .duration with
    | none => some none
    | some word => (number? word).map some
  return ⟨duration, a.value? .start, a.value? .stop⟩

/-- The numbers of the participants, of whom there is at least one. -/
def Arguments.people? (a : Arguments) : Option (List Int) :=
  if a.words.isEmpty then none else a.words.mapM number?

/-- The only word. -/
def Arguments.word? (a : Arguments) : Option String :=
  match a.words with
  | [word] => some word
  | _ => none

/-- The options of the command of a name. -/
def options? : String → Option (List OptionName)
  | "add-participant" | "participants" | "meetings" => some [.config]
  | "find" | "schedule" => some [.config, .duration, .start, .stop]
  | "version" => some []
  | _ => none

/-- The command of a name and its words and options. -/
def command? (name : String) (a : Arguments) : Option Command := do
  match name with
  | "add-participant" => return .addParticipant (← a.word?)
  | "participants" => if a.words.isEmpty then return .participants else none
  | "find" => return .find (← a.people?) (← a.search?)
  | "schedule" => return .schedule (← a.people?) (← a.search?)
  | "meetings" => return .meetings (← number? (← a.word?))
  | "version" => if a.words.isEmpty then return .version else none
  | _ => none

/-- The command of a name and its arguments. -/
def ofCommand (name : String) (args : List String) : Option Invocation := do
  let a ← sort (← options? name) args {}
  if a.help then return ⟨.help, none⟩
  else return ⟨← command? name a, a.config⟩

/-- The arguments in front of the first word, which are the options of the program. -/
def leadingOptions (args : List String) : List String :=
  args.takeWhile fun arg => isOption arg && arg != "--"

/-- The command of a command line. -/
def ofArguments (args : List String) : Option Invocation :=
  let leading := leadingOptions args
  if leading.any (· != helpOption) then none
  else if !leading.isEmpty then some ⟨.help, none⟩
  else match args with
    | "--" :: name :: rest => ofCommand name rest
    | name :: rest => ofCommand name rest
    | [] => none

end Invocation

end Meetings
