/-
A disk: directories and files with their bytes.

* `Disk.node?` — what is at a place;
* `Disk.read`, `Disk.write`, `Disk.makeDirectories`, `Disk.replace` — the
  operations on paths, each with its faults;
* `Disk.save` — writes a file so that it is either as before or complete: the
  bytes go to a temporary file, `Disk.writeTemporary`, which then replaces the
  file, `Disk.install`;
* `Refusal` — a step of saving that the disk refuses for a reason of its own.

Design notes: a place is the list of names from the root.  A path leads through
directories only, so `..` is taken from a directory that is there.
-/
import Meetings.Disk.Fault
import Meetings.Disk.Path

namespace Meetings

/-- A place on a disk, by the names from the root. -/
abbrev Place := List String

/-- What is at a place. -/
inductive Node where
  | file (bytes : List UInt8)
  | directory
deriving DecidableEq, Repr

/-- The steps of saving a file. -/
inductive SaveStep where
  | makeDirectory
  | openTemporary
  | writeTemporary
  | replace
deriving DecidableEq, Repr

/-- A step of saving that is refused, and the reason given. -/
structure Refusal where
  step : SaveStep
  reason : String
deriving DecidableEq, Repr

/-- Directories and files. -/
structure Disk where
  /-- The place that paths without a root start from. -/
  workingPlace : Place
  nodes : List (Place × Node)
  refusal : Option Refusal := none
  /-- The place of the program: the directory that holds its package. -/
  programPlace : Place := []
deriving Repr

/-- Why a path leads nowhere. -/
inductive Obstacle where
  | absent
  | notDirectory
deriving DecidableEq, Repr

namespace Disk

/-- What is at a place; the root is a directory. -/
def node? (d : Disk) (place : Place) : Option Node :=
  if place = [] then some .directory
  else (d.nodes.find? fun n => n.1 == place).map (·.2)

/-- Puts something at a place. -/
def put (d : Disk) (place : Place) (node : Node) : Disk :=
  { d with nodes := (place, node) :: d.nodes.filter fun n => n.1 != place }

/-- Takes away what is at a place. -/
def remove (d : Disk) (place : Place) : Disk :=
  { d with nodes := d.nodes.filter fun n => n.1 != place }

/-- Follows names from a place; every place that is left must be a directory. -/
def follow (d : Disk) (place : Place) : List String → Except Obstacle Place
  | [] => .ok place
  | name :: rest =>
    match d.node? place with
    | some .directory =>
      d.follow (if name = ".." then place.dropLast else place ++ [name]) rest
    | some (.file _) => .error .notDirectory
    | none => .error .absent

/-- The place a path leads to, which may be empty. -/
def place (d : Disk) (p : Path) : Except Obstacle Place :=
  d.follow (if p.isAbsolute then [] else d.workingPlace) p.parts

/-- The place a path leads to, with the fault of a path that leads nowhere. -/
def reach (d : Disk) (p : Path) : Except FileFault Place :=
  match d.place p with
  | .ok place => .ok place
  | .error .absent => .error (.absent p.display)
  | .error .notDirectory => .error (.notDirectory p.display)

/-- What a path leads to. -/
def at? (d : Disk) (p : Path) : Option Node := (d.place p).toOption.bind d.node?

/-- A path leads to something. -/
def has (d : Disk) (p : Path) : Bool := !p.hasNull && (d.at? p).isSome

/-- A path leads to a directory. -/
def isDirectory (d : Disk) (p : Path) : Bool := d.at? p == some .directory

/-- The bytes of a file. -/
def read (d : Disk) (p : Path) : Except FileFault (List UInt8) := do
  match d.node? (← d.reach p) with
  | some (.file bytes) => return bytes
  | some .directory => throw (.isDirectory p.display)
  | none => throw (.absent p.display)

/-- Makes a directory in one that is there. -/
def makeDirectory (d : Disk) (p : Path) : Except FileFault Disk := do
  let place ← d.reach p
  match d.node? place with
  | some _ => throw (.occupied p.display)
  | none => return d.put place .directory

/-- A directory that is already there is as good as one that is made. -/
def orPresent (d : Disk) (p : Path) (made : Except FileFault Disk) : Except FileFault Disk :=
  match made with
  | .error (.absent path) => .error (.absent path)
  | .error fault => if d.isDirectory p then .ok d else .error fault
  | made => made

/-- Makes a directory and those that lead to it, as far as they are not there. -/
def makeDirectories (d : Disk) (p : Path) : Except FileFault Disk :=
  match d.makeDirectory p with
  | .error (.absent path) =>
    if _h : p.parts = [] then .error (.absent path)
    else do
      let d ← d.makeDirectories p.parent
      -- A path such as "a/.." is there once the directory in front of it is.
      d.orPresent p (d.makeDirectory p)
  | made => d.orPresent p made
termination_by p.parts.length
decreasing_by
  have := List.length_pos_iff.mpr _h
  simp only [Path.parent, List.length_dropLast]
  omega

/-- Writes a file. -/
def write (d : Disk) (p : Path) (bytes : List UInt8) : Except FileFault Disk := do
  let place ← d.reach p
  match d.node? place with
  | some .directory => throw (.isDirectory p.display)
  | _ => return d.put place (.file bytes)

/-- Moves a file onto another. -/
def replace (d : Disk) (source target : Path) : Except FileFault Disk := do
  let origin ← d.reach source
  let onto ← d.reach target
  match d.node? origin, d.node? onto with
  | none, _ => throw (.absent source.display)
  | some _, some .directory => throw (.replacesDirectory source.display target.display)
  | some node, _ => return (d.remove origin).put onto node

/-- The disk refuses a step. -/
def refuses (d : Disk) (step : SaveStep) : Option FileFault :=
  match d.refusal with
  | some r => if r.step = step then some (.refused r.reason) else none
  | none => none

/-- The temporary file of a file. -/
def temporary (p : Path) : Path := p.beside ".tmp"

/-- Writes the temporary file of a file; with a fault comes the disk as it was
left. -/
def writeTemporary (d : Disk) (p : Path) (bytes : List UInt8) : Option FileFault × Disk :=
  if p.parent.hasNull then (some .nullCharacter, d)
  else if let some fault := d.refuses .makeDirectory then (some fault, d)
  else match d.makeDirectories p.parent with
    | .error fault => (some fault, d)
    | .ok d =>
      if p.hasNull then (some .nullCharacter, d)
      else if let some fault := d.refuses .openTemporary then (some fault, d)
      else match d.write (temporary p) [] with
        | .error fault => (some fault, d)
        | .ok d =>
          if let some fault := d.refuses .writeTemporary then (some fault, d)
          else match d.write (temporary p) bytes with
            | .error fault => (some fault, d)
            | .ok d => (none, d)

/-- Moves the temporary file of a file onto it. -/
def install (d : Disk) (p : Path) : Option FileFault × Disk :=
  if let some fault := d.refuses .replace then (some fault, d)
  else match d.replace (temporary p) p with
    | .error fault => (some fault, d)
    | .ok d => (none, d)

/-- Saves a file; with a fault comes the disk as it was left. -/
def save (d : Disk) (p : Path) (bytes : List UInt8) : Option FileFault × Disk :=
  match d.writeTemporary p bytes with
  | (some fault, d) => (some fault, d)
  | (none, d) => d.install p

/-- The places of the files. -/
def filePlaces (d : Disk) : List Place :=
  d.nodes.filterMap fun n => match n.2 with
    | .file _ => some n.1
    | .directory => none

end Disk

end Meetings
