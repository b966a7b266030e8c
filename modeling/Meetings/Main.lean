/-
The program: a command line carried out on the files of the system.

What a command may look at is read first, then the command is carried out on
that picture of the disk, and the files that have changed are written back, each
by way of a temporary file.
-/
import Std.Time.DateTime.Timestamp
import Meetings.CommandLine.Run

namespace Meetings

/-- The time that the clock of the system shows. -/
def systemTime : IO Utc := do
  let shown ← Std.Time.Timestamp.now
  let wall := secondsBefore1970 * secondSpan + shown.toNanosecondsSinceUnixEpoch.toInt / 1000
  match Moment.ofWall 0 wall with
  | .ok now => return now
  | .error fault => throw (IO.userError fault.message)

/-- The path to a place, from the root. -/
def rootPath (place : Place) : String := "/" ++ "/".intercalate place

/-- Adds what the system has at a path, and at the directories that lead to it,
to a picture of the disk. -/
def addPath (d : Disk) (p : Path) : IO Disk := do
  let here ← IO.currentDir
  let mut disk := d
  for n in [0:p.parts.length + 1] do
    let lead : Path := ⟨p.root, p.parts.take n⟩
    let file := here / lead.display
    if let .ok place := disk.place lead then
      if ← file.isDir then disk := disk.put place .directory
      else if ← file.pathExists then
        disk := disk.put place (.file (← IO.FS.readBinFile file).toList)
  return disk

/-- The directory above that of the program. -/
def programPlace : IO Place := do
  return (Path.ofText (← IO.appDir).toString).parent.parts

/-- What a command line may look at: the files of the configuration, and the file
of the store that it names. -/
def pictureOf (args : List String) : IO Disk := do
  let here := Path.ofText (← IO.currentDir).toString
  let disk ← addPath ⟨here.parts, [], none, ← programPlace⟩ here
  match Invocation.ofArguments args with
  | none => return disk
  | some i =>
    let files := match i.config with
      | some file => [file]
      | none => [Config.fileAt disk.workingPlace, Config.fileAt disk.programPlace]
    let disk ← files.foldlM addPath disk
    match Config.load disk i.config with
    | .error _ => return disk
    | .ok config =>
      let disk ← addPath disk config.dataFile
      addPath disk (Disk.temporary config.dataFile)

/-- Writes back what has changed between two pictures of the disk. -/
def writeBack (before after : Disk) : IO Unit := do
  for (place, node) in after.nodes.reverse do
    if before.node? place != some node then
      match node with
      | .directory => IO.FS.createDirAll (rootPath place)
      | .file bytes =>
        let temporary := rootPath place ++ ".tmp"
        IO.FS.writeBinFile temporary ⟨bytes.toArray⟩
        IO.FS.rename temporary (rootPath place)
  for (place, _) in before.nodes do
    if after.node? place = none then IO.FS.removeFile (rootPath place)

end Meetings

/-- Carries out a command line. -/
def main (args : List String) : IO UInt32 := do
  let before ← Meetings.pictureOf args
  let (ending, after) := Meetings.runCommandLine (← Meetings.systemTime) before args
  Meetings.writeBack before after
  IO.print ending.output
  if let some fault := ending.fault then IO.eprintln fault.message
  return UInt32.ofNat ending.exit
