import MailSearch.Console.Exchange
import Std.Time.DateTime.Timestamp

/-!
# The program

The program reads its arguments, the settings, the clock and the files that a command may
use, carries the command out, and then writes the files that it changed and what it
printed.
-/

namespace MailSearch.Program

/-- The host's name of a location. -/
def hostName (location : List String) : String := "/" ++ "/".intercalate location

/-- The entry of the host at a location, if there is one. -/
def readEntry (location : List String) : IO (Option Entry) := do
  let place := (← IO.currentDir) / hostName location
  if ← place.isDir then return some .folder
  if !(← place.pathExists) then return none
  return some (.file (.ofBytes (← IO.FS.readBinFile place)) Disk.usualMode)

/-- The host's files along some paths. -/
def readDisk (paths : List Path) : IO Disk := do
  let current := (Path.ofText (← IO.currentDir).toString).names
  let start : Disk := { current }
  let along := paths.flatMap fun p ↦ Disk.passed (start.start p) p.names
  let mut disk := start
  for location in Disk.passed [] current ++ along do
    if let some entry ← readEntry location then disk := disk.put location entry
  return disk

/-- Write an entry into the host's files. A file is written beside its place and moved
there when it is complete. -/
def writeEntry (location : List String) : Entry → IO Unit
  | .folder => IO.FS.createDirAll (hostName location)
  | .file content mode => do
      let place := hostName location
      let beside := place ++ ".part"
      IO.FS.writeBinFile beside content.toBytes
      if mode = Disk.privateMode then
        IO.setAccessRights beside { user := { read := true, write := true } }
      IO.FS.rename beside place

/-- Change the host's files from one tree to another. -/
def writeChanges (before after : Disk) : IO Unit := do
  for (location, entry) in after.entries do
    if !before.entries.contains (location, entry) then writeEntry location entry
  for (location, _) in before.entries do
    if (after.at? location).isNone then IO.FS.removeFile (hostName location)

/-- The settings of the host. -/
def readSettings : IO Settings := do
  let values ← Settings.variableNames.filterMapM fun name ↦ do
    return (← IO.getEnv name).map fun value ↦ (name, value)
  return { values, home := Path.ofText ((← IO.getEnv "HOME").getD "/") }

/-- The time of the host's clock in milliseconds. -/
def readMillis : IO Int := do
  return (← Std.Time.Timestamp.now).toMillisecondsSinceUnixEpoch.val

/-- The calls that stand on the lines of the standard input. -/
def readCalls : IO (List Console.ToolCall) := do
  return (← (← IO.getStdin).lines).toList.filterMap Console.ToolCall.ofLine?

/-- Carry out a command on the host. -/
def perform (command : Console.Command) : IO UInt32 := do
  let settings ← readSettings
  let disk ← readDisk (command.paths settings)
  let calls ← if command.answersCalls then readCalls else pure []
  let world : Console.World := { disk, settings, clock := ← readMillis }
  let (ending, after) := Console.run world calls command
  writeChanges disk after.disk
  IO.print after.stdout
  IO.eprint after.stderr
  match ending with
  | .ok replies =>
      replies.forM fun reply ↦ IO.println (Console.replyLine reply)
      return 0
  | .error (.exit code) => return code.toUInt32
  | .error (.crash fault) =>
      IO.eprintln fault.message
      return 1

end MailSearch.Program

/-- Carry out the command that the arguments spell. -/
def main (args : List String) : IO UInt32 := do
  match MailSearch.Console.readLine args with
  | .ok command => MailSearch.Program.perform command
  | .error misuse =>
      IO.eprintln misuse.message
      return 1
