import AnchoredMetadata.Service.Program
import Std.Async.Signal
import Std.Time.DateTime

/-!
# Command line

The outer layer of the service: it shows the program the files it looks at,
prints what the program writes, writes back the files that it makes, and keeps a
session going until it is interrupted. There is no client for the network, so
every request counts as one without an answer.
-/

namespace AnchoredMetadata.Main

open Service

/-- The variables that the program looks at. -/
def variableNames : List String :=
  ["HOME", "XDG_CONFIG_HOME", Logger.filterVariable, Logger.formatVariable]

/-- The environment of the process. -/
def readEnvironment : IO Environment := do
  let values ← variableNames.mapM fun name => do
    return (← IO.getEnv name).map fun value => (name, value)
  return ⟨values.filterMap id, none⟩

/-- The time of day. -/
def readClock : IO Time.Instant := do
  return ⟨(← Std.Time.Timestamp.now).toNanosecondsSinceUnixEpoch.toInt⟩

/-- What stands at the end of a path on the machine. -/
def probe (path : String) : IO (Option Disk.Node) := do
  try
    return some (.file (← IO.FS.readBinFile path).toList)
  catch
    | .noFileOrDirectory .. => return none
    | _ =>
      try
        discard (IO.FS.createDirAll path)
        return some .directory
      catch _ => return none

/-- Copy what stands along a path from the machine. -/
def capture (d : Disk) (path : Disk.Path) : IO Disk := do
  let pieces := path.pieces
  (List.range (pieces.length + 1)).foldlM (fun d n => do
    let part : Disk.Path := ⟨Disk.Path.join Disk.Path.slash (pieces.take n)⟩
    match d.locate part with
    | .error _ => return d
    | .ok place =>
      match ← probe part.shown with
      | some node => return if place.isEmpty then d else d.put place node
      | none => return d) d

/-- A disk that holds only the directory where the process works. -/
def emptyDisk : IO Disk := do
  let here := Disk.Path.ofText (← IO.currentDir).toString
  return ⟨((Disk.mk [] []).makeAll [] here.names).1.nodes, here.names⟩

/-- The path to a place. -/
def pathText (place : Disk.Place) : String :=
  "/" ++ (Disk.Path.mk (Disk.Path.join Disk.Path.slash place.reverse)).shown

/-- Write to the machine what a disk has and another has not. -/
def writeBack (before after : Disk) : IO Unit :=
  after.nodes.reverse.forM fun (place, node) => do
    if before.node? place ≠ some node then
      match node with
      | .directory => IO.FS.createDirAll (pathText place)
      | .file content => IO.FS.writeBinFile (pathText place) ⟨content.toArray⟩

/-- Nothing comes back for any request. -/
def noReply (_ : Nat) : Reply := .dropped

/-- Print the lines of entries. -/
def print (s : Session) (now : Time.Instant) (entries : List Log.Entry) : IO Unit := do
  let out ← IO.getStdout
  out.putStr (s.plan.logger.lines now entries)
  out.flush

/-- Keep a session going until it is interrupted. -/
partial def keep (s : Session) (interrupted : IO Bool) : IO Unit := do
  let now ← readClock
  if ← interrupted then
    print s now s.stop.2
  else
    let (s, refreshed) := s.refreshIfDue noReply now
    let (s, reported) := s.reportIfDue (fun _ => false) now
    print s now (refreshed ++ reported)
    IO.sleep 50
    keep s interrupted

/-- Run the program. -/
def run (arguments : List String) : IO UInt32 := do
  let environment ← readEnvironment
  let now ← readClock
  let before ← match Program.settingsFile? arguments environment with
    | none => emptyDisk
    | some settings => do
      let d ← capture (← emptyDisk) settings
      match Program.keystoreFile? d settings with
      | none => pure d
      | some keystore => capture d keystore
  let waiter ← Std.Async.Signal.Waiter.mk .sigint false
  let signal ← waiter.wait
  let called := Program.call arguments before environment noReply now
  writeBack before called.disk
  (← IO.getStdout).putStr called.output.standard
  (← IO.getStdout).flush
  (← IO.getStderr).putStr called.output.error
  match called.result with
  | .error code => waiter.stop; return UInt32.ofNat code
  | .ok session =>
    keep session (IO.hasFinished signal)
    return 0

end AnchoredMetadata.Main

/-- The program. -/
def main (arguments : List String) : IO UInt32 := AnchoredMetadata.Main.run arguments
