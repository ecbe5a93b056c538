import DatasetGate.Program
import Std.Time.DateTime

/-!
# The executable

The thin layer around the program: it takes what the named paths hold into a store, runs the program
on it, and writes back the files that the run changed.
-/

set_option autoImplicit false

namespace DatasetGate.Main

open DatasetGate.Calendar

def nodeOnDisk (path : String) : IO (Option Node) := do
  try
    let bytes ← IO.FS.readBinFile path
    return some (.file bytes.toList)
  catch
    | .inappropriateType _ 21 _ => return some .directory
    | _ => return none

def takeIn (paths : List String) : IO Files := do
  let mut files := Files.empty
  for path in paths do
    for (text, place) in Files.route path do
      match ← nodeOnDisk text with
      | some node => files := files.put place node
      | none => pure ()
  return files

def writeBack (before after : Files) (path : String) : IO Unit := do
  match after.read path, before.read path with
  | .ok bytes, old =>
      if old.toOption != some bytes then
        match Files.parentText? path with
        | some directory => IO.FS.createDirAll directory
        | none => pure ()
        IO.FS.writeBinFile path ⟨bytes.toArray⟩
  | .error _, _ => pure ()

def present : IO Instant := do
  let nanos := (← Std.Time.Timestamp.now).toNanosecondsSinceUnixEpoch.toInt
  return ⟨nanos / nanosPerSecond, (nanos % nanosPerSecond).toNat⟩

def namedPaths (arguments : List String) : List String × List String :=
  match CommandLine.parse arguments with
  | .ok commandLine => (Program.pathsRead commandLine, Program.pathsWritten commandLine)
  | .error _ => ([], [])

end DatasetGate.Main

open DatasetGate in
def main (arguments : List String) : IO UInt32 := do
  let (read, written) := Main.namedPaths arguments
  let files ← Main.takeIn (read ++ written)
  let stderr ← IO.getStderr
  let execution := Program.run arguments (← IO.getEnv "RUST_LOG") (← stderr.isTty) files
    (← Main.present)
  for path in written do
    Main.writeBack files execution.files path
  for line in execution.errors do
    stderr.putStrLn line
  for line in execution.output do
    IO.println line
  return UInt32.ofNat execution.exitCode
