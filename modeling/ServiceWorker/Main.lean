import Std.Time.DateTime.Timestamp
import ServiceWorker.CommandLine.Run

/-!
# The program

The command on the files, the input and the output of the process.
-/

namespace ServiceWorker.CommandLine.Process

/-- What an action comes to, or another value if it fails. -/
def orElse {α : Type} (action : IO α) (other : IO.Error → α) : IO α :=
  action.toBaseIO >>= fun
    | .ok a => pure a
    | .error e => pure (other e)

/-- The bytes of a file, a folder, or nothing. -/
def look (path : String) : IO (Option Files.Entry) :=
  orElse (return some (.file (← IO.FS.readBinFile path).toList)) fun
    | .inappropriateType _ 21 _ => some .folder
    | _ => none

/-- Whether an action succeeds. -/
def succeeds (action : IO Unit) : IO Bool :=
  orElse (action *> pure true) fun _ => false

/-- The instant at which this is asked. -/
def currentInstant : IO Time.Instant := do
  let t := (← Std.Time.Timestamp.now).toNanosecondsSinceUnixEpoch.toInt
  return ⟨t / 1000000000, (t % 1000000000).toNat⟩

/-- A folder that a variable names by an absolute path, or one in the home folder. -/
def folderOf (variable_ home : String) : IO (Option String) := do
  match (← IO.getEnv variable_).filter Files.isAbsolute with
  | some folder => return some folder
  | none => return (← IO.getEnv "HOME").map (· ++ home)

/-- All bytes of the input. -/
partial def readAll (input : IO.FS.Stream) (read : ByteArray) : IO ByteArray := do
  let more ← input.read 65536
  if more.isEmpty then return read else readAll input (read ++ more)

/-- A shell that acts on the process. -/
def shell : IO (Shell IO) := do
  return {
    configFolder := ← folderOf "XDG_CONFIG_HOME" "/.config"
    dataFolder := ← folderOf "XDG_DATA_HOME" "/.local/share"
    look
    makeFolders := fun path =>
      if path.isEmpty then pure true else succeeds (IO.FS.createDirAll path)
    makeFile := fun path => succeeds (IO.FS.writeBinFile path .empty)
    input := return (← readAll (← IO.getStdin) .empty).toList
    now := currentInstant
    print := IO.println
    warn := IO.eprintln }

end ServiceWorker.CommandLine.Process

open ServiceWorker in
/-- The program with its arguments. -/
def main (arguments : List String) : IO UInt32 := do
  let exit ← CommandLine.run (← CommandLine.Process.shell) arguments
  return UInt32.ofNat exit.code
