/-
# The program

Gathers what a process works with, runs its command, and carries out what came of it.
-/
import SessionTasks.Command.Run
import Std.Time.DateTime.Timestamp
namespace SessionTasks.Main

/-! ## Gathering -/

/-- The variables that are read. -/
def variableNames : List String := Environment.configVariable :: Setting.all.map Setting.name

/-- The variables that are set. -/
def readEnvironment : IO Environment := do
  let mut env : Environment := .empty
  for name in variableNames do
    if let some value ← IO.getEnv name then
      env := env.insert name value.toUTF8
  return env

/-- What stands at a path, from what reading it comes to. -/
def probe (path : String) : IO (Option FileEntry) := do
  try
    return some (.file (← IO.FS.readBinFile path))
  catch e =>
    match e with
    | .inappropriateType _ 21 _ => return some .folder
    | _ => return none

/-- The files on the way to a path, as far as they exist. -/
def gather (files : FileTree) (path : String) : IO FileTree := do
  let mut files := files
  for place in files.placesOn path do
    let name := "/" ++ FileTree.joined place
    match ← probe name with
    | some (.file content) => files := files.writeIfPossible name content
    | some .folder => files := files.makeFolders name
    | none => pure ()
  return files

/-! ## Carrying out -/

/-- Writes the files that a process changed. -/
def store (before after : FileTree) : IO Unit := do
  for (name, entry) in after.entries.entries do
    if let .file content := entry then
      match before.entries.get? name with
      | some (.file old) => if old.data ≠ content.data then IO.FS.writeBinFile ("/" ++ name) content
      | _ => IO.FS.writeBinFile ("/" ++ name) content

/-- Gathers what a process with these arguments works with. -/
def process (arguments : List String) : IO Process := do
  let environment ← readEnvironment
  let working := FileTree.namesOf (← IO.currentDir).toString
  let time := (← Std.Time.Timestamp.now).toMillisecondsSinceUnixEpoch.val.toNat
  let issued ← IO.rand 0 (Nat.pow 2 32 - 1)
  let mut p : Process := { arguments, environment, files := ⟨working, .empty⟩, time, issued }
  if let .ok (some path) := environment.configPath then
    p := { p with files := ← gather p.files path }
  if let some path := Command.storePath? p then
    p := { p with files := ← gather p.files path }
  return p

end SessionTasks.Main

/-- Runs the command that the arguments stand for. -/
def main (arguments : List String) : IO UInt32 := do
  let p ← SessionTasks.Main.process arguments
  let outcome := SessionTasks.Command.run p
  IO.sleep (UInt32.ofNat outcome.elapsed)
  SessionTasks.Main.store p.files outcome.files
  IO.print outcome.output
  IO.eprint outcome.errors
  return UInt32.ofNat outcome.code
