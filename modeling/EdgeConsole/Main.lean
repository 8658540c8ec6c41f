import EdgeConsole.Console.Run

/-!
# The program

Reads the environment and the settings, runs the console on the command line, writes the settings if
the run saved them, and then prints what it shows. A run that saves settings is one that would end
otherwise on a disk that takes none, so if they cannot be written, what is printed is what the run
shows on such a disk. There is no network here, so no request finds its server.
-/

namespace EdgeConsole.Console

open Access (Environment)
open Api (Server)
open Settings (Config Disk)

/-- The folder that programs keep their settings in, if there is one. -/
def settingsFolder? : IO (Option String) := do
  match (← IO.getEnv "XDG_CONFIG_HOME").filter (·.startsWith "/") with
  | some folder => return some folder
  | none => return (← IO.getEnv "HOME").map (· ++ "/.config")

/-- A file or folder below a folder. -/
def below (folder : String) (p : Settings.Path) : String :=
  "/".intercalate (folder :: p)

/-- The values of the two variables that a console looks at. -/
def readEnvironment : IO Environment := do
  return ⟨← IO.getEnv Access.keyVariable, ← IO.getEnv Access.endpointVariable⟩

/-- The disk that takes no settings. -/
def sealed (d : Disk) : Disk := { d with locked := [Config.defaultPath] }

/-- The settings file as it is on the disk. If a folder has its place, or a file that of its folder,
the disk takes no settings; a file that cannot be read for any other reason counts as missing. -/
def readDisk (folder : String) : IO Disk := do
  match ← (IO.FS.readBinFile (below folder Config.defaultPath)).toBaseIO with
  | .ok bytes => return Disk.empty.put Config.defaultPath (.file ⟨bytes.toList⟩)
  | .error (.inappropriateType _ _ _) => return sealed .empty
  | .error _ => return .empty

/-- Writes the settings file, and tells whether it could be written. -/
def writeDisk (folder : String) (d : Disk) : IO Bool := do
  match d.read? Config.defaultPath with
  | none => return true
  | some c =>
    let write : IO Unit := do
      IO.FS.createDirAll (below folder Config.defaultPath.dropLast)
      IO.FS.writeBinFile (below folder Config.defaultPath) c.bytes.toByteArray
    return (← write.toBaseIO).toBool

/-- Runs the console and writes the settings if they were saved. -/
def runOn (folder? : Option String) (arguments : List String) : IO Outcome := do
  let env ← readEnvironment
  match folder? with
  | none => return (console arguments env .empty .unreachable).1
  | some folder =>
    let before ← readDisk folder
    let (outcome, after, _) := console arguments env before .unreachable
    let (refusal, _, _) := console arguments env (sealed before) .unreachable
    if outcome = refusal then return outcome
    return if ← writeDisk folder after then outcome else refusal

end EdgeConsole.Console

open EdgeConsole.Console in
/-- Runs the console on a command line. -/
def main (arguments : List String) : IO UInt32 := do
  let outcome ← runOn (← settingsFolder?) arguments
  (← IO.getStdout).putStr outcome.out
  (← IO.getStderr).putStr outcome.err
  return outcome.code.toUInt32
