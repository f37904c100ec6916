import ZoneNet.Boot.Rehearsal

/-!
# The command line

Rehearses the boot that the environment and the zone document describe: writes the commands in
order to the standard output, and what the console would show to the standard error. The first
argument, if there is one, holds the directives that say which entries are logged. Every interface
is taken to have an index.
-/

namespace ZoneNet.CommandLine

/-- What the system says, in the words of the library. -/
def systemError : IO.Error → SystemError
  | .noFileOrDirectory .. => .notFound
  | .permissionDenied .. => .permissionDenied
  | .inappropriateType .. => .isDirectory
  | e => .other (toString e)

/-- An action whose failure is a value. -/
def attempt {α : Type} (act : IO α) : IO (Except SystemError α) := do
  match ← act.toBaseIO with
  | .ok a => return .ok a
  | .error e => return .error (systemError e)

def readBytes (path : String) : IO (Except SystemError (List UInt8)) :=
  attempt do return (← IO.FS.readBinFile path).toList

/-- Whether a device that is there can be opened for writing. -/
def openForWriting (path : String) : IO (Except SystemError Unit) :=
  attempt do discard <| IO.FS.Handle.mk path .readWrite

/-- Plants what was found at a path; what is missing is left out. -/
def plant {α : Type} (path : String) (found : Except SystemError α) (item : α → Item)
    (t : FileTree) : FileTree :=
  match found with
  | .ok a => t.plant path (item a)
  | .error .notFound => t
  | .error .isDirectory => t.plant path .directory
  | .error e => t.plant path (.closed e)

def plantProgram (t : FileTree) (path : String) : IO FileTree := do
  match ← (IO.FS.realPath path).toBaseIO with
  | .error _ => return t
  | .ok found =>
    if ← found.isDir then return t.plant path .directory
    else if ← found.pathExists then return t.plant path (.file [] (some Rehearsal.succeed))
    else return t

/-- The files that matter to a boot. The console of a rehearsal is the standard error. -/
def survey (settings : Settings) : IO FileTree := do
  let zone ← readBytes settings.zoneConfig
  let console ← openForWriting settings.console
  let t : FileTree := {}
  let t := plant settings.zoneConfig zone (fun bytes => .file bytes none) t
  let t := plant settings.console console (fun _ => .device .standardError) t
  (Rehearsal.programs.map settings.native).foldlM plantProgram t

def readSettings : IO Settings := do
  let known ← Settings.variableNames.filterMapM fun name => do
    return (← IO.getEnv name).map (name, ·)
  return .ofLookup fun name => known.lookup name

/-- Rehearses a boot and tells what it has done; the answer is the number that it ends with. -/
def rehearse (args : List String) : IO UInt32 := do
  let settings ← readSettings
  let r : Rehearsal :=
    { settings, logSetting := args.head?, files := ← survey settings,
      interfaceIndex := fun _ => some 1 }
  let report := r.report
  for line in report.world.filterMap Event.text? do
    IO.println line
  (← IO.getStderr).write ⟨report.stderr.toArray⟩
  return report.exit.number.toUInt32

end ZoneNet.CommandLine

def main (args : List String) : IO UInt32 := ZoneNet.CommandLine.rehearse args
