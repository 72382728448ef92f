import Steward.Command.Reach

/-!
# The program on a real machine

The files that a command may reach are read first; the command runs on them;
what it has changed is written back.  No other programs are at hand here, so
that a command which needs one tells that it is missing.
-/

namespace Steward.Machine

/-- A toolbox without any programs. -/
def noTools : Toolbox Unit := fun _ _ => throw IoError.notFound

/-! ## Reading files -/

/-- The names from the root in an absolute path. -/
def placeOf (text : String) : Place :=
  (namesOf text).filter (fun name => !name.isEmpty)

/-- The files with every directory that leads to a place. -/
def withDirectoriesTo (files : FileSystem) (place : Place) : FileSystem :=
  (List.range place.length).foldl (fun files length =>
    if length = 0 then files else files.put (place.take length) .directory) files

/-- The files with what is found along the names from a place. -/
def readAlong (files : FileSystem) (place : Place) : List String → IO FileSystem
  | [] => return files
  | name :: rest =>
    if name.isEmpty || name == "." then readAlong files place rest
    else if name == ".." then readAlong files place.dropLast rest
    else do
      let wanted := place ++ [name]
      match ← (IO.FS.realPath (FileSystem.pathOf wanted).text).toBaseIO with
      | .error _ => return files
      | .ok real =>
        let found := placeOf real.toString
        let entry ← if ← real.isDir then pure Entry.directory
          else Entry.file <$> IO.FS.readBinFile real
        let files := (withDirectoriesTo files found).put found entry
        let files := if found = wanted then files
          else files.put wanted (.link real.toString)
        readAlong files found rest

def readPath (files : FileSystem) (path : Path) : IO FileSystem :=
  readAlong files (files.startOf path) (namesOf path.text)

/-- No files, seen from the current directory. -/
def noFiles : IO FileSystem := do
  let here := placeOf (← IO.currentDir).toString
  return (withDirectoriesTo ⟨[], here, []⟩ here).put here .directory

/-! ## Writing files -/

/-- The rows of a table that differ in another. -/
def changes (before after : FileSystem) : List (Place × Entry) :=
  after.table.filter (fun (place, entry) => before.find? place != some entry)

def writeChanges (before after : FileSystem) : IO Unit := do
  for (place, entry) in changes before after do
    if let .directory := entry then IO.FS.createDirAll (FileSystem.pathOf place).text
  for (place, entry) in changes before after do
    if let .file bytes := entry then IO.FS.writeBinFile (FileSystem.pathOf place).text bytes
  for (place, _) in before.table do
    if (after.find? place).isNone then IO.FS.removeFile (FileSystem.pathOf place).text

/-! ## Running -/

/-- The files that a command line may reach. -/
def reachedFiles (surroundings : Surroundings) (arguments : List String) : IO FileSystem := do
  let files ← noFiles
  match Settings.homeDirectory surroundings.namedHome surroundings.accountHome with
  | .error _ => return files
  | .ok home =>
    let files ← readPath files (Settings.pathIn home)
    match Settings.load files home, Command.parse arguments with
    | .ok settings, .ok command => (command.reach settings home).foldlM readPath files
    | _, _ => return files

/-- Runs the program on the files of the machine. -/
def run (arguments : List String) : IO Answer := do
  let surroundings : Surroundings := ⟨← IO.getEnv "HOME", none⟩
  let files ← reachedFiles surroundings arguments
  let session : Session (World Unit) :=
    ⟨⟨files, ()⟩, ← IO.monoNanosNow, Nanos.lastOfClock, Token.fresh, fun _ => 0, 0⟩
  let (answer, session) := runProgram noTools surroundings arguments session
  writeChanges files session.world.files
  return answer

end Steward.Machine

def main (arguments : List String) : IO UInt32 := do
  let answer ← Steward.Machine.run arguments
  IO.print answer.stdout
  IO.eprint answer.stderr
  return answer.status
