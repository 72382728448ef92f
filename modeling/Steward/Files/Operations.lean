import Steward.Files.Resolve

/-!
# Reading and changing files

The operations of the system on one file system: reading, writing, making
directories, removing and moving.  Making a directory, removing and moving
either succeed or leave the files as they were.  A write can break off half
way, and so can what takes several steps; those are `FileAct`s, which keep the
files reached so far.
-/

namespace Steward

/-- A computation on files that may fail and then keeps the files it has reached. -/
abbrev FileAct (ε : Type) := ExceptT ε (StateM FileSystem)

namespace FileSystem

/-! ## Reading -/

/-- The bytes of the file a path leads to. -/
def read (files : FileSystem) (path : Path) : Except IoError ByteArray := do
  match ← files.lookup path with
  | .file bytes => .ok bytes
  | _ => .error .isDirectory

/-- The text of the file a path leads to. -/
def readText (files : FileSystem) (path : Path) : Except IoError String := do
  match String.fromUTF8? (← files.read path) with
  | some text => .ok text
  | none => .error .notText

/-! ## Writing -/

/-- The files with new bytes in the file a path leads to, as far as that file can be opened.
Symbolic links are followed, and a missing file is made. -/
def write (files : FileSystem) (path : Path) (bytes : ByteArray) : Except IoError FileSystem := do
  let place ← files.resolve path
  match files.find? place with
  | some .directory => .error .isDirectory
  | _ => .ok (files.put place (.file bytes))

/-- The files with new text in the file a path leads to, as far as that file can be opened. -/
def writeText (files : FileSystem) (path : Path) (text : String) : Except IoError FileSystem :=
  files.write path text.toUTF8

/-- What is in a file after the next write, which is to write the given bytes. -/
def arriving (files : FileSystem) (bytes : ByteArray) : ByteArray :=
  match files.mishap? with
  | none => bytes
  | some mishap => bytes.extract 0 mishap.kept

/-! ## Directories -/

/-- The files with a new directory where nothing stands yet. -/
def makeDirectory (files : FileSystem) (path : Path) : Except IoError FileSystem := do
  let place ← files.resolveTarget path
  match files.find? place with
  | some _ => .error .alreadyExists
  | none => .ok (files.put place .directory)

/-! ## Removing and moving -/

/-- The files without the file or symbolic link under the last name of a path. -/
def remove (files : FileSystem) (path : Path) : Except IoError FileSystem := do
  let place ← files.resolveTarget path
  if endsInName path then
    match files.find? place with
    | none => .error .notFound
    | some .directory => .error .isDirectory
    | some _ => if path.endsInSlash then .error .notDirectory else .ok (files.without place)
  else .error .isDirectory

/-- The files after the file or symbolic link at `source` has taken the place of whatever file or
symbolic link stands at `target`. -/
def moveOver (files : FileSystem) (source target : Path) : Except IoError FileSystem := do
  let old ← files.resolveTarget source
  let new ← files.resolveTarget target
  if endsInName source && endsInName target then
    match files.find? old with
    | none => .error .notFound
    | some .directory => .error .isDirectory
    | some entry =>
      if source.endsInSlash || target.endsInSlash then .error .notDirectory
      else
        match files.find? new with
        | some .directory => .error .isDirectory
        | _ => .ok ((files.without old).put new entry)
  else .error .busy

end FileSystem

/-! ## Several steps -/

namespace FileAct

/-- Writes bytes to the file a path leads to, in place of what was in it.  A write that breaks off
leaves the file with the first of the bytes. -/
def write (path : Path) (bytes : ByteArray) : FileAct IoError Unit := do
  let files ← get
  match files.write path (files.arriving bytes) with
  | .error failure => throw failure
  | .ok written =>
    set written.spent
    if let some mishap := files.mishap? then throw mishap.cause

/-- A computation whose failure is told together with the path it concerns. -/
def about (path : Path) (act : FileAct IoError β) : FileAct (Path × IoError) β :=
  ExceptT.adapt (fun failure => (path, failure)) act

/-- Makes a directory; finding one there is as good, whatever the failure. -/
def ensureDirectory (path : Path) : FileAct IoError Unit := do
  let files ← get
  match files.makeDirectory path with
  | .ok files => set files
  | .error failure => if files.isDirectory path then pure () else throw failure

/-- Makes a directory and those above it as far as they are missing, at most `levels` of them. -/
def makeLevels : (levels : Nat) → Path → FileAct IoError Unit
  | 0, _ => throw .notFound
  | levels + 1, path => do
    if path.text.isEmpty then pure ()
    else
      match (← get).makeDirectory path with
      | .ok files => set files
      | .error .notFound =>
        match path.parent? with
        | some parent =>
          makeLevels levels parent
          ensureDirectory path
        | none => throw .notFound
      | .error failure => if (← get).isDirectory path then pure () else throw failure

/-- Makes a directory and those above it as far as they are missing. -/
def makeDirectories (path : Path) : FileAct IoError Unit :=
  makeLevels (path.text.length + 2) path

/-- Removes a file or symbolic link; that there is none is as good. -/
def clear (path : Path) : FileAct IoError Unit := do
  match (← get).remove path with
  | .ok files => set files
  | .error .notFound => pure ()
  | .error failure => throw failure

/-- Removes a file or symbolic link if that can be done. -/
def discard (path : Path) : FileAct ε Unit := do
  match (← get).remove path with
  | .ok files => set files
  | .error _ => pure ()

/-- Puts text at `target` in one move: the text is written at `draft`, which then takes the place
of the target.  A draft that cannot be moved is removed again; one whose writing broke off is
not. -/
def replace (target draft : Path) (text : String) : FileAct (Path × IoError) Unit := do
  about draft (write draft text.toUTF8)
  match (← get).moveOver draft target with
  | .ok files => set files
  | .error failure =>
    discard draft
    throw (target, failure)

end FileAct

end Steward
