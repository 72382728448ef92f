import Steward.Files.Operations
import Steward.Service.Layout
import Steward.Settings.Reader
import Steward.Settings.Writer

/-!
# Where settings are kept

Settings live in one file below the home directory.  A missing or blank file
sets nothing; saving puts the whole file in place in one move.
-/

namespace Steward

/-- Why settings cannot be loaded or saved. -/
inductive SettingsError
  /-- The system refused something at a path. -/
  | io (path : Path) (cause : IoError)
  /-- The file is no settings. -/
  | unreadable (path : Path) (cause : Yaml.Malformed)
  /-- There is no home directory. -/
  | homeless
  deriving DecidableEq, Repr

namespace SettingsError

def message : SettingsError → String
  | io path cause => "I/O error at " ++ path.text ++ ": " ++ cause.message
  | unreadable path cause => "failed to parse config at " ++ path.text ++ ": " ++ cause.message
  | homeless => "cannot determine home directory; set $HOME or equivalent"

/-- The failures below this one, outermost first. -/
def causes : SettingsError → List String
  | io _ cause => [cause.message]
  | unreadable _ cause => [cause.message]
  | homeless => []

end SettingsError

namespace Settings

/-- The home directory of the user who runs the program: what the variable for it says, or what
the account says if the variable says nothing. -/
def homeDirectory (named account : Option String) : Except SettingsError Path :=
  match (named.filter (fun text => !text.isEmpty)).or account with
  | some home => .ok ⟨home⟩
  | none => .error .homeless

/-- The file of the settings below a home directory. -/
def pathIn (home : Path) : Path :=
  (Layout.root home).join "config.yaml"

/-- The settings in a file that has been read. -/
def ofText (path : Path) (source : String) : Except SettingsError Settings :=
  if Text.isAllBlank source then .ok Settings.standard
  else (parse source).mapError (SettingsError.unreadable path)

/-- Loads the settings below a home directory. -/
def load (files : FileSystem) (home : Path) : Except SettingsError Settings :=
  let path := pathIn home
  if !files.doesExist path then .ok Settings.standard
  else
    match files.readText path with
    | .error cause => .error (.io path cause)
    | .ok source => ofText path source

/-- Makes the directory of a file. -/
def ensureParent (path : Path) : FileAct SettingsError Unit :=
  match path.parent? with
  | some parent => ExceptT.adapt (SettingsError.io parent) (FileAct.makeDirectories parent)
  | none => pure ()

/-- Saves settings below a home directory and gives the path of the file. -/
def save (home : Path) (settings : Settings) : FileAct SettingsError Path := do
  let path := pathIn home
  ensureParent path
  ExceptT.adapt (fun (place, cause) => SettingsError.io place cause)
    (FileAct.replace path (path.withExtension "yaml.tmp") settings.render)
  return path

end Settings

end Steward
