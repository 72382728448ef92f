import Steward.Command.Service
import Steward.Command.Trust
import Steward.Settings.Store

/-!
# Running the program

The program reads its command line, then its settings, and then does what it
is told.
-/

namespace Steward

/-- What the user who runs the program is known by. -/
structure Surroundings where
  /-- The home directory that the variable for it names. -/
  namedHome : Option String
  /-- The home directory of the account. -/
  accountHome : Option String

namespace Command

/-- Runs a command with settings. -/
def runWith (tools : Toolbox α) (settings : Settings) (home : Path) : Command → Running α Answer
  | service command => command.run tools settings home
  | trust command => command.run tools settings.trust

/-- Runs a command with the settings below the home directory. -/
def run (tools : Toolbox α) (surroundings : Surroundings) (command : Command) :
    Running α Answer := do
  match Settings.homeDirectory surroundings.namedHome surroundings.accountHome with
  | .error _ => return Answer.failed "could not determine home directory" []
  | .ok home =>
    match Settings.load (← get).world.files home with
    | .error cause =>
      return Answer.failed ("failed to load " ++ (Settings.pathIn home).text)
        (cause.message :: cause.causes)
    | .ok settings => command.runWith tools settings home

end Command

def runProgram (tools : Toolbox α) (surroundings : Surroundings) (arguments : List String) :
    Running α Answer :=
  match Command.parse arguments with
  | .error stop => return Answer.ofStop stop
  | .ok command => command.run tools surroundings

end Steward
