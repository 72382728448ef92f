import Steward.Files.Operations
import Steward.Session.Basic

/-!
# Worlds with files

The world of this program is a file system and whatever else the outside
consists of.  The program changes the files itself; everything else it only
meets in exchanges, which may change the files too.
-/

namespace Steward

/-- The files and everything else outside the program. -/
structure World (α : Type) where
  files : FileSystem
  /-- The state of everything else. -/
  agent : α

namespace Exchange

def files : Exchange (World α) FileSystem := fun world => ⟨world.files, world, 0, false⟩

/-- Looks at what is outside apart from the files. -/
def agent : Exchange (World α) α := fun world => ⟨world.agent, world, 0, false⟩

/-- Changes what is outside apart from the files. -/
def setAgent (agent : α) : Exchange (World α) Unit := fun world =>
  ⟨(), { world with agent := agent }, 0, false⟩

def setFiles (files : FileSystem) : Exchange (World α) Unit := fun world =>
  ⟨(), { world with files := files }, 0, false⟩

end Exchange

namespace Act

def files : Act (World α) ε FileSystem := fun session => (.ok session.world.files, session)

/-- Does something to the files. -/
def onFiles (act : FileAct ε β) : Act (World α) ε β := fun session =>
  let (result, files) := act session.world.files
  (result, { session with world := { session.world with files := files } })

end Act

end Steward
