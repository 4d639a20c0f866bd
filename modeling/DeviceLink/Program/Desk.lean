import DeviceLink.Files.Tree
import DeviceLink.LogFilter
import DeviceLink.Program.Failure
import DeviceLink.Program.Terminal
import DeviceLink.Session.Basic
/-!
# Programs — what a program acts on

Besides the surroundings of a session a program has the files of its user, a
terminal and an environment. `Desk σ` lists the acts on these, over the same
state `σ`.
-/

namespace DeviceLink

/-- What a program finds when it is started. -/
structure Environment where
  /-- The value of a variable, if it is set. -/
  values : List (String × String) := []
  /-- Where the running program lies. -/
  programDirectory : Option String := none
  /-- The home directory of the user's account. -/
  accountHome : Option String := none

namespace Environment

/-- The value of a variable, if it is set. -/
def value? (e : Environment) (name : String) : Option String := e.values.lookup name

end Environment

/-- What a program acts on. -/
structure Desk (σ : Type) where
  /-- The surroundings of a session, for each program the bridge tool may be. -/
  surroundings : String → Surroundings σ
  /-- Show a text. -/
  present : Channel → String → StateM σ Unit
  /-- From now on, tell what a filter admits. -/
  listenTo : LogFilter → StateM σ Unit
  /-- The user's files. -/
  files : StateM σ FileTree
  /-- Change the user's files. -/
  replaceFiles : FileTree → StateM σ Unit

namespace Desk

variable {σ : Type} (D : Desk σ)

/-- Show a message. -/
def notify (n : Notice) (text : String) : StateM σ Unit := D.present n.channel (n.line text)

/-- Show a result on a line of its own. -/
def result (text : String) : StateM σ Unit := D.present .results (text ++ "\n")

end Desk

end DeviceLink
