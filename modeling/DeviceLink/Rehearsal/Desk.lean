import DeviceLink.Program.Desk
import DeviceLink.Rehearsal.ScriptedTool
/-!
# Rehearsals — a program's desk

The desk of a rehearsed program: its files and terminal are those of the
scripted world, and the scripted tool is found at one path.
-/

namespace DeviceLink

namespace Rehearsal

/-- The desk of a program that finds the scripted tool at a path. -/
def desk (toolPath : String) : Desk World where
  surroundings path := withToolOf (if path = toolPath then tool else noTool path)
  present channel text := World.update fun w => { w with shown := (channel, text) :: w.shown }
  listenTo filter := World.update fun w => { w with filter }
  files := World.files <$> get
  replaceFiles files := World.update fun w => { w with files }

/-- What was shown on one channel. -/
def World.shownOn (w : World) (c : Channel) : String :=
  String.join ((w.shown.reverse.filter (·.1 == c)).map (·.2))

end Rehearsal

end DeviceLink
