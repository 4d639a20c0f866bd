import DeviceLink.Program.Basic
/-!
# The command line

The program on the machine it is started on. It works on the user's files; the
machine's processes and network are out of its reach, so a session ends with
the failure to start the bridge tool or to send a request.

The files are read before the program runs and what it changed is written
afterwards, so that everything in between is a function of what was found.
-/

namespace DeviceLink

namespace Machine

/-- What the program finds on the machine and leaves there. -/
structure Contents where
  files : FileTree
  filter : LogFilter := .nothing
  /-- What is shown, the latest first. -/
  shown : List (Channel × String) := []

/-- The machine does not offer this. -/
def unsupported : IoError := .system 38

/-- Show a text. -/
def present (c : Channel) (text : String) : StateM Contents Unit :=
  modify fun m => { m with shown := (c, text) :: m.shown }

/-- The surroundings of a session on a machine without processes and network. -/
def surroundings : Surroundings Contents where
  report r := do
    if (← get).filter.admits r.level then
      present .results s!"{r.level.name.toUpper} {r.text}\n"
  isFile _ := return true
  bridge _ c := return .error (.spawn c.label unsupported)
  execute _ _ := return .error (.spawn BridgeCommand.executeLabel unsupported)
  ended? _ := return some (.ok ())
  kill _ := return .ok ()
  get u := return .error (.unanswered (Activator.shown u))
  listen _ := return .error unsupported
  arrival? _ := return none
  unlisten _ := return ()
  connect _ := return .error unsupported
  readByte? _ := return some (.error .streamEnded)
  drain? _ := return some 0
  close _ := return ()
  next? _ := return none
  sleep _ := return ()
  horizon _ := 0

/-- The desk of the program on the machine. -/
def desk : Desk Contents where
  surroundings _ := surroundings
  present := present
  listenTo filter := modify fun m => { m with filter }
  files := Contents.files <$> get
  replaceFiles files := modify fun m => { m with files }

/-- The environment variables the program looks at. -/
def readVariables : List String :=
  [Program.filterVariable, "XDG_CONFIG_HOME", "HOME", Locations.adbVariable,
   Locations.artifactVariable, RunOptions.serialVariable]

/-- The files that matter to what the program is told. -/
def paths (env : Environment) (args : List String) : List String :=
  let named :=
    match Invocation.parse args none with
    | .ok i => i.shared.file
    | .error _ => none
  let beside := env.programDirectory.map fun d => Path.join d Agent.artifactName
  named.getD (Program.standardFile env) :: beside.toList

/-- The path of some parts. -/
def pathOf (parts : List String) : String :=
  match parts with
  | "/" :: names => "/" ++ "/".intercalate names
  | names => "/".intercalate names

/-- What is at a path. What can be opened but not read is a directory. -/
def look (path : String) : IO (Option FileNode) := do
  try return some (.file (← IO.FS.readBinFile path).toList)
  catch _ =>
    try
      discard (IO.FS.Handle.mk path .read)
      return some .directory
    catch _ => return none

/-- The files on the way to some paths, and those at their ends. -/
def findFiles (paths : List String) : IO FileTree := do
  let prefixes (path : String) : List (List String) :=
    let parts := Path.parts path
    (List.range parts.length).map fun n => parts.take (n + 1)
  let found ← (paths.flatMap prefixes).filterMapM fun parts => do
    return (← look (pathOf parts)).map (parts, ·)
  return ⟨found⟩

/-- Write what changed: the directories, the shortest path first, and then the
files. -/
def writeChanges (before after : FileTree) : IO Unit := do
  let changed := after.nodes.filter fun n => before.at? n.1 != some n.2
  for (parts, node) in changed.mergeSort fun a b => a.1.length ≤ b.1.length do
    match node with
    | .directory => IO.FS.createDirAll (pathOf parts)
    | .file bytes => IO.FS.writeBinFile (pathOf parts) ⟨bytes.toArray⟩

/-- Run the program. -/
def start (args : List String) : IO UInt32 := do
  let values ← readVariables.filterMapM fun name => do
    return (← IO.getEnv name).map (name, ·)
  let env : Environment := { values, programDirectory := some (← IO.appDir).toString }
  let files ← findFiles (paths env args)
  let (status, after) := Program.execute desk env args { files }
  writeChanges files after.files
  for (channel, text) in after.shown.reverse do
    match channel with
    | .results => IO.print text
    | .faults => IO.eprint text
  return status.toUInt32

end Machine

end DeviceLink

/-- The program. -/
def main (args : List String) : IO UInt32 := DeviceLink.Machine.start args
