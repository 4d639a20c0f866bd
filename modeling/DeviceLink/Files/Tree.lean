import DeviceLink.IoError
import DeviceLink.Text.Utf8
import DeviceLink.Files.Path
/-!
# Files — a tree of them

Regular files and directories by their paths, with the operations a
configuration needs: looking, reading, making directories and writing. Each
fails as the system does: through a regular file no path leads, and a
directory is no file. The root and the working directory are always there.
-/

namespace DeviceLink

/-- What is at a path. -/
inductive FileNode
  | file (bytes : List UInt8)
  | directory
  deriving DecidableEq

/-- Files and directories by the parts of their paths. -/
structure FileTree where
  nodes : List (List String × FileNode) := []
  deriving DecidableEq

namespace Path

/-- The parts of a path: the names between its slashes, after the root itself
for an absolute one. -/
def parts (path : String) : List String :=
  let names := (path.splitOn "/").filter fun n => n ≠ "" ∧ n ≠ "."
  if isAbsolute path then "/" :: names else names

/-- The directory a path lies in, if it names anything in one. -/
def parent? (path : String) : Option String :=
  match (parts path).reverse with
  | [] => none
  | ["/"] => none
  | _ :: above =>
    match above.reverse with
    | "/" :: names => some ("/" ++ "/".intercalate names)
    | names => some ("/".intercalate names)

end Path

namespace FileTree

/-- What is at the parts of a path, without a look at what leads there. -/
def at? (t : FileTree) (parts : List String) : Option FileNode :=
  match parts with
  | [] => some .directory
  | ["/"] => some .directory
  | parts => (t.nodes.find? (·.1 == parts)).map (·.2)

/-- What is at a path, after every directory that leads there. -/
def resolve (t : FileTree) (parts : List String) : Except IoError FileNode :=
  let above := (List.range parts.length).map parts.take
  match above.find? fun p => t.at? p != some .directory with
  | some p => .error (if (t.at? p).isNone then .notFound else .notADirectory)
  | none =>
    match t.at? parts with
    | some node => .ok node
    | none => .error .notFound

/-- What is at a path. The empty path names nothing. -/
def look (t : FileTree) (path : String) : Except IoError FileNode :=
  if path = "" then .error .notFound else t.resolve (Path.parts path)

/-- Whether there is anything at a path. -/
def contains (t : FileTree) (path : String) : Bool :=
  match t.look path with
  | .ok _ => true
  | .error _ => false

/-- Whether there is a regular file at a path. -/
def isFile (t : FileTree) (path : String) : Bool :=
  match t.look path with
  | .ok (.file _) => true
  | _ => false

/-- Put something at the parts of a path. -/
def put (t : FileTree) (parts : List String) (node : FileNode) : FileTree :=
  ⟨(parts, node) :: t.nodes.filter (·.1 != parts)⟩

/-- The text of a file. -/
def readText (t : FileTree) (path : String) : Except IoError String := do
  match ← t.look path with
  | .directory => .error .isADirectory
  | .file bytes =>
    match Utf8.decode? bytes with
    | some cs => .ok (String.ofList cs)
    | none => .error .notUtf8

/-- Make a file of a text, in place of one that is there. -/
def writeText (t : FileTree) (path text : String) : Except IoError FileTree :=
  let node := FileNode.file (Utf8.encode text.toList)
  match t.look path with
  | .ok .directory => .error .isADirectory
  | .ok (.file _) => .ok (t.put (Path.parts path) node)
  | .error e =>
    if path = "" then .error e
    else
      match t.resolve (Path.parts path).dropLast with
      | .ok .directory => .ok (t.put (Path.parts path) node)
      | .ok (.file _) => .error .notADirectory
      | .error e => .error e

/-- Make one directory in one that is there. -/
def makeDirectory (t : FileTree) (parts : List String) : Except IoError FileTree :=
  match t.resolve parts with
  | .ok _ => .error .alreadyExists
  | .error _ =>
    match t.resolve parts.dropLast with
    | .ok .directory => .ok (t.put parts .directory)
    | .ok (.file _) => .error .notADirectory
    | .error e => .error e

/-- Make a directory, and before it those that are missing on the way to it.
The parts are given in reverse. One that is there already is left as it is. -/
def makeDirectories (t : FileTree) : List String → Except IoError FileTree
  | [] => .ok t
  | name :: above =>
    let parts := (name :: above).reverse
    let made (t : FileTree) : Except IoError FileTree :=
      match t.resolve parts with
      | .ok .directory => .ok t
      | _ => t.makeDirectory parts
    match made t with
    | .error .notFound => do made (← t.makeDirectories above)
    | r => r

end FileTree

end DeviceLink
