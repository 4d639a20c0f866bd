import DeviceLink.Datum.Decode
import DeviceLink.Datum.Encode
import DeviceLink.Error
import DeviceLink.Files.Tree
import DeviceLink.Toml.Document
import DeviceLink.Toml.Printer
/-!
# Configurations — as files

A configuration is loaded from a file and saved to one. What a file does not
mention keeps its standard value, and unset options are left out when saving,
so a saved configuration is loaded back as it was.
-/

namespace DeviceLink

namespace Configuration

/-- The configuration a text holds. -/
def ofText (text : String) : Except ConfigError Configuration :=
  match Toml.parse? text with
  | none => .error .grammar
  | some d => (d.asConfiguration .file).mapError .data

/-- The text a configuration is saved as. -/
def toText (c : Configuration) : String :=
  match c.toDatum with
  | .map entries => Toml.print entries
  | _ => ""

/-- Load a configuration. -/
def load (files : FileTree) (path : String) : Except ConfigError Configuration :=
  if files.contains path then
    match files.readText path with
    | .ok text => ofText text
    | .error e => .error (.unreadable e)
  else .error (.missing path)

/-- Save a configuration, making the directory it belongs in. -/
def save (files : FileTree) (path : String) (c : Configuration) : Except ConfigError FileTree := do
  let files ←
    match Path.parent? path with
    | none => .ok files
    | some directory => (files.makeDirectories (Path.parts directory).reverse).mapError .noDirectory
  (files.writeText path c.toText).mapError .unwritable

end Configuration

end DeviceLink
