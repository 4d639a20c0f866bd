import DeviceLink.Configuration.File
import DeviceLink.Program.Desk
/-!
# Programs — looking at the configuration

The configuration file can be shown as it is, one value of it can be shown, and
a file with the standard values can be written. Where there is no file the
values are the standard ones.
-/

namespace DeviceLink

/-! ## One value -/

namespace Datum

/-- A table with its entries in the order of their keys, and without the unset
ones. -/
def tidied (entries : List (String × Datum)) : List (String × Datum) :=
  let isSet (e : String × Datum) : Bool := match e.2 with
    | .null => false
    | _ => true
  (entries.filter isSet).mergeSort fun a b => a.1 ≤ b.1

/-- The value at the end of a path of keys. An unset value is none. -/
def descend (d : Datum) : List String → Option Datum
  | [] => match d with
    | .null => none
    | d => some d
  | key :: rest =>
    match d with
    | .map entries => (lookup key entries).bind (·.descend rest)
    | _ => none

/-- How a single value is shown: a text as it is, a table as a document. -/
def display : Datum → String
  | .text s => s
  | .map entries => Toml.print (tidied entries)
  | d => String.ofList ((Toml.writeValue? d).getD [])

end Datum

/-- The value of a configuration under a key, a path with points between its
parts. -/
def Configuration.value? (c : Configuration) (key : String) : Option Datum :=
  c.toDatum.descend (key.splitOn ".")

/-! ## Commands -/

namespace Program

variable {σ : Type} (D : Desk σ)

/-- Load a configuration. -/
def load (path : String) : StateM σ (Except ConfigError Configuration) := do
  return Configuration.load (← D.files) path

/-- The failure to load a configuration. -/
def loadFailure (path : String) (e : ConfigError) : Failure :=
  ⟨s!"Failed to load config from {Text.quotedPath path}", e.causes⟩

/-- Show the configuration file. -/
def showFile (path : String) : StateM σ (Except Failure Unit) := do
  let files ← D.files
  if !files.contains path then
    D.notify .warning s!"No configuration file found at {Text.quotedPath path}"
    D.notify .hint "Run 'devtether config init' to create one"
    return .ok ()
  D.notify .hint s!"Configuration file: {Text.quotedPath path}"
  D.result ""
  match files.readText path with
  | .error e =>
    return .error ⟨s!"Failed to read config file: {Text.quotedPath path}", [e.message]⟩
  | .ok text =>
    D.result text
    return .ok ()

/-- Show one value of a configuration. -/
def presentValue (c : Configuration) (key : String) : StateM σ Unit :=
  match c.value? key with
  | some value => D.result value.display
  | none => D.notify .failure s!"Key not found: {key}"

/-- Show one value of the configuration. -/
def showValue (path key : String) : StateM σ (Except Failure Unit) := do
  if (← D.files).contains path then
    match ← load D path with
    | .error e => return .error (loadFailure path e)
    | .ok c => return .ok (← presentValue D c key)
  else return .ok (← presentValue D {} key)

/-- Write the standard configuration, in place of another one if `force`. -/
def writeFile (path : String) (force : Bool) : StateM σ (Except Failure Unit) := do
  let files ← D.files
  if files.contains path && !force then
    D.notify .failure s!"Config file already exists: {Text.quotedPath path}"
    D.notify .hint "Use --force to overwrite"
    return .ok ()
  match Configuration.save files path {} with
  | .error e =>
    return .error ⟨s!"Failed to write config file: {Text.quotedPath path}", e.causes⟩
  | .ok files =>
    D.replaceFiles files
    D.notify .success s!"Created configuration file: {Text.quotedPath path}"
    return .ok ()

end Program

end DeviceLink
