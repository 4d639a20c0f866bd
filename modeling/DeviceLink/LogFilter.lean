import DeviceLink.LogLevel
/-!
# Log filters — which reports are shown

A filter is the least severe level that is shown. It is read from a list of
directives: a level on its own is for every report, and the last of those
counts. A directive may also be for the reports of one named place only; no
report of this library names its place, so those show nothing.
-/

namespace DeviceLink

/-- How severe a level is. -/
def LogLevel.severity : LogLevel → Nat
  | .debug => 0
  | .info => 1
  | .warn => 2
  | .error => 3

/-- The least severe level that is shown; without one, nothing is. -/
structure LogFilter where
  threshold : Option LogLevel
  deriving DecidableEq, Repr

namespace LogFilter

/-- The filter that shows everything from a level on. -/
def atLeast (level : LogLevel) : LogFilter := ⟨some level⟩

/-- The filter that shows nothing. -/
def nothing : LogFilter := ⟨none⟩

/-- Whether reports of a level are shown. -/
def admits (f : LogFilter) (level : LogLevel) : Bool :=
  f.threshold.any fun least => least.severity ≤ level.severity

/-- The words and numbers for a filter. Nothing is reported below the most
talkative level that reports are made at, whatever it is called. -/
def words : List (String × LogFilter) :=
  [ ("off", nothing), ("0", nothing), ("error", .atLeast .error), ("1", .atLeast .error),
    ("warn", .atLeast .warn), ("2", .atLeast .warn),
    ("info", .atLeast .info), ("3", .atLeast .info),
    ("debug", .atLeast .debug), ("4", .atLeast .debug),
    ("trace", .atLeast .debug), ("5", .atLeast .debug) ]

/-- The filter of a word, in any ASCII case. -/
def ofWord? (text : String) : Option LogFilter :=
  (words.find? (·.1 == text.toLower)).map (·.2)

/-- One part of a list of directives. -/
inductive Directive
  /-- For every report. -/
  | everywhere (filter : LogFilter)
  /-- For the reports of one place. -/
  | somewhere
  /-- No directive. -/
  | unknown (text : String)
  deriving DecidableEq, Repr

/-- Whether a character can stand in the name of a place. -/
def isPlaceChar (c : Char) : Bool := c.isAlphanum || c == '_' || c == ':' || c == '-'

/-- Whether a text names a place. -/
def isPlace (cs : List Char) : Bool := !cs.isEmpty && cs.all isPlaceChar

/-- Read one directive. -/
def Directive.ofText (text : String) : Directive :=
  match ofWord? text with
  | some filter => .everywhere filter
  | none =>
    let cs := text.toList
    let level := String.ofList ((cs.dropWhile (· ≠ '=')).drop 1)
    if isPlace (cs.takeWhile (· ≠ '=')) && (level == "" || (ofWord? level).isSome) then .somewhere
    else .unknown text

/-- Read a list of directives. -/
def directives (text : String) : List Directive :=
  ((text.splitOn ",").filter (· ≠ "")).map Directive.ofText

/-- The filter that a list of directives makes up. Without any, failures are
shown. -/
def ofDirectives (ds : List Directive) : LogFilter :=
  let known := ds.filter fun d => match d with
    | .unknown _ => false
    | _ => true
  let everywhere := known.filterMap fun d => match d with
    | .everywhere filter => some filter
    | _ => none
  if known.isEmpty then .atLeast .error else everywhere.getLast?.getD nothing

/-- The parts of a list that are no directives. -/
def strays (ds : List Directive) : List String :=
  ds.filterMap fun d => match d with
    | .unknown text => some text
    | _ => none

end LogFilter

end DeviceLink
