import DeviceLink.RunOptions
import DeviceLink.Proofs.CommandLine.LongForm
import DeviceLink.Proofs.CommandLine.Accounts
import DeviceLink.Proofs.Configuration.Ports
import DeviceLink.Proofs.Text.Decimal
import Mathlib.Data.List.ReduceOption
import Mathlib.Data.List.Forall2
/-!
# Run options — one option at a time

An option that is given has a name and perhaps a value, and sets one thing (`Given.set`).
The grammar has each of them, and reads its value back from how it is written
(`Given.exists_switch`). Options are the list of what is set of them: it has each name at
most once (`nodup_names`), and giving it anew, in any order, gives the options back
(`foldl_set_of_perm`).
-/

namespace DeviceLink

namespace RunOptions

open CommandLine

variable {α : Type}

/-! ## Values are read back -/

theorem word_toString (lo hi n : Int) (hlo : lo ≤ n) (hhi : n ≤ hi) (hmin : -2147483648 ≤ lo)
    (hmax : hi ≤ 4294967295) (set : Int → α → α) (a : α) :
    word lo hi set (toString n) a = .ok (set n a) := by
  have hread : Text.signed 64 (toString n).toList = .ok n :=
    Text.signed_toString (by simp; omega) (by simp; omega)
  simp only [word, hread]
  exact if_pos ⟨hlo, hhi⟩

theorem word16_toString (set : UInt16 → α → α) (n : UInt16) (a : α) :
    word16 set (toString n) a = .ok (set n a) := by
  have h : n.toNat < 65536 := n.toNat_lt
  have hword := word_toString 0 65535 n.toNat (by omega) (by omega) (by decide) (by decide)
    (fun m => set (UInt16.ofNat m.toNat)) a
  rwa [Int.toNat_natCast, UInt16.ofNat_toNat] at hword

theorem word32_toString (set : UInt32 → α → α) (n : UInt32) (a : α) :
    word32 set (toString n) a = .ok (set n a) := by
  have h : n.toNat < 4294967296 := n.toNat_lt
  have hword := word_toString 0 4294967295 n.toNat (by omega) (by omega) (by decide) (by decide)
    (fun m => set (UInt32.ofNat m.toNat)) a
  rwa [Int.toNat_natCast, UInt32.ofNat_toNat] at hword

theorem signed8_toString (set : Int8 → α → α) (n : Int8) (a : α) :
    signed8 set (toString n) a = .ok (set n a) := by
  have hlo := n.le_toInt
  have hhi := n.toInt_lt
  have hword := word_toString (-128) 127 n.toInt (by omega) (by omega) (by decide) (by decide)
    (fun m => set (Int8.ofInt m)) a
  rwa [Int8.ofInt_toInt] at hword

theorem text_self (set : String → α → α) (s : String) (a : α) :
    text set s a = .ok (set s a) := rfl

theorem ports_render (set : PortRange → α → α) (r : PortRange) (a : α) :
    ports set r.render a = .ok (set r a) := by
  simp only [ports, PortRange.parse_render]

theorem level_name (set : LogLevel → α → α) (l : LogLevel) (a : α) :
    level set l.name a = .ok (set l a) := by
  have hparse : LogLevel.parse l.name = .ok l := by cases l <;> decide +kernel
  simp only [level, hparse]

/-! ## Options -/

/-- **One option as it is given**, with its value if it takes one. -/
inductive Given
  | serial (text : String)
  | port (range : PortRange)
  | forceForward
  | remoteUrl (text : String)
  | maxSize (n : UInt16)
  | bitRate (n : UInt32)
  | maxFps (n : UInt16)
  | lockVideoOrientation (n : Int8)
  | crop (text : String)
  | display (n : UInt16)
  | noControl
  | showTouches
  | stayAwake
  | codecOptions (text : String)
  | encoder (text : String)
  | logLevel (level : LogLevel)
  deriving DecidableEq

namespace Given

/-- The option's long name. -/
def name : Given → String
  | .serial _ => "serial"
  | .port _ => "port"
  | .forceForward => "force-adb-forward"
  | .remoteUrl _ => "remote-url"
  | .maxSize _ => "max-size"
  | .bitRate _ => "bit-rate"
  | .maxFps _ => "max-fps"
  | .lockVideoOrientation _ => "lock-video-orientation"
  | .crop _ => "crop"
  | .display _ => "display"
  | .noControl => "no-control"
  | .showTouches => "show-touches"
  | .stayAwake => "stay-awake"
  | .codecOptions _ => "codec-options"
  | .encoder _ => "encoder"
  | .logLevel _ => "log-level"

/-- The option's value as it is written. -/
def value? : Given → Option String
  | .forceForward | .noControl | .showTouches | .stayAwake => none
  | .serial s | .remoteUrl s | .crop s | .codecOptions s | .encoder s => some s
  | .port r => some r.render
  | .maxSize n | .maxFps n | .display n => some (toString n)
  | .bitRate n => some (toString n)
  | .lockVideoOrientation n => some (toString n)
  | .logLevel l => some l.name

/-- The option in long form. -/
def written (i : Given) : String := CommandLine.written i.name i.value?

/-- The options once this one is given. -/
def set (o : RunOptions) : Given → RunOptions
  | .serial s => { o with serial := some s }
  | .port r => { o with portRange := some r }
  | .forceForward => { o with forceForward := true }
  | .remoteUrl s => { o with remoteUrl := some s }
  | .maxSize n => { o with maxSize := some n }
  | .bitRate n => { o with bitRate := some n }
  | .maxFps n => { o with maxFps := some n }
  | .lockVideoOrientation n => { o with lockVideoOrientation := some n }
  | .crop s => { o with crop := some s }
  | .display n => { o with displayId := some n }
  | .noControl => { o with noControl := true }
  | .showTouches => { o with showTouches := true }
  | .stayAwake => { o with stayAwake := true }
  | .codecOptions s => { o with codecOptions := some s }
  | .encoder s => { o with encoderName := some s }
  | .logLevel l => { o with logLevel := some l }

/-- Whether the options have this one. -/
def IsSet (o : RunOptions) : Given → Prop
  | .serial s => o.serial = some s
  | .port r => o.portRange = some r
  | .forceForward => o.forceForward = true
  | .remoteUrl s => o.remoteUrl = some s
  | .maxSize n => o.maxSize = some n
  | .bitRate n => o.bitRate = some n
  | .maxFps n => o.maxFps = some n
  | .lockVideoOrientation n => o.lockVideoOrientation = some n
  | .crop s => o.crop = some s
  | .display n => o.displayId = some n
  | .noControl => o.noControl = true
  | .showTouches => o.showTouches = true
  | .stayAwake => o.stayAwake = true
  | .codecOptions s => o.codecOptions = some s
  | .encoder s => o.encoderName = some s
  | .logLevel l => o.logLevel = some l

/-- **Giving an option** sets it, and leaves those of other names alone. -/
theorem isSet_set (o : RunOptions) (i j : Given) :
    j.IsSet (i.set o) ↔ i = j ∨ i.name ≠ j.name ∧ j.IsSet o := by
  cases i <;> cases j <;> simp [IsSet, set, name]

/-- Every option is one of the grammar, and does what is said here. -/
theorem exists_switch (i : Given) :
    ∃ s ∈ switches, s.long = i.name ∧ Does s.effect i.value? i.set := by
  cases i
  all_goals
    simp only [switches, name, List.mem_cons, List.not_mem_nil, or_false, or_and_right, exists_or,
      exists_eq_left, String.reduceEq, false_and, true_and, false_or, value?]
  case serial | remoteUrl | crop | codecOptions | encoder => exact .value (text_self _ _)
  case port => exact .value (ports_render _ _)
  case maxSize | maxFps | display => exact .value (word16_toString _ _)
  case bitRate => exact .value (word32_toString _ _)
  case lockVideoOrientation => exact .value (signed8_toString _ _)
  case logLevel => exact .value (level_name _ _)
  case forceForward | noControl | showTouches | stayAwake => exact .mark _

theorem not_isSet_standard (i : Given) : ¬ i.IsSet {} := by
  cases i <;> simp [IsSet]

/-- Options given one after another are set, and those of other names left alone. -/
theorem isSet_foldl {items : List Given} (hnodup : (items.map name).Nodup) (o : RunOptions)
    (i : Given) : i.IsSet (items.foldl set o) ↔
      i ∈ items ∨ i.name ∉ items.map name ∧ i.IsSet o := by
  induction items generalizing o with
  | nil => simp
  | cons j items ih =>
    obtain ⟨hj, hnodup⟩ := List.nodup_cons.1 hnodup
    rw [List.foldl_cons, ih hnodup, isSet_set, List.mem_cons, List.map_cons, List.mem_cons, not_or]
    constructor
    · rintro (hin | ⟨hnot, rfl | ⟨hne, hset⟩⟩)
      · exact .inl (.inr hin)
      · exact .inl (.inl rfl)
      · exact .inr ⟨⟨Ne.symm hne, hnot⟩, hset⟩
    · rintro ((rfl | hin) | ⟨⟨hne, hnot⟩, hset⟩)
      · exact .inr ⟨hj, .inl rfl⟩
      · exact .inl hin
      · exact .inr ⟨hnot, .inr ⟨Ne.symm hne, hset⟩⟩

end Given

/-! ## The options that are given -/

/-- The places of the options, in the order of the grammar. -/
def places (o : RunOptions) : List (Option Given) :=
  let flag (b : Bool) (i : Given) : Option Given := if b then some i else none
  [ o.serial.map .serial, o.portRange.map .port, flag o.forceForward .forceForward,
    o.remoteUrl.map .remoteUrl, o.maxSize.map .maxSize, o.bitRate.map .bitRate,
    o.maxFps.map .maxFps, o.lockVideoOrientation.map .lockVideoOrientation, o.crop.map .crop,
    o.displayId.map .display, flag o.noControl .noControl, flag o.showTouches .showTouches,
    flag o.stayAwake .stayAwake, o.codecOptions.map .codecOptions, o.encoderName.map .encoder,
    o.logLevel.map .logLevel ]

/-- **The options that are set**, each with its value. -/
def given (o : RunOptions) : List Given := o.places.reduceOption

/-- The long names of the options that are set. -/
def names (o : RunOptions) : List String := o.given.map Given.name

theorem mem_given {o : RunOptions} {i : Given} : i ∈ o.given ↔ i.IsSet o := by
  have hplace : ∀ {β : Type} (x : Option β) (mk : β → Given),
      some i = x.map mk ↔ ∃ b, x = some b ∧ mk b = i := fun x mk =>
    eq_comm.trans Option.map_eq_some_iff
  rw [given, List.reduceOption_mem_iff]
  cases i <;> simp [places, Given.IsSet, hplace]

/-- The names of what stands in some places are among the names of the places. -/
theorem reduceOption_sublist {places : List (Option Given)} {longs : List String}
    (h : List.Forall₂ (fun place long => ∀ i ∈ place, Given.name i = long) places longs) :
    (places.reduceOption.map Given.name).Sublist longs := by
  induction h with
  | nil => exact .slnil
  | @cons place long places longs hplace _ ih =>
    cases place with
    | none => exact ih.cons long
    | some i =>
      rw [List.reduceOption_cons_of_some, List.map_cons, hplace i rfl]
      exact ih.cons_cons long

theorem nodup_names (o : RunOptions) : o.names.Nodup := by
  have hlongs : (switches.map (·.long)).Nodup := by
    simp only [switches, List.map_cons, List.map_nil]
    decide
  refine hlongs.sublist (reduceOption_sublist ?_)
  simp [places, switches, Given.name]

theorem mem_names {o : RunOptions} {long : String} :
    long ∈ o.names ↔ ∃ i : Given, i.IsSet o ∧ i.name = long := by
  simp only [names, List.mem_map, mem_given]

/-- Options are what is set of them. -/
theorem ext_isSet {o p : RunOptions} (h : ∀ i : Given, i.IsSet o ↔ i.IsSet p) : o = p := by
  cases o
  cases p
  rw [RunOptions.mk.injEq]
  exact ⟨Option.ext fun s => h (.serial s), Option.ext fun r => h (.port r),
    Bool.eq_iff_iff.2 (h .forceForward), Option.ext fun s => h (.remoteUrl s),
    Option.ext fun n => h (.maxSize n), Option.ext fun n => h (.bitRate n),
    Option.ext fun n => h (.maxFps n), Option.ext fun n => h (.lockVideoOrientation n),
    Option.ext fun s => h (.crop s), Option.ext fun n => h (.display n),
    Bool.eq_iff_iff.2 (h .noControl), Bool.eq_iff_iff.2 (h .showTouches),
    Bool.eq_iff_iff.2 (h .stayAwake), Option.ext fun s => h (.codecOptions s),
    Option.ext fun s => h (.encoder s), Option.ext fun l => h (.logLevel l)⟩

/-- **Options are what gives them**, in any order. -/
theorem foldl_set_of_perm {o : RunOptions} {items : List Given} (h : items.Perm o.given) :
    items.foldl Given.set {} = o := by
  have hnodup : (items.map Given.name).Nodup := ((h.map _).nodup_iff).2 o.nodup_names
  refine ext_isSet fun i => ?_
  rw [Given.isSet_foldl hnodup, h.mem_iff, mem_given]
  simp [Given.not_isSet_standard]

end RunOptions

end DeviceLink
