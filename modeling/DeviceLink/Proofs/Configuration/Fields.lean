import DeviceLink.Datum.Decode
import DeviceLink.Datum.Encode
import DeviceLink.Proofs.Configuration.Ports
import DeviceLink.Proofs.Toml.Document
import Mathlib.Data.List.Forall2
/-!
# Configurations — fields are read back

A structure's entries stand in the order of its fields, and each field reads
its own entry back (`Params.takes`, `ToolPaths.takes`). So whichever entries are
kept, reading them sets those fields and leaves the others at their standard
values (`fillByKey_filter`). An option that is unset has no line of its own; that
is no loss, since its standard value is to be unset.
-/

namespace DeviceLink

namespace Datum

/-! ## Values -/

@[simp]
theorem asLogLevel_name (format : Format) (l : LogLevel) :
    asLogLevel format (.text l.name) = .ok l := by
  cases l <;> simp [asLogLevel, asChoice, LogLevel.all, LogLevel.name]

@[simp]
theorem asOption_asText (o : Option String) : asOption asText (.ofOption o) = .ok o := by
  cases o <;> rfl

@[simp]
theorem asOption_asPath (o : Option String) : asOption asPath (.ofOption o) = .ok o := by
  cases o <;> rfl

@[simp]
theorem asPortRange_render (r : PortRange) : asPortRange (.text r.render) = .ok r := by
  rw [asPortRange, PortRange.parse_render]
  rfl

@[simp]
theorem asUInt16_toNat (n : UInt16) : asUInt16 (.int n.toNat) = .ok n := by
  have h : n.toNat < 65536 := n.toNat_lt
  have hbounds : (0 : Int) ≤ n.toNat ∧ (n.toNat : Int) ≤ 65535 := by omega
  rw [asUInt16, asWord, if_pos hbounds]
  simp [Except.map]

@[simp]
theorem asUInt32_toNat (n : UInt32) : asUInt32 (.int n.toNat) = .ok n := by
  have h : n.toNat < 4294967296 := n.toNat_lt
  have hbounds : (0 : Int) ≤ n.toNat ∧ (n.toNat : Int) ≤ 4294967295 := by omega
  rw [asUInt32, asWord, if_pos hbounds]
  simp [Except.map]

@[simp]
theorem asInt8_toInt (n : Int8) : asInt8 (.int n.toInt) = .ok n := by
  have hbounds : -128 ≤ n.toInt ∧ n.toInt ≤ 127 := by
    have := n.le_toInt
    have := n.toInt_lt
    omega
  rw [asInt8, asWord, if_pos hbounds]
  simp [Except.map]

@[simp]
theorem asBool_bool (b : Bool) : asBool (.bool b) = .ok b := rfl

/-! ## Structures -/

variable {α : Type}

/-- The value of a field: the one that is kept, or the one that was there. -/
def kept {β : Type} (keep : Bool) (value before : β) : β := if keep then value else before

/-- An entry of a structure, and what the structure is with the entry kept and without. -/
abbrev Setting (α : Type) := (String × Datum) × (Bool → α → α)

/-- A field takes an entry: it has its key, and reads its value. -/
structure Takes (f : Field α) (e : Setting α) : Prop where
  key : f.1 = e.1.1
  read : ∀ a, f.2 e.1.2 a = .ok (e.2 true a)
  absent : ∀ a, e.2 false a = a

theorem find?_key {β : Type} (key : β → String) {entries : List β}
    (hnodup : (entries.map key).Nodup) {e : β} (he : e ∈ entries) :
    entries.find? (key · == key e) = some e := by
  induction entries with
  | nil => cases he
  | cons g rest ih =>
      obtain ⟨hg, hrest⟩ := List.nodup_cons.1 hnodup
      rcases List.mem_cons.1 he with rfl | he
      · simp
      · have hmem : key e ∈ rest.map key := List.mem_map_of_mem he
        have hne : key g ≠ key e := fun heq => hg (heq ▸ hmem)
        rw [List.find?_cons_of_neg (by simpa using hne), ih hrest he]

/-- What stands under a key is looked up. -/
theorem lookup_of_mem {entries : List (String × Datum)} (hnodup : (entries.map (·.1)).Nodup)
    {e : String × Datum} (he : e ∈ entries) : lookup e.1 entries = some e.2 := by
  rw [lookup, find?_key (·.1) hnodup he, Option.map_some]

theorem lookup_of_not_mem {entries : List (String × Datum)} {key : String}
    (h : key ∉ entries.map (·.1)) : lookup key entries = none := by
  have hnone : entries.find? (·.1 == key) = none := by
    refine List.find?_eq_none.2 fun e he heq => h ?_
    exact beq_iff_eq.1 heq ▸ List.mem_map_of_mem he
  rw [lookup, hnone, Option.map_none]

theorem exists_takes {fields : List (Field α)} {es : List (Setting α)}
    (h : List.Forall₂ Takes fields es) {e : Setting α} (he : e ∈ es) : ∃ f ∈ fields, Takes f e := by
  induction h with
  | nil => cases he
  | cons hhead _ ih =>
      rcases List.mem_cons.1 he with rfl | he
      · exact ⟨_, List.mem_cons_self, hhead⟩
      · obtain ⟨f, hf, htakes⟩ := ih he
        exact ⟨f, List.mem_cons_of_mem _ hf, htakes⟩

/-- **The entries that are there are read** into their fields, and no other field is
touched. -/
theorem fillByKey_filter {fields : List (Field α)} (hnodup : (fields.map (·.1)).Nodup)
    {es : List (Setting α)} (h : ∀ e ∈ es, ∃ f ∈ fields, Takes f e)
    (p : String × Datum → Bool) (a : α) :
    fillByKey fields ((es.map (·.1)).filter p) a =
      .ok (es.foldl (fun a e => e.2 (p e.1) a) a) := by
  induction es generalizing a with
  | nil => rfl
  | cons e rest ih =>
      have ih := ih fun e he => h e (List.mem_cons_of_mem _ he)
      obtain ⟨f, hf, htakes⟩ := h e List.mem_cons_self
      have hfind : fields.find? (·.1 == e.1.1) = some f := htakes.key ▸ find?_key (·.1) hnodup hf
      rw [List.map_cons, List.foldl_cons]
      cases hp : p e.1 with
      | true =>
        rw [List.filter_cons_of_pos hp, ← ih, fillByKey.eq_def]
        simp only [hfind, htakes.read]
        rfl
      | false => rw [List.filter_cons_of_neg (by simp [hp]), ih, htakes.absent]

end Datum

open Datum

/-! ## Parameters -/

/-- The parameters' entries, each with the field it sets. -/
def Params.settings (p : Params) : List (Setting Params) :=
  [ (("log_level", .text p.logLevel.name),
      fun k a => { a with logLevel := kept k p.logLevel a.logLevel }),
    (("crop", .ofOption p.crop), fun k a => { a with crop := kept k p.crop a.crop }),
    (("codec_options", .ofOption p.codecOptions),
      fun k a => { a with codecOptions := kept k p.codecOptions a.codecOptions }),
    (("encoder_name", .ofOption p.encoderName),
      fun k a => { a with encoderName := kept k p.encoderName a.encoderName }),
    (("port_range", .text p.portRange.render),
      fun k a => { a with portRange := kept k p.portRange a.portRange }),
    (("max_size", .int p.maxSize.toNat),
      fun k a => { a with maxSize := kept k p.maxSize a.maxSize }),
    (("bit_rate", .int p.bitRate.toNat),
      fun k a => { a with bitRate := kept k p.bitRate a.bitRate }),
    (("max_fps", .int p.maxFps.toNat), fun k a => { a with maxFps := kept k p.maxFps a.maxFps }),
    (("lock_video_orientation", .int p.lockVideoOrientation.toInt),
      fun k a =>
        { a with lockVideoOrientation := kept k p.lockVideoOrientation a.lockVideoOrientation }),
    (("control", .bool p.control), fun k a => { a with control := kept k p.control a.control }),
    (("display_id", .int p.displayId.toNat),
      fun k a => { a with displayId := kept k p.displayId a.displayId }),
    (("show_touches", .bool p.showTouches),
      fun k a => { a with showTouches := kept k p.showTouches a.showTouches }),
    (("stay_awake", .bool p.stayAwake),
      fun k a => { a with stayAwake := kept k p.stayAwake a.stayAwake }),
    (("force_adb_forward", .bool p.forceForward),
      fun k a => { a with forceForward := kept k p.forceForward a.forceForward }),
    (("remote_url", .ofOption p.remoteUrl),
      fun k a => { a with remoteUrl := kept k p.remoteUrl a.remoteUrl }) ]

theorem Params.toDatum_eq (p : Params) : p.toDatum = .map (p.settings.map (·.1)) := rfl

theorem paramsFields_nodup : ((paramsFields .file).map (·.1)).Nodup := by
  simp [paramsFields]

theorem Params.takes (p : Params) : List.Forall₂ Takes (paramsFields .file) p.settings := by
  simp only [paramsFields, Params.settings, List.forall₂_cons, List.Forall₂.nil, and_true]
  refine ⟨?_, ?_, ?_, ?_, ?_, ?_, ?_, ?_, ?_, ?_, ?_, ?_, ?_, ?_, ?_⟩ <;>
    exact ⟨rfl, fun a => by simp [kept], fun a => rfl⟩

/-- The parameters with the values of some fields kept, and the standard values in all
others. -/
def Params.keeping (keep : String → Bool) (p : Params) : Params :=
  let standard : Params := {}
  { logLevel := kept (keep "log_level") p.logLevel standard.logLevel
    crop := kept (keep "crop") p.crop standard.crop
    codecOptions := kept (keep "codec_options") p.codecOptions standard.codecOptions
    encoderName := kept (keep "encoder_name") p.encoderName standard.encoderName
    portRange := kept (keep "port_range") p.portRange standard.portRange
    maxSize := kept (keep "max_size") p.maxSize standard.maxSize
    bitRate := kept (keep "bit_rate") p.bitRate standard.bitRate
    maxFps := kept (keep "max_fps") p.maxFps standard.maxFps
    lockVideoOrientation :=
      kept (keep "lock_video_orientation") p.lockVideoOrientation standard.lockVideoOrientation
    control := kept (keep "control") p.control standard.control
    displayId := kept (keep "display_id") p.displayId standard.displayId
    showTouches := kept (keep "show_touches") p.showTouches standard.showTouches
    stayAwake := kept (keep "stay_awake") p.stayAwake standard.stayAwake
    forceForward := kept (keep "force_adb_forward") p.forceForward standard.forceForward
    remoteUrl := kept (keep "remote_url") p.remoteUrl standard.remoteUrl }

/-- Whether an entry is kept and has a line. -/
def isWritten (keep : String → Bool) (e : String × Datum) : Bool :=
  keep e.1 && (Toml.writeValue? e.2).isSome

@[simp]
theorem isWritten_text (keep : String → Bool) (key s : String) :
    isWritten keep (key, .text s) = keep key := Bool.and_true _

@[simp]
theorem isWritten_int (keep : String → Bool) (key : String) (n : Int) :
    isWritten keep (key, .int n) = keep key := Bool.and_true _

@[simp]
theorem isWritten_bool (keep : String → Bool) (key : String) (b : Bool) :
    isWritten keep (key, .bool b) = keep key := by
  cases b <;> exact Bool.and_true _

/-- An option that is unset has no line, and its standard value is to be unset. -/
@[simp]
theorem kept_isWritten_ofOption (keep : String → Bool) (key : String) (o : Option String) :
    kept (isWritten keep (key, .ofOption o)) o none = kept (keep key) o none := by
  cases o <;> cases h : keep key <;> simp [kept, isWritten, h, Toml.writeValue?, ofOption]

theorem Params.foldl_settings (keep : String → Bool) (p : Params) :
    p.settings.foldl (fun a e => e.2 (isWritten keep e.1) a) {} = p.keeping keep := by
  simp only [Params.settings, List.foldl_cons, List.foldl_nil, Params.keeping, isWritten_text,
    isWritten_int, isWritten_bool, kept_isWritten_ofOption]

/-- **Parameters are read back** from the entries that are kept and written. -/
theorem asParams_kept (keep : String → Bool) (p : Params) :
    asParams .file (.map ((p.settings.map (·.1)).filter (isWritten keep))) =
      .ok (p.keeping keep) := by
  have h := fillByKey_filter paramsFields_nodup (fun e => exists_takes p.takes) (isWritten keep) {}
  rw [Params.foldl_settings] at h
  exact h

/-! ## Tool paths -/

/-- The entries of the tool's paths, each with the field it sets. -/
def ToolPaths.settings (b : ToolPaths) : List (Setting ToolPaths) :=
  [ (("adb_path", .ofOption b.adbPath), fun k a => { a with adbPath := kept k b.adbPath a.adbPath }),
    (("server_path", .ofOption b.serverPath),
      fun k a => { a with serverPath := kept k b.serverPath a.serverPath }) ]

theorem ToolPaths.toDatum_eq (b : ToolPaths) : b.toDatum = .map (b.settings.map (·.1)) := rfl

theorem toolPathsFields_nodup : (toolPathsFields.map (·.1)).Nodup := by
  simp [toolPathsFields]

theorem ToolPaths.takes (b : ToolPaths) : List.Forall₂ Takes toolPathsFields b.settings := by
  simp only [toolPathsFields, ToolPaths.settings, List.forall₂_cons, List.Forall₂.nil, and_true]
  exact ⟨⟨rfl, fun a => by simp [kept], fun a => rfl⟩, ⟨rfl, fun a => by simp [kept], fun a => rfl⟩⟩

/-- The tool's paths with some of them kept, and the standard values in place of the others. -/
def ToolPaths.keeping (keep : String → Bool) (b : ToolPaths) : ToolPaths :=
  let standard : ToolPaths := {}
  { adbPath := kept (keep "adb_path") b.adbPath standard.adbPath
    serverPath := kept (keep "server_path") b.serverPath standard.serverPath }

theorem ToolPaths.foldl_settings (keep : String → Bool) (b : ToolPaths) :
    b.settings.foldl (fun a e => e.2 (isWritten keep e.1) a) {} = b.keeping keep := by
  simp only [ToolPaths.settings, List.foldl_cons, List.foldl_nil, ToolPaths.keeping,
    kept_isWritten_ofOption]

/-- The tool's paths are read back from the entries that are kept and written. -/
theorem asToolPaths_kept (keep : String → Bool) (b : ToolPaths) :
    asToolPaths .file (.map ((b.settings.map (·.1)).filter (isWritten keep))) =
      .ok (b.keeping keep) := by
  have h := fillByKey_filter toolPathsFields_nodup (fun e => exists_takes b.takes)
    (isWritten keep) {}
  rw [ToolPaths.foldl_settings] at h
  exact h

/-! ## What is written -/

section Written

open Toml

theorem storable_text (s : String) : Storable (.text s) := fun _ h => nomatch h

theorem storable_bool (b : Bool) : Storable (.bool b) := fun _ h => nomatch h

theorem storable_ofOption (o : Option String) : Storable (.ofOption o) := by
  cases o <;> exact fun _ h => nomatch h

theorem storable_int {n : Int} (h : -4294967296 ≤ n ∧ n ≤ 4294967296) : Storable (.int n) := by
  rintro m ⟨⟩
  simp only [Holds, greatest]
  omega

theorem storable_uint16 (n : UInt16) : Storable (.int n.toNat) := by
  have h : n.toNat < 65536 := n.toNat_lt
  exact storable_int (by omega)

theorem storable_uint32 (n : UInt32) : Storable (.int n.toNat) := by
  have h : n.toNat < 4294967296 := n.toNat_lt
  exact storable_int (by omega)

theorem storable_int8 (n : Int8) : Storable (.int n.toInt) := by
  have hlo := n.le_toInt
  have hhi := n.toInt_lt
  exact storable_int (by omega)

theorem Params.plain (p : Params) : Plain (p.settings.map (·.1)) where
  bare := by
    have h : ∀ key ∈ (p.settings.map (·.1)).map (·.1), Bare key := by
      simp only [Params.settings, List.map_cons, List.map_nil]
      decide
    exact fun e he => h e.1 (List.mem_map_of_mem he)
  nodup := by simp [Params.settings]
  storable := by
    simp [Params.settings, storable_text, storable_bool, storable_ofOption, storable_uint16,
      storable_uint32, storable_int8]

theorem ToolPaths.plain (b : ToolPaths) : Plain (b.settings.map (·.1)) where
  bare := by
    have h : ∀ key ∈ (b.settings.map (·.1)).map (·.1), Bare key := by
      simp only [ToolPaths.settings, List.map_cons, List.map_nil]
      decide
    exact fun e he => h e.1 (List.mem_map_of_mem he)
  nodup := by simp [ToolPaths.settings]
  storable := by simp [ToolPaths.settings, storable_ofOption]

end Written

end DeviceLink
