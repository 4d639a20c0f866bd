import DeviceLink.Proofs.Configuration.Keys
import DeviceLink.Proofs.Program.Invocation
/-!
# Run options — what they do to the parameters

Each option stands for one entry of the parameters, the device's serial apart, and sets
it to one value (`Given.field?`). Options put their entries in place one by one
(`apply_foldl`), so applying them changes these and no other (`overridden_iff`), and
applying some after others is applying the two combined (`apply_onto`).
-/

namespace DeviceLink

open Datum

/-! ## Parameters by their entries -/

/-- Parameters are read back from what is found by their keys. -/
theorem Params.asParams_found (p : Params) :
    asParams .file (.map ((paramsFields .file).filterMap fun f =>
      (p.toDatum.descend [f.1]).map (f.1, ·))) = .ok p := by
  have hwritten : ∀ e ∈ p.settings.map (·.1), isWritten (fun _ => true) e = e.2.isSet :=
    fun e he => p.flat.plain e he
  have hread := asParams_kept (fun _ => true) p
  rw [List.filter_congr hwritten, p.isSection.filter_isSet] at hread
  exact hread

/-- So what is found by their keys is all there is of them. -/
theorem Params.eq_of_descend {p q : Params}
    (h : ∀ key, p.toDatum.descend [key] = q.toDatum.descend [key]) : p = q := by
  have hp := p.asParams_found
  simp only [h, q.asParams_found] at hp
  exact (Except.ok.inj hp).symm

namespace RunOptions

open CommandLine

namespace Given

/-- The parameters once an option is put in place. -/
def put (p : Params) : Given → Params
  | .serial _ => p
  | .port r => { p with portRange := r }
  | .forceForward => { p with forceForward := true }
  | .remoteUrl s => { p with remoteUrl := some s }
  | .maxSize n => { p with maxSize := n }
  | .bitRate n => { p with bitRate := n }
  | .maxFps n => { p with maxFps := n }
  | .lockVideoOrientation n => { p with lockVideoOrientation := n }
  | .crop s => { p with crop := some s }
  | .display n => { p with displayId := n }
  | .noControl => { p with control := false }
  | .showTouches => { p with showTouches := true }
  | .stayAwake => { p with stayAwake := true }
  | .codecOptions s => { p with codecOptions := some s }
  | .encoder s => { p with encoderName := some s }
  | .logLevel l => { p with logLevel := l }

/-- **The entry an option stands for**, as a configuration has it. The device's serial is no
parameter. -/
def field? : Given → Option (String × Datum)
  | .serial _ => none
  | .port r => some ("port_range", .text r.render)
  | .forceForward => some ("force_adb_forward", .bool true)
  | .remoteUrl s => some ("remote_url", .text s)
  | .maxSize n => some ("max_size", .int n.toNat)
  | .bitRate n => some ("bit_rate", .int n.toNat)
  | .maxFps n => some ("max_fps", .int n.toNat)
  | .lockVideoOrientation n => some ("lock_video_orientation", .int n.toInt)
  | .crop s => some ("crop", .text s)
  | .display n => some ("display_id", .int n.toNat)
  | .noControl => some ("control", .bool false)
  | .showTouches => some ("show_touches", .bool true)
  | .stayAwake => some ("stay_awake", .bool true)
  | .codecOptions s => some ("codec_options", .text s)
  | .encoder s => some ("encoder_name", .text s)
  | .logLevel l => some ("log_level", .text l.name)

theorem descend_put_self (p : Params) {i : Given} {key : String} {d : Datum}
    (h : i.field? = some (key, d)) : (i.put p).toDatum.descend [key] = some d := by
  cases i <;> cases h <;> rfl

theorem descend_put_of_ne (p : Params) {i : Given} {key : String}
    (h : ∀ d, i.field? ≠ some (key, d)) :
    (i.put p).toDatum.descend [key] = p.toDatum.descend [key] := by
  cases i <;> simp only [field?, ne_eq, Option.some.injEq, Prod.mk.injEq, not_and] at h <;>
    simp only [Params.toDatum, put, descend_map, lookup, List.find?_cons]
  all_goals simp only [beq_false_of_ne fun heq => h _ heq rfl]

/-- No two options of different names stand for one entry. -/
theorem name_eq_of_field? {i j : Given} {key : String} {d e : Datum}
    (hi : i.field? = some (key, d)) (hj : j.field? = some (key, e)) : i.name = j.name := by
  cases i <;> cases hi <;> cases j <;> first | rfl | simp [field?] at hj

/-- Options that stand for other entries leave an entry alone. -/
theorem descend_foldl_of_ne {items : List Given} {key : String} (p : Params)
    (h : ∀ i ∈ items, ∀ d, i.field? ≠ some (key, d)) :
    (items.foldl put p).toDatum.descend [key] = p.toDatum.descend [key] := by
  induction items generalizing p with
  | nil => rfl
  | cons i items ih =>
    rw [List.foldl_cons, ih _ fun j hj => h j (List.mem_cons_of_mem i hj),
      descend_put_of_ne p (h i List.mem_cons_self)]

/-- An option sets its entry, and none of another name changes it again. -/
theorem descend_foldl_self {items : List Given} (hnodup : (items.map name).Nodup) {i : Given}
    (hi : i ∈ items) {key : String} {d : Datum} (h : i.field? = some (key, d)) (p : Params) :
    (items.foldl put p).toDatum.descend [key] = some d := by
  obtain ⟨before, after, rfl⟩ := List.append_of_mem hi
  rw [List.map_append, List.map_cons] at hnodup
  -- What stands before this option is overwritten, and what stands after has other names.
  have hafter : ∀ j ∈ after, ∀ e, j.field? ≠ some (key, e) := by
    intro j hj e hfield
    have hname := name_eq_of_field? h hfield
    exact (List.nodup_cons.1 hnodup.of_append_right).1 (hname ▸ List.mem_map_of_mem hj)
  rw [List.foldl_append, List.foldl_cons, descend_foldl_of_ne _ hafter, descend_put_self _ h]

end Given

/-! ## Applying -/

theorem apply_set (i : Given) (o : RunOptions) (base : Params) :
    (i.set o).apply base = i.put (o.apply base) := by
  cases i <;> rfl

/-- Options that are given one after another are put in place one after another. -/
theorem apply_foldl (items : List Given) (o : RunOptions) (base : Params) :
    (items.foldl Given.set o).apply base = items.foldl Given.put (o.apply base) := by
  induction items generalizing o with
  | nil => rfl
  | cons i items ih => rw [List.foldl_cons, ih, apply_set, List.foldl_cons]

theorem apply_eq_foldl (o : RunOptions) (base : Params) :
    o.apply base = o.given.foldl Given.put base := by
  conv_lhs => rw [← foldl_set_of_perm (.refl o.given), apply_foldl]
  rfl

/-- **Parameters are overridden**: they have the entries that the options stand for, and all
others of the base. -/
structure Overridden (o : RunOptions) (base p : Params) : Prop where
  set : ∀ i ∈ o.given, ∀ key d, i.field? = some (key, d) → p.toDatum.descend [key] = some d
  others : ∀ key, (∀ i ∈ o.given, ∀ d, i.field? ≠ some (key, d)) →
    p.toDatum.descend [key] = base.toDatum.descend [key]

theorem overridden_apply (o : RunOptions) (base : Params) : Overridden o base (o.apply base) where
  set i hi key d hfield := by
    rw [apply_eq_foldl, Given.descend_foldl_self o.nodup_names hi hfield]
  others key hnone := by
    rw [apply_eq_foldl, Given.descend_foldl_of_ne base hnone]

/-- **Applying options overrides the parameters**, and nothing else does. -/
theorem overridden_iff (o : RunOptions) (base p : Params) :
    Overridden o base p ↔ p = o.apply base := by
  constructor
  · intro h
    refine Params.eq_of_descend fun key => ?_
    by_cases hfield : ∃ i ∈ o.given, ∃ d, i.field? = some (key, d)
    · obtain ⟨i, hi, d, hfield⟩ := hfield
      rw [h.set i hi key d hfield, (o.overridden_apply base).set i hi key d hfield]
    · have hnone : ∀ i ∈ o.given, ∀ d, i.field? ≠ some (key, d) :=
        fun i hi d heq => hfield ⟨i, hi, d, heq⟩
      rw [h.others key hnone, (o.overridden_apply base).others key hnone]
  · rintro rfl
    exact o.overridden_apply base

/-- **Options combined**: `b` in place of what `a` has of the same names. -/
def onto (b a : RunOptions) : RunOptions := b.given.foldl Given.set a

theorem mem_given_onto (b a : RunOptions) (i : Given) :
    i ∈ (b.onto a).given ↔ i ∈ b.given ∨ i ∈ a.given ∧ i.name ∉ b.names := by
  rw [mem_given, onto, Given.isSet_foldl b.nodup_names, mem_given (o := a), and_comm]
  rfl

theorem onto_self (o : RunOptions) : o.onto o = o := by
  refine ext_isSet fun i => ?_
  rw [← mem_given, mem_given_onto, ← mem_given]
  exact or_iff_left_of_imp And.left

/-- Applying options over others is applying the two combined. -/
theorem apply_onto (b a : RunOptions) (base : Params) :
    b.apply (a.apply base) = (b.onto a).apply base := by
  rw [onto, apply_foldl, ← apply_eq_foldl]

theorem apply_apply (o : RunOptions) (base : Params) :
    o.apply (o.apply base) = o.apply base := by
  rw [apply_onto, onto_self]

/-! ## From the command line -/

/-- **Options reach the parameters.** The options that are set are read back from their long
forms in any order, alone and behind the name of the command, and applying them overrides
the parameters. Arguments that give an option twice are refused wherever the two stand,
whatever they look like, and in long form for being repeated. The environment names the
device exactly where the arguments do not. Applying options again changes nothing, and
applying them after others is applying the two combined. -/
theorem options_reach_parameters (o : RunOptions) (base : Params) :
    (∀ items : List Given, items.Perm o.given →
      parse (items.map Given.written) none = .ok o ∧
      Invocation.parse ("run" :: items.map Given.written) none = .ok ⟨{}, .run o⟩) ∧
    (∀ p, Overridden o base p ↔ p = o.apply base) ∧
    (∀ args, ¬ (args.flatMap (gives grammar)).Nodup →
      ∀ serial, ∃ e, parse args serial = .error e) ∧
    (∀ items : List Given, ¬ (items.map Given.name).Nodup → ∀ serial,
      (∃ s ∈ grammar.options, 2 ≤ (items.map Given.name).count s.long ∧
        parse (items.map Given.written) serial = .error (.repeated s.name)) ∧
      ∃ s ∈ Invocation.run.options, 2 ≤ (items.map Given.name).count s.long ∧
        Invocation.parse ("run" :: items.map Given.written) serial = .error (.repeated s.name)) ∧
    (∀ args s, parse args (some s) = (parse args none).map fun o =>
      if "serial" ∈ args.flatMap (gives grammar) then o else { o with serial := some s }) ∧
    o.apply (o.apply base) = o.apply base ∧
    ∀ a : RunOptions, o.apply (a.apply base) = (o.onto a).apply base ∧
      ∀ i, i ∈ (o.onto a).given ↔ i ∈ o.given ∨ i ∈ a.given ∧ i.name ∉ o.names :=
  ⟨fun _ hperm => ⟨parse_of_perm hperm, Invocation.parse_run_of_perm hperm⟩,
    o.overridden_iff base, fun _ => refused_of_not_nodup,
    fun _ h serial => ⟨parse_repeated h serial, Invocation.parse_run_repeated h serial⟩, parse_some,
    o.apply_apply base, fun a => ⟨o.apply_onto a base, o.mem_given_onto a⟩⟩

/-- Three options from the last to the first: a flag that turns the control channel off, a
value with an equals sign of its own, and a negative number. A letter and a long name give
one option twice. -/
theorem three_options_reach_parameters :
    let o : RunOptions :=
      { lockVideoOrientation := some (-1), crop := some "1:2=3", noControl := true }
    parse ["--no-control", "--crop=1:2=3", "--lock-video-orientation=-1"] none = .ok o ∧
      Overridden o {} (o.apply {}) ∧
      ∃ e, parse ["-n", "--crop=1:2=3", "--no-control"] none = .error e := by
  intro o
  obtain ⟨hread, hoverridden, hrefused, -⟩ := options_reach_parameters o {}
  have hperm : [Given.noControl, .crop "1:2=3", .lockVideoOrientation (-1)].Perm o.given := by
    decide +kernel
  have htwice : ¬ (["-n", "--crop=1:2=3", "--no-control"].flatMap (gives grammar)).Nodup := by
    decide +kernel
  exact ⟨(hread _ hperm).1, (hoverridden _).2 rfl, hrefused _ htwice none⟩

end RunOptions

end DeviceLink
