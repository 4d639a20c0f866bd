import DeviceLink.Program.Invocation
import DeviceLink.Proofs.RunOptions.Reading
/-!
# Programs — the command that runs a session

The command takes its own options and those of every command. What is shown of its own
options alone holds of the command: they are read in long form in any order, and one that
is given twice is refused (`parse_run_of_perm`, `parse_run_repeated`).
-/

namespace DeviceLink

open CommandLine RunOptions

theorem CommandLine.Does.onPart {α β : Type} {effect : Effect α} {value : Option String}
    {act : α → α} (h : Does effect value act) (part : β → α) (put : α → β → β) :
    Does (effect.onPart part put) value fun b => put (act (part b)) b := by
  cases h with
  | mark set => exact .mark _
  | value hread => exact .value fun b => by rw [hread]; rfl

namespace Invocation

variable {items : List Given}

theorem named_run : Named run := by
  refine named_of_longs rfl rfl ?_ ?_ <;>
    simp only [run, switches, SharedOptions.switches, helpSwitch, Switch.onFirst, Switch.onSecond,
      List.map_append, List.map_cons, List.map_nil] <;>
    decide +kernel

theorem offered_run (i : Given) :
    Offers run i.name i.value? fun s => (s.1, i.set s.2) := by
  obtain ⟨s, hs, hlong, hdoes⟩ := i.exists_switch
  exact ⟨s.onSecond, List.mem_append_left _ (List.mem_map_of_mem hs), hlong,
    hdoes.onPart (fun s : SharedOptions × RunOptions => s.2) fun o s => (s.1, o)⟩

theorem within_standard (s : SharedOptions) : s.within {} = s := by
  simp [SharedOptions.within]

/-- The rest of the arguments is read by the command's own grammar. -/
theorem parse_run (args : List String) (serial : Option String) :
    parse ("run" :: args) serial = (CommandLine.parse run args ({}, {})).map fun s =>
      ⟨s.1, .run (s.2.withEnvironment serial)⟩ := by
  have henter : scan top ("run" :: args) { settings := ({}, ()) } =
      .ok (.enter "run" args { settings := ({}, ()) }) := by
    rw [scan]
    rfl
  have hread : parse ("run" :: args) serial = (CommandLine.parse run args ({}, {})).bind fun s =>
      .ok ⟨s.1.within {}, .run (s.2.withEnvironment serial)⟩ := by
    rw [parse, readWith, henter]
    cases hparse : CommandLine.parse run args ({}, {}) <;>
      simp only [bind, Except.bind, hparse, Except.map] <;> rfl
  simp only [hread, within_standard]
  rfl

theorem foldl_part (items : List Given) (s : SharedOptions) (o : RunOptions) :
    items.foldl (fun s i => (s.1, i.set s.2)) (s, o) = (s, items.foldl Given.set o) := by
  induction items generalizing o with
  | nil => rfl
  | cons i items ih => exact ih (i.set o)

/-- **The program is told the options** of a session in any order. -/
theorem parse_run_of_perm {o : RunOptions} (h : items.Perm o.given) :
    parse ("run" :: items.map Given.written) none = .ok ⟨{}, .run o⟩ := by
  have hnodup : (items.map Given.name).Nodup := ((h.map _).nodup_iff).2 o.nodup_names
  have hparse : CommandLine.parse run (items.map Given.written) ({}, {}) = .ok ({}, o) := by
    rw [← foldl_set_of_perm h, ← foldl_part]
    exact CommandLine.parse_written named_run (fun i _ => offered_run i) hnodup ({}, {})
  rw [parse_run, hparse, Except.map, withEnvironment_none]

/-- **One that is given twice is refused.** -/
theorem parse_run_repeated (h : ¬ (items.map Given.name).Nodup) (serial : Option String) :
    ∃ s ∈ run.options, 2 ≤ (items.map Given.name).count s.long ∧
      parse ("run" :: items.map Given.written) serial = .error (.repeated s.name) := by
  obtain ⟨s, hs, htwice, hparse⟩ := CommandLine.parse_repeated named_run
    (fun i (_ : i ∈ items) => offered_run i) h ({}, {})
  refine ⟨s, hs, htwice, ?_⟩
  rw [parse_run]
  exact congrArg _ hparse

end Invocation

end DeviceLink
