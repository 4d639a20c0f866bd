import DeviceLink.CommandLine.Grammar
import DeviceLink.Proofs.Text.Stops
import Mathlib.Data.List.Induction
import Mathlib.Data.List.Nodup
/-!
# Command lines — options in long form

An option in long form is one argument, its value attached behind an equals sign. It acts
at once, whatever the value is made of and whatever follows, and only an option that has
been given before is refused (`scan_written`). So a list of options in long form is read
in the order in which it stands (`parse_written`), up to the first that is given a second
time (`parse_repeated`).
-/

namespace DeviceLink

namespace CommandLine

variable {α : Type} {g : Grammar α} {o : Switch α} {value : Option String} {act : α → α}
  {r : Reading α}

/-! ## One argument -/

/-- The option that waits for a value. -/
def Reading.awaiting (r : Reading α) : Option (Switch α) :=
  match r.pending with
  | some (o, none) => some o
  | _ => none

/-- Take a text that is no option: the value of the option that waits for one, or a
position. -/
def Reading.takePlain (r : Reading α) (g : Grammar α) (arg : String) :
    Except UsageError (Reading α) :=
  match r.awaiting with
  | some o => .ok { r with pending := some (o, some arg) }
  | none => r.takePosition g arg

/-- What becomes of one argument, in a command without subcommands. -/
theorem scan_cons_eq (hsubcommands : g.subcommands = []) (arg : String) (rest : List String)
    (r : Reading α) :
    scan g (arg :: rest) r =
      if r.onlyPositions then r.takePosition g arg >>= scan g rest
      else
        match arg.toList with
        | ['-'] => r.takePlain g arg >>= scan g rest
        | ['-', '-'] => scan g rest { r with onlyPositions := true }
        | '-' :: '-' :: cs => r.takeLong g cs >>= scan g rest
        | '-' :: cs =>
          if isNumber cs && r.awaiting.any Switch.takesNegatives then
            r.takePlain g arg >>= scan g rest
          else Reading.takeLetters g cs r >>= scan g rest
        | _ => r.takePlain g arg >>= scan g rest := by
  rw [scan, hsubcommands]
  exact if_congr Iff.rfl rfl (if_neg (by simp))

/-! ## One option -/

/-- An option in long form, with its value if it takes one. -/
def written (long : String) : Option String → String
  | none => "--" ++ long
  | some value => "--" ++ long ++ "=" ++ value

/-- The characters of an attached value. -/
def attached : Option String → List Char
  | none => []
  | some value => '=' :: value.toList

theorem toList_written (long : String) (value : Option String) :
    (written long value).toList = '-' :: '-' :: (long.toList ++ attached value) := by
  cases value <;> simp [written, attached]

/-- **What an option does** with the value it is given. -/
inductive Does : Effect α → Option String → (α → α) → Prop
  | mark (set : α → α) : Does (.mark set) none set
  | value {placeholder text : String} {negatives : Bool}
      {read : String → α → Except ValueFault α} {act : α → α} :
      (∀ a, read text a = .ok (act a)) →
      Does (.value placeholder negatives read) (some text) act

/-- The reading once an option has acted. -/
def Reading.after (r : Reading α) (long : String) (act : α → α) : Reading α :=
  { r with settings := act r.settings, seen := long :: r.seen }

theorem Reading.apply_of_does (h : Does o.effect value act) (r : Reading α) :
    r.apply g o value =
      if r.seen.contains o.long then .error (.repeated o.name) else .ok (r.after o.long act) := by
  obtain ⟨long, letter, effect⟩ := o
  cases h with
  | mark set =>
    simp only [Reading.apply]
    split <;> rfl
  | value hread =>
    simp only [Reading.apply]
    split
    · rfl
    · simp only [hread]
      rfl

/-- A value that is attached is not waited for. -/
theorem Reading.take_of_does (h : Does o.effect value act) (hpending : r.pending = none) :
    r.take g o value = r.apply g o value := by
  have hsettle : r.settle g = .ok r := by rw [Reading.settle, hpending]
  obtain ⟨long, letter, effect⟩ := o
  rw [Reading.take, hsettle]
  cases h <;> rfl

/-- **A grammar of options alone** that each are found by their long names. -/
structure Named (g : Grammar α) : Prop where
  positions : g.positions = []
  subcommands : g.subcommands = []
  found : ∀ o ∈ g.options, g.options.find? (·.long == o.long) = some o
  /-- A long name is not empty, and has no equals sign. -/
  long : ∀ o ∈ g.options, o.long ≠ "" ∧ '=' ∉ o.long.toList

theorem Reading.takeLong_written (hg : Named g) (ho : o ∈ g.options)
    (hdoes : Does o.effect value act) (r : Reading α) :
    r.takeLong g (o.long.toList ++ attached value) = r.take g o value := by
  have hname := Text.ne_of_not_mem (hg.long o ho).2
  have hstop : ∀ c ∈ (attached value).head?, decide (c ≠ '=') = false := by
    cases value <;> simp [attached]
  simp only [Reading.takeLong, Text.takeWhile_run hname hstop, Text.dropWhile_run hname hstop,
    String.ofList_toList, hg.found o ho]
  obtain ⟨long, letter, effect⟩ := o
  cases hdoes with
  | mark set => rfl
  | value hread => simp only [attached, String.ofList_toList]

theorem scan_long {arg : String} {c : Char} {cs : List Char}
    (harg : arg.toList = '-' :: '-' :: c :: cs) (hg : Named g) (hpositions : r.onlyPositions = false) (rest : List String) :
    scan g (arg :: rest) r = (r.takeLong g (c :: cs)).bind (scan g rest) := by
  rw [scan_cons_eq hg.subcommands, hpositions, harg]
  rfl

/-- **An option in long form acts at once**, unless it has been given before. -/
theorem scan_written (hg : Named g) (ho : o ∈ g.options) (hdoes : Does o.effect value act)
    (hpending : r.pending = none) (hpositions : r.onlyPositions = false) (rest : List String) :
    scan g (written o.long value :: rest) r =
      if r.seen.contains o.long then .error (.repeated o.name)
      else scan g rest (r.after o.long act) := by
  obtain ⟨c, cs, hcs⟩ :=
    List.exists_cons_of_ne_nil (mt String.toList_eq_nil_iff.1 (hg.long o ho).1)
  have harg : (written o.long value).toList = '-' :: '-' :: c :: (cs ++ attached value) := by
    rw [toList_written, hcs, List.cons_append]
  rw [scan_long harg hg hpositions, ← List.cons_append, ← hcs,
    Reading.takeLong_written hg ho hdoes, Reading.take_of_does hdoes hpending,
    Reading.apply_of_does hdoes]
  split <;> rfl

/-! ## Several options -/

/-- What a grammar offers: an option of this name that acts so with this value. -/
def Offers (g : Grammar α) (long : String) (value : Option String) (act : α → α) : Prop :=
  ∃ o ∈ g.options, o.long = long ∧ Does o.effect value act

section Several

variable {ι : Type} {items : List ι} {long : ι → String} {value : ι → Option String}
  {act : ι → α → α}

/-- **Options that are given once all act**, in the order in which they stand. -/
theorem scan_append (hg : Named g) (hitems : ∀ i ∈ items, Offers g (long i) (value i) (act i))
    (hpending : r.pending = none) (hpositions : r.onlyPositions = false)
    (hnodup : (items.map long).Nodup) (hnew : ∀ i ∈ items, long i ∉ r.seen)
    (rest : List String) :
    scan g (items.map (fun i => written (long i) (value i)) ++ rest) r =
      scan g rest { r with
        settings := items.foldl (fun a i => act i a) r.settings
        seen := (items.map long).reverse ++ r.seen } := by
  -- What has been seen grows by one name at a time, and the names to come stay new to it.
  induction items generalizing r with
  | nil => rfl
  | cons i items ih =>
    obtain ⟨o, ho, hlong, hdoes⟩ := hitems i List.mem_cons_self
    obtain ⟨hi, hnodup⟩ := List.nodup_cons.1 hnodup
    have hfirst : ¬ r.seen.contains o.long = true := by
      simpa [hlong] using hnew i List.mem_cons_self
    have hrest : ∀ j ∈ items, long j ∉ (r.after (long i) (act i)).seen := by
      intro j hj hin
      rcases List.mem_cons.1 hin with heq | hin
      · exact hi (heq ▸ List.mem_map_of_mem hj)
      · exact hnew j (List.mem_cons_of_mem i hj) hin
    have ih := ih (r := r.after (long i) (act i)) (fun j hj => hitems j (List.mem_cons_of_mem i hj))
      hpending hpositions hnodup hrest
    rw [List.map_cons, List.cons_append, ← hlong, scan_written hg ho hdoes hpending hpositions,
      if_neg hfirst, hlong, ih]
    simp [Reading.after]

/-- **Options in long form are read**, where each is given once. -/
theorem parse_written (hg : Named g) (hitems : ∀ i ∈ items, Offers g (long i) (value i) (act i))
    (hnodup : (items.map long).Nodup) (standard : α) :
    parse g (items.map fun i => written (long i) (value i)) standard =
      .ok (items.foldl (fun a i => act i a) standard) := by
  have hscan := scan_append (r := { settings := standard }) hg hitems rfl rfl hnodup
    (fun _ _ => List.not_mem_nil) []
  rw [List.append_nil] at hscan
  rw [parse, hscan]
  simp [scan, Reading.finish, Reading.settle, hg.positions, hg.subcommands, bind, Except.bind]

/-- Where a name stands twice, there is a first place where it does. -/
theorem exists_repeated (h : ¬ (items.map long).Nodup) :
    ∃ before i after, items = before ++ i :: after ∧ (before.map long).Nodup ∧
      long i ∈ before.map long := by
  induction items using List.reverseRecOn with
  | nil => exact absurd List.nodup_nil h
  | append_singleton items i ih =>
    by_cases hnodup : (items.map long).Nodup
    · refine ⟨items, i, [], rfl, hnodup, by_contra fun hnot => h ?_⟩
      rw [List.map_append, List.map_singleton]
      exact hnodup.append (List.nodup_singleton _) (by simpa using hnot)
    · obtain ⟨before, j, after, rfl, hbefore, hin⟩ := ih hnodup
      exact ⟨before, j, after ++ [i], by simp, hbefore, hin⟩

/-- **An option in long form that is given twice is refused**, wherever it stands. -/
theorem parse_repeated (hg : Named g) (hitems : ∀ i ∈ items, Offers g (long i) (value i) (act i))
    (h : ¬ (items.map long).Nodup) (standard : α) :
    ∃ o ∈ g.options, 2 ≤ (items.map long).count o.long ∧
      parse g (items.map fun i => written (long i) (value i)) standard =
        .error (.repeated o.name) := by
  obtain ⟨before, i, after, rfl, hbefore, hin⟩ := exists_repeated h
  obtain ⟨o, ho, hlong, hdoes⟩ := hitems i (by simp)
  have hscan := scan_append (r := { settings := standard }) hg
    (fun j hj => hitems j (List.mem_append_left _ hj)) rfl rfl hbefore
    (fun _ _ => List.not_mem_nil) ((i :: after).map fun i => written (long i) (value i))
  have htwice : 2 ≤ ((before ++ i :: after).map long).count o.long := by
    rw [List.map_append, List.map_cons, List.count_append, hlong, List.count_cons_self]
    have hbefore := List.count_pos_iff.2 hin
    omega
  refine ⟨o, ho, htwice, ?_⟩
  rw [parse, List.map_append, hscan, List.map_cons, ← hlong, scan_written hg ho hdoes rfl rfl,
    if_pos (by simpa [hlong] using hin)]
  rfl

end Several

end CommandLine

end DeviceLink
