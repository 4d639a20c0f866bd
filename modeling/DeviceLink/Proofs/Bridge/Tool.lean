import DeviceLink.Bridge.Tool
import DeviceLink.Proofs.Bridge.Encoding
/-!
# The bridge — a tool beside a recorder

A session's bridge may be a program that is run once for each demand, or a
recorder that keeps what is demanded of it. `Tool.Follows` says that the
recorder fares as the program does: a command succeeds when the program exits
with zero, and an agent is run when the program can be started at all. Then
the surroundings of the two agree, and what the program is told are the
arguments for what the recorder keeps (`Follows.agree`).
-/

namespace DeviceLink

open Surroundings BridgeCommand

variable {σ σ' : Type}

namespace Tool

/-- The surroundings with a tool for the bridge. -/
def driving (T : Tool σ) (S : Surroundings σ) : Surroundings σ :=
  { S with bridge := T.bridge, execute := T.execute S.report }

/-- The arguments a tool was handed, the earliest first. -/
abbrev Log := List (List String)

/-- An act that hands nothing to a tool. -/
def unlogged {α : Type} (act : StateM σ α) : StateM (σ × Log) α :=
  fun x => ((act x.1).1, (act x.1).2, x.2)

/-- An act that hands arguments to a tool. -/
def logging {α : Type} (arguments : List String) (act : StateM σ α) : StateM (σ × Log) α :=
  fun x => ((act x.1).1, (act x.1).2, x.2 ++ [arguments])

/-- The tool, with a log of the arguments it is handed. -/
def logged (T : Tool σ) : Tool (σ × Log) where
  run arguments := logging arguments (T.run arguments)
  spawn arguments := logging arguments (T.spawn arguments)

/-- The surroundings of a tool with a log, which nothing else is written to. -/
def beside (S : Surroundings σ) : Surroundings (σ × Log) where
  report r := unlogged (S.report r)
  isFile path := unlogged (S.isFile path)
  bridge serial c := unlogged (S.bridge serial c)
  execute serial args := unlogged (S.execute serial args)
  ended? p := unlogged (S.ended? p)
  kill p := unlogged (S.kill p)
  get u := unlogged (S.get u)
  listen port := unlogged (S.listen port)
  arrival? port := unlogged (S.arrival? port)
  unlisten port := unlogged (S.unlisten port)
  connect e := unlogged (S.connect e)
  readByte? x := unlogged (S.readByte? x)
  drain? x := unlogged (S.drain? x)
  close x := unlogged (S.close x)
  next? limit := unlogged (S.next? limit)
  sleep time := unlogged (S.sleep time)
  horizon x := S.horizon x.1

/-- **A recorder that follows a tool.** What cannot be handed to a program, for
it holds a NUL, cannot be started either. -/
structure Follows (T : Tool σ) (S' : Surroundings σ') (R : σ → σ' → Prop) : Prop where
  /-- A command succeeds exactly when the tool exits with zero. -/
  run : ∀ serial c, holdsNul (forDevice serial c.arguments) = false →
    Act.Parallel R (fun r r' => r = .ok (.code 0) ↔ r' = .ok ())
      (T.run (forDevice serial c.arguments)) (S'.bridge serial c)
  notRun : ∀ serial c, holdsNul (forDevice serial c.arguments) = true →
    Act.Parallel R (fun _ r' => r' ≠ .ok ()) (pure () : StateM σ Unit) (S'.bridge serial c)
  /-- An agent is run exactly when the tool can be started. -/
  spawn : ∀ serial args, holdsNul (forDevice serial args) = false →
    Act.Parallel R Concur (T.spawn (forDevice serial args)) (S'.execute serial args)
  notSpawned : ∀ serial args, holdsNul (forDevice serial args) = true →
    Act.Parallel R (fun _ r' => ∀ p, r' ≠ .ok p) (pure () : StateM σ Unit)
      (S'.execute serial args)

end Tool

/-- What a tool is handed for demands: their arguments, but those that no
program can be handed. -/
def Demand.vectors (ds : List Demand) : Tool.Log :=
  (ds.filterMap Demand.vector?).filter fun v => !Tool.holdsNul v

namespace Tool

variable {T : Tool σ} {S : Surroundings σ} {S' : Surroundings σ'} {R : σ → σ' → Prop}
variable {asked : Url → Prop}

/-- States of a relation, with what the tool was handed for what was demanded. -/
def InStep (R : σ → σ' → Prop) (x : σ × Log) (x' : σ' × Trace) : Prop :=
  R x.1 x'.1 ∧ x.2 = Demand.vectors x'.2.demands

/-- An event that is no demand of the bridge. -/
def Silent (e : Event) : Prop := ∀ d, e.demand? = some d → d.vector? = none

theorem vectors_silent {es : Trace} (h : ∀ e ∈ es, Silent e) : Demand.vectors es.demands = [] := by
  have hnone : es.demands.filterMap Demand.vector? = [] := by
    refine List.filterMap_eq_nil_iff.2 fun d hd => ?_
    obtain ⟨e, he, hde⟩ := List.mem_filterMap.1 hd
    exact h e he d hde
  rw [Demand.vectors, hnone]
  rfl

theorem vectors_append (t es : Trace) :
    Demand.vectors (Trace.demands (t ++ es)) =
      Demand.vectors t.demands ++ Demand.vectors es.demands := by
  simp only [Demand.vectors, Trace.demands_append, List.filterMap_append, List.filter_append]

theorem unlogged_parallel {α α' : Type} {Q : α → α' → Prop} {act : StateM σ α}
    {act' : StateM σ' α'} {note : α' → Trace} (h : Act.Parallel R Q act act')
    (hn : ∀ r, ∀ e ∈ note r, Silent e) :
    Act.Parallel (InStep R) Q (unlogged act) (noted act' note) := by
  rintro ⟨w, log⟩ ⟨w', t⟩ ⟨hR, rfl⟩
  obtain ⟨hq, hR⟩ := h hR
  refine ⟨hq, hR, ?_⟩
  simp only [noted, unlogged, vectors_append, vectors_silent (hn _), List.append_nil]

theorem silent_of {e : Event} (h : e.demand? = none) : Silent e := fun d hd => by
  rw [h] at hd
  cases hd

theorem silent_nil : ∀ e ∈ ([] : Trace), Silent e := fun _ h => by cases h

theorem silent_one {e : Event} (h : e.demand? = none) : ∀ e' ∈ [e], Silent e' := by
  simpa using silent_of h

theorem silent_found {α : Type} {note : α → Event} (h : ∀ a, (note a).demand? = none)
    (r : Option α) : ∀ e ∈ r.toList.map note, Silent e := by
  cases r with
  | none => exact silent_nil
  | some a => exact silent_one (h a)

theorem beside_concord (h : Concord asked S S' R) :
    Concord asked (beside S) S'.traced (InStep R) where
  told r x x' hx := ⟨h.told r hx.1, hx.2⟩
  told' r x x' hx := ⟨h.told' r hx.1, by simpa [Surroundings.traced, noted] using hx.2⟩
  isFile path := unlogged_parallel (h.isFile path) fun _ => silent_nil
  ended p := unlogged_parallel (h.ended p) (silent_found fun _ => rfl)
  kill p := unlogged_parallel (h.kill p) fun _ => silent_one rfl
  get u := unlogged_parallel (h.get u) fun _ e he d hd => by
    cases List.mem_singleton.1 he
    cases hd
    rfl
  listen port := unlogged_parallel (h.listen port) fun _ => silent_one rfl
  arrival port := unlogged_parallel (h.arrival port) (silent_found fun _ => rfl)
  unlisten port := unlogged_parallel (h.unlisten port) fun _ => silent_one rfl
  connect e := unlogged_parallel (h.connect e) fun _ => silent_one rfl
  readByte x := unlogged_parallel (h.readByte x) (silent_found fun _ => rfl)
  close x := unlogged_parallel (h.close x) fun _ => silent_one rfl
  next limit := unlogged_parallel (h.next limit) (silent_found fun _ => rfl)
  sleep time := unlogged_parallel (h.sleep time) fun _ => silent_one rfl
  horizon hx := h.horizon hx.1

/-! ## Runs of the tool -/

/-- What a command comes to, from how the tool ended. -/
def outcome (c : BridgeCommand) : Except IoError ExitStatus → Except BridgeError Unit
  | .error e => .error (.spawn c.label e)
  | .ok status => if status.isSuccess then .ok () else .error (.failed c.label status.code?)

theorem outcome_ok_iff {c : BridgeCommand} {r : Except IoError ExitStatus} :
    outcome c r = .ok () ↔ r = .ok (.code 0) := by
  rcases r with e | status
  · simp [outcome]
  · by_cases hs : status = .code 0
    · subst hs
      exact ⟨fun _ => rfl, fun _ => rfl⟩
    · have hno : status.isSuccess = false := by simpa [ExitStatus.isSuccess] using hs
      simp [outcome, hno, hs]

theorem bridge_apply (T : Tool σ) {serial : Option String} {c : BridgeCommand}
    (h : holdsNul (forDevice serial c.arguments) = false) (w : σ) :
    T.bridge serial c w =
      (outcome c (T.run (forDevice serial c.arguments) w).1,
        (T.run (forDevice serial c.arguments) w).2) := by
  simp only [bridge, h, Bool.false_eq_true, if_false, Act.bind_apply]
  rcases T.run (forDevice serial c.arguments) w with ⟨e | status, w'⟩
  · rfl
  · simp only [outcome]
    split
    · rfl
    · rfl

theorem bridge_of_nul (T : Tool σ) {serial : Option String} {c : BridgeCommand}
    (h : holdsNul (forDevice serial c.arguments) = true) (w : σ) :
    T.bridge serial c w = (.error (.spawn c.label .nulInArgument), w) := by
  simp only [bridge, h, if_true]
  rfl

/-- An agent that was started is told of. -/
theorem execute_apply (T : Tool σ) (report : Report → StateM σ Unit) {serial : Option String}
    {args : List String} (h : holdsNul (forDevice serial args) = false) (w : σ) :
    ∃ told : RunningAgent → Report, T.execute report serial args w =
      match T.spawn (forDevice serial args) w with
      | (.error e, w) => (.error (.spawn executeLabel e), w)
      | (.ok process, w) => (.ok process, (report (told process) w).2) := by
  refine ⟨fun process =>
    ⟨.info, s!"Spawned remote agent through adb (pid {RunningAgent.pidText process.pid})"⟩, ?_⟩
  simp only [execute, h, Bool.false_eq_true, if_false, Act.bind_apply]
  rcases T.spawn (forDevice serial args) w with ⟨e | process, w'⟩
  · rfl
  · rfl

theorem concur_unit {r r' : Except BridgeError Unit} (h : r = .ok () ↔ r' = .ok ()) :
    Concur r r' := by
  rcases r with e | ⟨⟩ <;> rcases r' with e' | ⟨⟩
  · exact .error trivial
  · cases h.2 rfl
  · cases h.1 rfl
  · exact .ok rfl

theorem vectors_handed {serial : Option String} {c : BridgeCommand}
    (h : holdsNul (forDevice serial c.arguments) = false) (r : Except BridgeError Unit) :
    Demand.vectors (Trace.demands [.bridge serial c r]) = [forDevice serial c.arguments] := by
  simp [Demand.vectors, Trace.demands, Event.demand?, Demand.vector?, h]

theorem vectors_held {serial : Option String} {c : BridgeCommand}
    (h : holdsNul (forDevice serial c.arguments) = true) (r : Except BridgeError Unit) :
    Demand.vectors (Trace.demands [.bridge serial c r]) = [] := by
  simp [Demand.vectors, Trace.demands, Event.demand?, Demand.vector?, h]

theorem Follows.bridge_parallel (h : T.Follows S' R) (serial : Option String)
    (c : BridgeCommand) :
    Act.Parallel (InStep R) Concur (T.logged.bridge serial c) (S'.traced.bridge serial c) := by
  rintro ⟨w, log⟩ ⟨w', t⟩ ⟨hR, rfl⟩
  rw [Surroundings.traced_bridge]
  cases hn : holdsNul (forDevice serial c.arguments) with
  | false =>
    obtain ⟨hr, hR⟩ := h.run serial c hn hR
    rw [bridge_apply T.logged hn]
    refine ⟨concur_unit (Iff.trans outcome_ok_iff hr), hR, ?_⟩
    rw [vectors_append, vectors_handed hn]
    rfl
  | true =>
    obtain ⟨hr, hR⟩ := h.notRun serial c hn hR
    rw [bridge_of_nul T.logged hn]
    refine ⟨concur_unit ⟨fun hok => (nomatch hok), fun hok => absurd hok hr⟩, hR, ?_⟩
    rw [vectors_append, vectors_held hn, List.append_nil]

theorem Follows.execute_parallel (h : T.Follows S' R) (hS : Concord asked S S' R)
    (serial : Option String) (args : List String) :
    Act.Parallel (InStep R) Concur (T.logged.execute (beside S).report serial args)
      (S'.traced.execute serial args) := by
  rintro ⟨w, log⟩ ⟨w', t⟩ ⟨hR, rfl⟩
  rw [Surroundings.traced_execute]
  cases hn : holdsNul (forDevice serial args) with
  | false =>
    obtain ⟨hr, hR⟩ := h.spawn serial args hn hR
    have hvector : ∀ r, Demand.vectors (Trace.demands [.execute serial args r]) =
        [forDevice serial args] := by
      simp [Demand.vectors, Trace.demands, Event.demand?, Demand.vector?, hn]
    obtain ⟨told, happly⟩ :=
      execute_apply T.logged (beside S).report hn (w, Demand.vectors t.demands)
    rw [happly]
    simp only [logged, logging]
    rcases hs : T.spawn (forDevice serial args) w with ⟨r, u⟩
    rcases hs' : S'.execute serial args w' with ⟨r', u'⟩
    simp only [hs, hs'] at hr hR
    cases hr with
    | error _ => exact ⟨.error trivial, hR, by rw [vectors_append, hvector]⟩
    | ok hp => exact ⟨.ok hp, hS.told _ hR, by rw [vectors_append, hvector]; rfl⟩
  | true =>
    obtain ⟨hr, hR⟩ := h.notSpawned serial args hn hR
    simp only [execute, hn, if_true]
    refine ⟨?_, hR, ?_⟩
    · cases hx : (S'.execute serial args w').1 with
      | error e => exact .error trivial
      | ok p => exact absurd hx (hr p)
    · rw [vectors_append]
      simp [Demand.vectors, Trace.demands, Event.demand?, Demand.vector?, hn, Act.pure_apply]

/-- **A tool and a recorder that follows it agree**, and the tool is handed the
arguments for what the recorder keeps. -/
theorem Follows.agree (h : T.Follows S' R) (hS : Concord asked S S' R) :
    Agree asked (T.logged.driving (beside S)) S'.traced (InStep R) where
  toConcord := { beside_concord hS with }
  bridge serial c := (h.bridge_parallel serial c).mono fun hr _ => hr
  execute serial args := h.execute_parallel hS serial args

end Tool

end DeviceLink
