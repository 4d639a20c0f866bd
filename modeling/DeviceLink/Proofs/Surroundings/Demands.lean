import DeviceLink.Proofs.Surroundings.Parallel
import Mathlib.Data.List.Forall2
/-!
# Surroundings — what is demanded of others

Of all that is done the commands to the bridge, what is run through it and the
requests are what others see of a session: its demands. Two traces are alike
when the same was done in the same order and only some of what came of it
differs, for which nobody outside has to answer: why a bridge command failed,
whether a mapping was taken away, how a kill and waiting for a process turned
out, what was answered. Traces that are alike make the same demands, and in
surroundings that agree traces stay alike (`Agree.traced`).
-/

namespace DeviceLink

/-- Something that is demanded of the bridge or of an endpoint. -/
inductive Demand
  | command (serial : Option String) (command : BridgeCommand)
  | execute (serial : Option String) (arguments : List String)
  | request (url : Url)
  deriving DecidableEq, Repr

/-- What an event demanded. -/
def Event.demand? : Event → Option Demand
  | .bridge serial c _ => some (.command serial c)
  | .execute serial args _ => some (.execute serial args)
  | .get u _ => some (.request u)
  | _ => none

/-- What was demanded, the earliest first. -/
def Trace.demands (t : Trace) : List Demand := t.filterMap Event.demand?

@[simp] theorem Trace.demands_append (t t' : Trace) :
    Trace.demands (t ++ t') = t.demands ++ t'.demands := List.filterMap_append

/-! ## Traces that are alike -/

/-- The same was done, and what came of it is the same as far as it matters. -/
inductive Event.Alike : Event → Event → Prop
  | bridge (serial : Option String) {c : BridgeCommand} {r r' : Except BridgeError Unit} :
      (c.isRemoval = false → Concur r r') → Alike (.bridge serial c r) (.bridge serial c r')
  | execute (serial : Option String) (args : List String)
      {r r' : Except BridgeError RunningAgent} :
      Concur r r' → Alike (.execute serial args r) (.execute serial args r')
  | ended (p : RunningAgent) (r r' : Except IoError Unit) : Alike (.ended p r) (.ended p r')
  | kill (p : RunningAgent) (r r' : Except IoError Unit) : Alike (.kill p r) (.kill p r')
  | get (u : Url) (r r' : Except TransportFault Response) : Alike (.get u r) (.get u r')
  | listen (port : Port) {r r' : Except IoError Port} :
      Concur r r' → Alike (.listen port r) (.listen port r')
  | same (e : Event) : Alike e e

theorem Event.Alike.demand {e e' : Event} (h : e.Alike e') : e.demand? = e'.demand? := by
  cases h <;> rfl

/-- The same was done in the same order. -/
def Trace.Alike : Trace → Trace → Prop := List.Forall₂ Event.Alike

theorem Trace.Alike.demands {t t' : Trace} (h : t.Alike t') : t.demands = t'.demands := by
  induction h with
  | nil => rfl
  | cons he _ ih => simp only [Trace.demands, List.filterMap_cons, he.demand] at ih ⊢; rw [ih]

namespace Surroundings

variable {σ σ' : Type} {R : σ → σ' → Prop}

/-- States of a relation, with traces that are alike. -/
def WithTraces (R : σ → σ' → Prop) (x : σ × Trace) (x' : σ' × Trace) : Prop :=
  R x.1 x'.1 ∧ x.2.Alike x'.2

theorem noted_parallel {α α' : Type} {Q : α → α' → Prop} {act : StateM σ α}
    {act' : StateM σ' α'} {note : α → Trace} {note' : α' → Trace} (h : Act.Parallel R Q act act')
    (hn : ∀ {r r'}, Q r r' → (note r).Alike (note' r')) :
    Act.Parallel (WithTraces R) Q (noted act note) (noted act' note') := by
  rintro ⟨w, t⟩ ⟨w', t'⟩ ⟨hR, ht⟩
  obtain ⟨hq, hR⟩ := h hR
  exact ⟨hq, hR, List.rel_append ht (hn hq)⟩

/-- One event, the same in both. -/
theorem alike_one {e e' : Event} (h : e.Alike e') : Trace.Alike [e] [e'] := .cons h .nil

/-- What was found once it was there. -/
theorem alike_found {α : Type} (note : α → Event) {r r' : Option α} (h : r = r') :
    Trace.Alike (r.toList.map note) (r'.toList.map note) := by
  subst h
  cases r with
  | none => exact .nil
  | some a => exact alike_one (.same _)

variable {asked : Url → Prop} {S : Surroundings σ} {S' : Surroundings σ'}

theorem Concord.traced (h : Concord asked S S' R) :
    Concord asked S.traced S'.traced (WithTraces R) where
  told r x x' hx := ⟨h.told r hx.1, by simpa [Surroundings.traced, noted] using hx.2⟩
  told' r x x' hx := ⟨h.told' r hx.1, by simpa [Surroundings.traced, noted] using hx.2⟩
  isFile path := noted_parallel (h.isFile path) fun _ => .nil
  ended p := noted_parallel (h.ended p) fun {r r'} hr => by
    rcases r with _ | r <;> rcases r' with _ | r'
    · exact .nil
    · cases hr
    · cases hr
    · exact alike_one (.ended p r r')
  kill p := noted_parallel (h.kill p) fun _ => alike_one (.kill p _ _)
  get u := noted_parallel (h.get u) fun _ => alike_one (.get u _ _)
  listen port := noted_parallel (h.listen port) fun hr => alike_one (.listen port hr)
  arrival port := noted_parallel (h.arrival port) (alike_found _)
  unlisten port := noted_parallel (h.unlisten port) fun _ => alike_one (.same _)
  connect e := noted_parallel (h.connect e) fun hr => alike_one (by rw [hr]; exact .same _)
  readByte x := noted_parallel (h.readByte x) (alike_found _)
  close x := noted_parallel (h.close x) fun _ => alike_one (.same _)
  next limit := noted_parallel (h.next limit) (alike_found _)
  sleep time := noted_parallel (h.sleep time) fun _ => alike_one (.same _)
  horizon hx := h.horizon hx.1

/-- **In surroundings that agree traces stay alike.** -/
theorem Agree.traced (h : Agree asked S S' R) : Agree asked S.traced S'.traced (WithTraces R) where
  toConcord := h.toConcord.traced
  bridge serial c := noted_parallel (h.bridge serial c) fun hr => alike_one (.bridge serial hr)
  execute serial args := noted_parallel (h.execute serial args) fun hr =>
    alike_one (.execute serial args hr)

end Surroundings

end DeviceLink
