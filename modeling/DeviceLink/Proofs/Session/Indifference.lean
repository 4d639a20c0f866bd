import DeviceLink.Proofs.Session.Parallel
import DeviceLink.Proofs.Surroundings.Demands
/-!
# Sessions — cleanup does not matter

Whether something that was set up could be taken down again is told and not
acted on, and of a bridge command that failed only that it failed is. So two
runs of the same calls, in surroundings that differ in nothing else, demand the
same of the bridge and of the endpoint, go through the same phases and give the
same, but for the text of the errors of the bridge
(`cleanup_never_escalates`).
-/

namespace DeviceLink

open Surroundings

namespace Session

variable {σ σ' : Type} {S : Surroundings σ} {S' : Surroundings σ'} {R : σ → σ' → Prop}

/-- A URL that one of the deeds asks for, to start an agent. -/
def AskedBy (ds : List Deed) (u : Url) : Prop := ∃ d ∈ ds, d.Asks u

/-- The same session, and traces of the same acts, which make the same demands. -/
def LeftAlike (x : Session × σ × Trace) (x' : Session × σ' × Trace) : Prop :=
  x.1 = x'.1 ∧ x.2.2.Alike x'.2.2 ∧ x.2.2.demands = x'.2.2.demands

theorem LeftAlike.of {x : Session × σ × Trace} {x' : Session × σ' × Trace}
    (h : Beside Session (WithTraces R) x x') : LeftAlike x x' :=
  ⟨h.1, h.2.2, h.2.2.demands⟩

/-- **Cleanup never escalates, and why the bridge failed never matters.** The
same calls are made on a session in two surroundings that agree in which files
there are, which pushes, mappings and executions succeed, how the starts' own
requests are answered, which ports are free, when processes end and what peers
do. They may differ in everything else: whether a mapping is taken away, how a
request to stop is answered, how kills and waiting for a process turn out, what
is in the log, and why a bridge command failed. Then the same is given and the
same phases are gone through, the same session is left and the same was
demanded, in the same order; and so it is after the session is given up. -/
theorem cleanup_never_escalates (ds : List Deed) (h : Agree (AskedBy ds) S S' R) (w : σ) (w' : σ')
    (hw : R w w') (s : Session) :
    let y := play S.traced ds (s, w, [])
    let y' := play S'.traced ds (s, w', [])
    (List.Forall₂ Reply.Alike y.1 y'.1 ∧ LeftAlike y.2 y'.2) ∧
      Outcomes Halt.Alike Eq (destroy S.traced y.2).1 (destroy S'.traced y'.2).1 ∧
      LeftAlike (destroy S.traced y.2).2 (destroy S'.traced y'.2).2 := by
  have hx : Beside Session (WithTraces R) (s, w, []) (s, w', []) := ⟨rfl, hw, .nil⟩
  obtain ⟨hr, hy⟩ := play_parallel h.traced ds (fun d hd u hu => ⟨d, hd, hu⟩) hx
  obtain ⟨hd, hz⟩ := destroy_parallel h.toConcord.traced hy
  exact ⟨⟨hr, .of hy⟩, hd, .of hz⟩

/-- Barren surroundings where nothing can be taken down, and where nothing can be
run for another reason. -/
def spoiled : Surroundings Unit :=
  { Surroundings.barren with
    bridge := fun _ c => pure (if c.isRemoval then .error (.failed c.label none) else .ok ())
    execute := fun _ _ => pure (.error (.spawn BridgeCommand.executeLabel .nulInArgument)) }

/-- A start whose agent is not run, so that its tunnel is taken away again. -/
def futile : List Deed := [.start "agent" none { forceForward := true }, .stop]

theorem barren_agree (asked : Url → Prop) :
    Agree asked Surroundings.barren spoiled fun _ _ => True where
  told _ _ _ _ := trivial
  told' _ _ _ _ := trivial
  isFile _ _ _ _ := ⟨rfl, trivial⟩
  ended _ _ _ _ := ⟨rfl, trivial⟩
  kill _ _ _ _ := ⟨trivial, trivial⟩
  get _ _ _ _ := ⟨fun _ => rfl, trivial⟩
  listen _ _ _ _ := ⟨.ok rfl, trivial⟩
  arrival _ _ _ _ := ⟨rfl, trivial⟩
  unlisten _ _ _ _ := ⟨rfl, trivial⟩
  connect _ _ _ _ := ⟨rfl, trivial⟩
  readByte _ _ _ _ := ⟨rfl, trivial⟩
  close _ _ _ _ := ⟨rfl, trivial⟩
  next _ _ _ _ := ⟨rfl, trivial⟩
  sleep _ _ _ _ := ⟨rfl, trivial⟩
  horizon _ := rfl
  bridge _ c _ _ _ := by
    refine ⟨fun hc => ?_, trivial⟩
    simp only [spoiled, hc]
    exact .ok rfl
  execute _ _ _ _ _ := ⟨.error trivial, trivial⟩

/-- The removals differ in how they turn out, and the failed start in its text. -/
theorem spoiled_cleanup_never_escalates :
    (play Surroundings.barren.traced futile ({}, (), [])).2.2.2.demands.length = 4 ∧
      List.Forall₂ Reply.Alike (play Surroundings.barren.traced futile ({}, (), [])).1
        (play spoiled.traced futile ({}, (), [])).1 ∧
      LeftAlike (play Surroundings.barren.traced futile ({}, (), [])).2
        (play spoiled.traced futile ({}, (), [])).2 := by
  have h := cleanup_never_escalates futile (barren_agree (AskedBy futile)) () () trivial {}
  exact ⟨by decide, h.1⟩

end Session

end DeviceLink
