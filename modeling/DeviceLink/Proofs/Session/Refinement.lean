import DeviceLink.Proofs.Bridge.Tool
import DeviceLink.Proofs.Session.Indifference
/-!
# Sessions — driven by a tool

What is proved of a session whose bridge is a recorder holds of one whose
bridge is a program, for a session cannot tell the two apart: it looks at
whether a command succeeded and not at how it failed. And what the program is
told are the arguments for what the recorder keeps, from which everything that
was demanded can be read back (`tool_refines_recorder`).
-/

namespace DeviceLink

open Surroundings Trace

/-! ## What a session demands -/

/-- What is run through the bridge is an agent. -/
def Event.RunsAgent : Event → Prop
  | .execute _ args _ => ∃ p forward, args = Agent.shellCommand p forward
  | _ => True

theorem Event.RunsAgent.ofSession {e : Event} (h : e.RunsAgent) {d : Demand}
    (hd : e.demand? = some d) : d.OfSession := by
  cases e <;> cases hd
  case bridge => exact .command _ _
  case execute =>
    obtain ⟨p, forward, rfl⟩ := h
    exact .agent _ p forward
  case get => exact .request _

theorem Trace.Quiet.runsAgent {es : Trace} (h : Quiet es) : ∀ e ∈ es, e.RunsAgent := by
  intro e he
  have hq := h e he
  cases e
  case execute => cases hq
  all_goals trivial

namespace Session

variable {σ σ' : Type} {S : Surroundings σ} {S' : Surroundings σ'} {R : σ → σ' → Prop}

theorem requests_runsAgent {a : Activator} {path : String} {es : Trace}
    {v : Except BridgeError Unit} (h : a.Requests path es v) : ∀ e ∈ es, e.RunsAgent := by
  cases h with
  | unsent => simp
  | sent _ => simp [Event.RunsAgent]

theorem Starts.runsAgent {artifact : String} {serial : Option String} {p : Params} {es : Trace}
    {r : Except SessionError Activated} (h : Starts artifact serial p es r) :
    ∀ e ∈ es, e.RunsAgent := by
  have htunnel : ∀ {es : Trace} {r : Except TunnelError (Tunnel × Option Listener)},
      Tunnel.Enabling serial p.portRange p.forceForward es r → ∀ e ∈ es, e.RunsAgent :=
    fun hen => hen.forall_mem (fun _ _ _ => trivial) fun _ _ => trivial
  have hran : ∀ {t : Tunnel} {r : Except BridgeError RunningAgent},
      (ran serial p t r).RunsAgent := ⟨p, _, rfl⟩
  have hpushed : ∀ {r : Except BridgeError Unit}, (pushed artifact serial r).RunsAgent := trivial
  cases h with
  | badUrl | noArtifact => simp
  | refused _ _ hreq hstop =>
    exact List.forall_mem_append.2 ⟨requests_runsAgent hreq, requests_runsAgent hstop⟩
  | requested _ _ hreq => exact requests_runsAgent hreq
  | notPushed => exact List.forall_mem_singleton.2 hpushed
  | noTunnel _ hen => exact List.forall_mem_cons.2 ⟨hpushed, htunnel hen⟩
  | @notRun t l e r es _ hen =>
    have hlistener : ∀ e ∈ l.toList.map (Event.unlisten ·.bound), e.RunsAgent := by
      intro e he
      obtain ⟨k, -, rfl⟩ := List.mem_map.1 he
      trivial
    refine List.forall_mem_append.2 ⟨List.forall_mem_append.2 ⟨?_, hlistener⟩,
      List.forall_mem_singleton.2 trivial⟩
    exact List.forall_mem_append.2
      ⟨List.forall_mem_cons.2 ⟨hpushed, htunnel hen⟩, List.forall_mem_singleton.2 hran⟩
  | run _ hen =>
    exact List.forall_mem_append.2
      ⟨List.forall_mem_cons.2 ⟨hpushed, htunnel hen⟩, List.forall_mem_singleton.2 hran⟩

theorem Connects.runsAgent {s s' : Session} {es : Trace} {r : Except (Halt SessionError) Unit}
    (h : Connects s es r s') : ∀ e ∈ es, e.RunsAgent := by
  cases h with
  | failed hl => exact hl.same.1.runsAgent
  | kept _ hl => exact hl.same.1.runsAgent
  | unmapped _ _ _ hl =>
    exact List.forall_mem_append.2 ⟨hl.same.1.runsAgent, List.forall_mem_singleton.2 trivial⟩

theorem Stops.runsAgent {s s' : Session} {es : Trace} {r : Except (Halt SessionError) Unit}
    (h : Stops s es r s') : ∀ e ∈ es, e.RunsAgent := by
  have hundo : ∀ {es : Trace}, Undoes s es → ∀ e ∈ es, e.RunsAgent := by
    intro es hun
    cases hun with
    | requested _ hreq => exact requests_runsAgent hreq
    | removed => exact List.forall_mem_singleton.2 trivial
    | nothing => simp
  cases h with
  | stuckClosing hq => exact hq.runsAgent
  | stuckWaiting hq hun hq' =>
    exact List.forall_mem_append.2
      ⟨List.forall_mem_append.2 ⟨hq.runsAgent, hundo hun⟩, hq'.runsAgent⟩
  | stopped hq hun hq' _ _ =>
    exact List.forall_mem_append.2
      ⟨List.forall_mem_append.2 ⟨hq.runsAgent, hundo hun⟩, hq'.runsAgent⟩

/-- **All a session runs is an agent.** -/
theorem deed_runsAgent (d : Deed) {x : Session × σ × Trace} (h : ∀ e ∈ x.2.2, e.RunsAgent) :
    ∀ e ∈ (d.call S.traced x).2.2.2, e.RunsAgent := by
  obtain ⟨s, w, t⟩ := x
  cases d with
  | start artifact serial p =>
    rw [Deed.call, Trial.map_apply]
    by_cases hs : s.phase = .idle
    · obtain ⟨es, w', r, hst, heq⟩ := start_starts S artifact serial p hs w t
      rw [heq]
      cases r with
      | ok _ => exact List.forall_mem_append.2 ⟨h, hst.runsAgent⟩
      | error _ => exact List.forall_mem_append.2 ⟨h, hst.runsAgent⟩
    · rw [start_refused S.traced artifact serial p hs]
      exact h
  | connect =>
    rw [Deed.call, Trial.map_apply]
    by_cases hs : s.phase = .started
    · obtain ⟨es, hes, hc⟩ := connect_connects S hs w t
      rw [hes]
      exact List.forall_mem_append.2 ⟨h, hc.runsAgent⟩
    · rw [connect_refused S.traced hs]
      exact h
  | take =>
    obtain ⟨r, video, control, heq⟩ := takeChannels_apply s (w, t)
    rw [Deed.call, heq]
    exact h
  | stop =>
    rw [Deed.call, Trial.map_apply]
    by_cases hs : s.phase = .started ∨ s.phase = .connected
    · obtain ⟨es, hes, hst⟩ := stop_stops S hs w t
      rw [hes]
      exact List.forall_mem_append.2 ⟨h, hst.runsAgent⟩
    · obtain ⟨w', heq⟩ := stop_other S (fun h => hs (.inl h)) (fun h => hs (.inr h)) w t
      rw [heq]
      exact h

/-- Every demand of a session is one that a session makes. -/
theorem demands_ofSession (S : Surroundings σ) (ds : List Deed) (s : Session) (w : σ) :
    ∀ d ∈ (play S.traced ds (s, w, [])).2.2.2.demands, d.OfSession := by
  have h := play_keeps (S := S.traced)
    (P := fun x : Session × σ × Trace => ∀ e ∈ x.2.2, e.RunsAgent)
    (fun d _ h => deed_runsAgent d h) ds (x := (s, w, [])) (by simp)
  intro d hd
  obtain ⟨e, he, hde⟩ := List.mem_filterMap.1 hd
  exact (h e he).ofSession hde

/-- **A session driven by a tool refines one with a recorder for a bridge.** The
recorder follows the tool: each of its calls succeeds exactly when the tool
exits with zero or, to run an agent, when the tool can be started; everything
else fares alike. Then every call gives the same, but for the text of the errors
of the bridge, in the same phases, the same session is left, also where it is
given up, and the tool is handed the arguments for the recorded calls one after
the other, but for those that hold a NUL, which no program can be handed. From
the arguments for a demand of the session the demand can be read back. -/
theorem tool_refines_recorder {T : Tool σ} (ds : List Deed) (hT : T.Follows S' R)
    (hS : Concord (AskedBy ds) S S' R) {w : σ} {w' : σ'} (hw : R w w') (s : Session) :
    let y := play (T.logged.driving (Tool.beside S)) ds (s, w, [])
    let y' := play S'.traced ds (s, w', [])
    let z := destroy (T.logged.driving (Tool.beside S)) y.2
    let z' := destroy S'.traced y'.2
    (List.Forall₂ Reply.Alike y.1 y'.1 ∧ y.2.1 = y'.2.1 ∧
        y.2.2.2 = Demand.vectors y'.2.2.2.demands) ∧
      (Outcomes Halt.Alike Eq z.1 z'.1 ∧ z.2.1 = z'.2.1 ∧
        z.2.2.2 = Demand.vectors z'.2.2.2.demands) ∧
      (∀ d ∈ y'.2.2.2.demands, d.OfSession) ∧
      ∀ d d' : Demand, d.OfSession → d'.OfSession →
        ∀ v, d.vector? = some v → d'.vector? = some v → d = d' := by
  have hagree := hT.agree hS
  have hx : Beside Session (Tool.InStep R) (s, w, []) (s, w', []) := ⟨rfl, hw, rfl⟩
  obtain ⟨hr, hy⟩ := play_parallel hagree ds (fun d hd u hu => ⟨d, hd, hu⟩) hx
  obtain ⟨hd, hz⟩ := destroy_parallel hagree.toConcord hy
  exact ⟨⟨hr, hy.1, hy.2.2⟩, ⟨hd, hz.1, hz.2.2⟩, demands_ofSession S' ds s w',
    fun _ _ hd hd' _ hv hv' => Demand.vector_injective hd hd' hv hv'⟩

/-- A tool that does its work until an agent has connected, and that a signal
ends from then on. -/
def tiring : Tool Serving where
  run _ := fun s => (.ok (if s.connections = 0 then .code 0 else .signal 9), s)
  spawn _ := pure (.ok { handle := 0, pid := none })

/-- A recorder that follows it. -/
def keeper : Surroundings Serving :=
  { serving with
    bridge := fun serial c s =>
      (if Tool.holdsNul (BridgeCommand.forDevice serial c.arguments) = true ∨ s.connections ≠ 0
        then .error (.failed c.label none) else .ok (), s)
    execute := fun serial args =>
      pure (if Tool.holdsNul (BridgeCommand.forDevice serial args) = true
        then .error (.failed BridgeCommand.executeLabel none) else .ok { handle := 0, pid := none }) }

theorem tiring_follows : tiring.Follows keeper Eq where
  run serial c hn := by
    rintro s _ rfl
    by_cases hs : s.connections = 0
    · simp [tiring, keeper, hn, hs]
    · simp [tiring, keeper, hn, hs]
  notRun serial c hn := by
    rintro s _ rfl
    simp [keeper, hn]
  spawn serial args hn := by
    rintro s _ rfl
    simp only [tiring, keeper, hn, Bool.false_eq_true, if_false]
    exact ⟨.ok rfl, rfl⟩
  notSpawned serial args hn := by
    rintro s _ rfl
    simp [keeper, hn]

theorem serving_concord (asked : Url → Prop) : Concord asked serving keeper Eq where
  told _ _ _ h := h
  told' _ _ _ h := h
  isFile _ _ _ h := ⟨rfl, h⟩
  ended _ _ _ h := by subst h; exact ⟨rfl, rfl⟩
  kill _ _ _ h := by subst h; exact ⟨trivial, rfl⟩
  get _ _ _ h := ⟨fun _ => rfl, h⟩
  listen _ _ _ h := ⟨.ok rfl, h⟩
  arrival _ _ _ h := by subst h; exact ⟨rfl, rfl⟩
  unlisten _ _ _ h := ⟨rfl, h⟩
  connect _ _ _ h := by subst h; exact ⟨rfl, rfl⟩
  readByte _ _ _ h := ⟨rfl, h⟩
  close _ _ _ h := ⟨rfl, h⟩
  next _ _ _ h := ⟨rfl, h⟩
  sleep _ _ _ h := by subst h; exact ⟨rfl, rfl⟩
  horizon _ := rfl

/-- A session that starts on a device of a serial. -/
def tethered : List Deed := [.start "agent" (some "device") { forceForward := true }]

theorem tiring_refines_keeper :
    (play (tiring.logged.driving (Tool.beside serving)) tethered ({}, {}, [])).2.2.2 =
        Demand.vectors (play keeper.traced tethered ({}, {}, [])).2.2.2.demands ∧
      (play (tiring.logged.driving (Tool.beside serving)) tethered ({}, {}, [])).2.2.2[1]? =
        some ["-s", "device", "forward", "tcp:27183", "localabstract:scrcpy"] := by
  have h := tool_refines_recorder tethered tiring_follows (serving_concord (AskedBy tethered))
    (w := {}) rfl {}
  exact ⟨h.1.2.2, by decide⟩

end Session

end DeviceLink
