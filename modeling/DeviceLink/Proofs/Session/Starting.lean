import DeviceLink.Proofs.Activation.Answer
import DeviceLink.Proofs.Listener.Moves
import DeviceLink.Proofs.Tunnel.Walk
/-!
# Sessions — what a start does

Everything a start can do, with what comes of it: `Starts` lists the stages at
which it may stop and the acts on its way to each. `start_starts` says that
these are all, and that a start that fails leaves nothing of itself in the
session but the port range. It never waits, so it is never stuck.
-/

namespace DeviceLink

/-! ## Requests -/

namespace Activator

/-- **One request**, with its outcome: its URL is got once, unless none can be. -/
inductive Requests (a : Activator) (path : String) : Trace → Except BridgeError Unit → Prop
  | unsent (fault : TransportFault) :
      a.target? path = none →
      Requests a path [] (verdict (a.requestText path) (.error fault))
  | sent {u : Url} (r : Except TransportFault Response) :
      a.target? path = some u → Requests a path [.get u r] (verdict (a.requestText path) r)

variable {σ : Type} (S : Surroundings σ)

/-- What a request comes to is told and not done. -/
theorem receive_traced (url : String) (r : Except TransportFault Response) (w : σ) (t : Trace) :
    ∃ w', receive S.traced url r (w, t) = (verdict url r, w', t) := by
  rcases receive_apply S.traced url r (w, t) with h | ⟨report, h⟩
  · exact ⟨w, h⟩
  · rw [Surroundings.traced_report] at h
    exact ⟨_, h⟩

theorem request_requests (a : Activator) (path : String) (w : σ) (t : Trace) :
    t.Adds (Requests a path) (a.request S.traced path (w, t)) := by
  simp only [request_apply, Surroundings.traced_info]
  cases hu : a.target? path with
  | none =>
    obtain ⟨fault, hsend⟩ :=
      send_of_no_target S.traced hu ((S.info (a.requestText path) w).2, t)
    rw [hsend]
    obtain ⟨w', hr⟩ := receive_traced S (a.requestText path) (.error fault) _ t
    rw [hr]
    exact ⟨[], (List.append_nil t).symm, .unsent fault hu⟩
  | some u =>
    rw [send_of_target S.traced hu, Surroundings.traced_get]
    obtain ⟨w', hr⟩ := receive_traced S (a.requestText path) _ _ _
    rw [hr]
    exact ⟨_, rfl, .sent _ hu⟩

end Activator

/-! ## Listeners nobody else knows of -/

/-- A close of a new listener goes through: the port is not listened on then. -/
theorem Listener.run_closing_new {σ : Type} (S : Surroundings σ) (id : Nat) (port bound : Port)
    (w : σ) :
    Call.closing.run S id { port, bound } w =
      (.closed true, { port, bound, gate := true, shut := true, dropped := true },
        (S.unlisten bound w).2) := run_closing rfl S id w

namespace Session

/-! ## Activations -/

/-- What a start activated. -/
inductive Activated
  /-- An agent that listens, by a request. -/
  | request (a : Activator)
  /-- An agent behind a tunnel, as a process. -/
  | agent (t : Tunnel) (l : Option Listener) (process : RunningAgent)

/-- What a session keeps of an activation. -/
def Activated.keep : Activated → Session → Session
  | .request a, s =>
    { s with activator := some a, vigil := { s.vigil with terminated := true } }
  | .agent t l process, s =>
    { s with
      tunnel := some t
      tunnelEnabled := true
      vigil := { s.vigil with listener := l, watcher := some { process, guards := l.isSome } } }

/-- The event of an artifact pushed to the device. -/
abbrev pushed (artifact : String) (serial : Option String) (r : Except BridgeError Unit) : Event :=
  .bridge serial (.push artifact Agent.devicePath) r

/-- The event of an agent run on the device, to be reached through a tunnel. -/
abbrev ran (serial : Option String) (p : Params) (t : Tunnel)
    (r : Except BridgeError RunningAgent) : Event :=
  .execute serial (Agent.shellCommand p t.direction.isForward) r

/-- **A start**, by the stage it gets to. -/
inductive Starts (artifact : String) (serial : Option String) (p : Params) :
    Trace → Except SessionError Activated → Prop
  /-- The endpoint's URL is none. -/
  | badUrl {url : String} {e : BridgeError} :
      p.remoteUrl = some url → Activator.ofText url = .error e →
      Starts artifact serial p [] (.error (.config (.remoteUrl e.message)))
  /-- The endpoint refuses, and is asked to stop in any case. -/
  | refused {url : String} {a : Activator} {e : BridgeError} {v : Except BridgeError Unit}
      {es es' : Trace} :
      p.remoteUrl = some url → Activator.ofText url = .ok a →
      a.Requests (Agent.startPath p) es (.error e) → a.Requests Agent.stopPath es' v →
      Starts artifact serial p (es ++ es') (.error (.ofActivation e))
  | requested {url : String} {a : Activator} {es : Trace} :
      p.remoteUrl = some url → Activator.ofText url = .ok a →
      a.Requests (Agent.startPath p) es (.ok ()) →
      Starts artifact serial p es (.ok (.request a))
  /-- The artifact is no regular file. -/
  | noArtifact :
      p.remoteUrl = none → Starts artifact serial p [] (.error (.config (.artifact artifact)))
  | notPushed {e : BridgeError} :
      p.remoteUrl = none →
      Starts artifact serial p [pushed artifact serial (.error e)] (.error (.push e))
  | noTunnel {e : TunnelError} {es : Trace} :
      p.remoteUrl = none → Tunnel.Enabling serial p.portRange p.forceForward es (.error e) →
      Starts artifact serial p (pushed artifact serial (.ok ()) :: es) (.error (.tunnel e))
  /-- The agent is not run: its listener is closed and its tunnel removed. -/
  | notRun {t : Tunnel} {l : Option Listener} {e : BridgeError} {r : Except BridgeError Unit}
      {es : Trace} :
      p.remoteUrl = none → Tunnel.Enabling serial p.portRange p.forceForward es (.ok (t, l)) →
      Starts artifact serial p
        (pushed artifact serial (.ok ()) :: es ++ [ran serial p t (.error e)] ++
          l.toList.map (.unlisten ·.bound) ++ [.bridge serial t.removal r])
        (.error (.spawn e))
  | run {t : Tunnel} {l : Option Listener} {process : RunningAgent} {es : Trace} :
      p.remoteUrl = none → Tunnel.Enabling serial p.portRange p.forceForward es (.ok (t, l)) →
      Starts artifact serial p
        (pushed artifact serial (.ok ()) :: es ++ [ran serial p t (.ok process)])
        (.ok (.agent t l process))

variable {σ : Type} (S : Surroundings σ) (artifact : String) (serial : Option String) (p : Params)

/-- A call that adds events to the trace and keeps what it activated in the
session, or else leaves the session alone. -/
def Activates (t : Trace) (s : Session) (D : Trace → Except SessionError Activated → Prop)
    (y : Except (Halt SessionError) Unit × Session × σ × Trace) : Prop :=
  ∃ es r, y.2.2.2 = t ++ es ∧ D es r ∧
    y.1 = (match r with | .ok _ => .ok () | .error e => .error (.failed e)) ∧
    y.2.1 = (match r with | .ok a => a.keep s | .error _ => s)

theorem noteStop_apply (r : Except BridgeError Unit) (w : σ) (t : Trace) :
    ∃ w', noteStop S.traced r (w, t) = ((), w', t) := by
  cases r with
  | ok _ => exact ⟨w, rfl⟩
  | error _ => exact ⟨_, Surroundings.traced_warn S _ _ _⟩

theorem startDirect_starts {url : String} (hp : p.remoteUrl = some url) (s : Session) (w : σ)
    (t : Trace) :
    Activates t s (Starts artifact serial p) (startDirect S.traced url p (s, w, t)) := by
  rw [startDirect]
  rcases ha : Activator.ofText url with e | a
  · exact ⟨[], _, (List.append_nil t).symm, .badUrl hp ha, rfl, rfl⟩
  obtain ⟨es, hes, hreq⟩ := a.request_requests S (Agent.startPath p) w t
  simp only [Trial.bind_apply, outside_apply, Trial.run_apply, Activator.start]
  generalize a.request S.traced (Agent.startPath p) (w, t) = y at hes hreq ⊢
  obtain ⟨v, w₁, t₁⟩ := y
  obtain rfl : t₁ = t ++ es := hes
  rcases v with e | ⟨⟩
  · simp only [Trial.bind_apply, outside_apply, Act.bind_apply, Trial.run_apply, Activator.stop]
    obtain ⟨es', hes', hreq'⟩ := a.request_requests S Agent.stopPath w₁ (t ++ es)
    generalize a.request S.traced Agent.stopPath (w₁, t ++ es) = y at hes' hreq' ⊢
    obtain ⟨v', w₂, t₂⟩ := y
    obtain rfl : t₂ = t ++ es ++ es' := hes'
    obtain ⟨w₃, hn⟩ := noteStop_apply S v' w₂ (t ++ es ++ es')
    rw [hn]
    exact ⟨es ++ es', _, List.append_assoc .., .refused hp ha hreq hreq', rfl, rfl⟩
  · simp only [Trial.bind_apply, outside_apply, update_apply, Surroundings.traced_info]
    exact ⟨es, _, rfl, .requested hp ha hreq, rfl, rfl⟩

theorem pushArtifact_apply (s : Session) (w : σ) (t : Trace) :
    ∃ w', pushArtifact S.traced artifact serial (s, w, t) =
        (.error (.failed (.config (.artifact artifact))), s, w', t) ∨
      (∃ e, pushArtifact S.traced artifact serial (s, w, t) =
        (.error (.failed (.push e)), s, w', t ++ [pushed artifact serial (.error e)])) ∨
      pushArtifact S.traced artifact serial (s, w, t) =
        (.ok (), s, w', t ++ [pushed artifact serial (.ok ())]) := by
  simp only [pushArtifact, Trial.bind_apply, outside_apply, Surroundings.traced_isFile]
  rcases (S.isFile artifact w).1 with _ | _
  · simp only [Bool.not_false, if_true, Trial.bind_apply, outside_apply,
      Surroundings.traced_error, fail_apply]
    exact ⟨_, .inl rfl⟩
  · simp only [Bool.not_true, Bool.false_eq_true, if_false, Trial.bind_apply, outside_apply,
      Surroundings.traced_bridge]
    rcases (S.bridge serial (.push artifact Agent.devicePath) (S.isFile artifact w).2).1 with e | ⟨⟩
    · exact ⟨_, .inr (.inl ⟨e, rfl⟩)⟩
    · exact ⟨_, .inr (.inr rfl)⟩

theorem startBridge_starts (hp : p.remoteUrl = none) (s : Session) (w : σ) (t : Trace) :
    Activates t s (Starts artifact serial p)
      (startBridge S.traced artifact serial p (s, w, t)) := by
  simp only [startBridge, Trial.bind_apply]
  obtain ⟨w₁, h | ⟨e, h⟩ | h⟩ := pushArtifact_apply S artifact serial s w t
  · rw [h]
    exact ⟨[], _, (List.append_nil t).symm, .noArtifact hp, rfl, rfl⟩
  · rw [h]
    exact ⟨_, _, rfl, .notPushed hp, rfl, rfl⟩
  rw [h]
  simp only [outside_apply, Trial.run_apply]
  obtain ⟨es, hes, hen⟩ := Tunnel.enable_walks S serial p.portRange p.forceForward w₁
    (t ++ [pushed artifact serial (.ok ())])
  generalize Tunnel.enable S.traced serial p.portRange p.forceForward _ = y at hes hen ⊢
  obtain ⟨r, w₂, t₂⟩ := y
  obtain rfl : t₂ = t ++ [pushed artifact serial (.ok ())] ++ es := hes
  rcases r with e | ⟨tunnel, l⟩
  · exact ⟨_, _, List.append_assoc .., .noTunnel hp hen, rfl, rfl⟩
  simp only [Trial.bind_apply, outside_apply, Surroundings.traced_execute]
  generalize S.execute serial _ w₂ = y
  obtain ⟨r, w₃⟩ := y
  rcases r with e | process
  · -- The listener is given up first, then the mapping is removed.
    simp only [Trial.bind_apply, outside_apply]
    have hd : ∀ (w : σ) (t : Trace), ∃ w', discardListener S.traced l (w, t) =
        ((), w', t ++ l.toList.map (.unlisten ·.bound)) := by
      intro w t
      obtain ⟨-, bound, rfl⟩ | ⟨-, rfl⟩ := hen.listener
      · refine ⟨(S.unlisten bound w).2, ?_⟩
        simp only [discardListener, Listener.run_closing_new, Surroundings.traced_unlisten]
        rfl
      · exact ⟨w, by rw [Option.toList_none, List.map_nil, List.append_nil]; rfl⟩
    obtain ⟨w₄, hl⟩ := hd w₃ (t ++ [pushed artifact serial (.ok ())] ++ es ++
      [ran serial p tunnel (.error e)])
    rw [hl]
    obtain ⟨v, w₅, hv⟩ := Tunnel.disable_apply S serial tunnel w₄ (t ++
      [pushed artifact serial (.ok ())] ++ es ++ [ran serial p tunnel (.error e)] ++
      l.toList.map (.unlisten ·.bound))
    rw [hv]
    exact ⟨_, _, by simp, .notRun (r := v) hp hen, rfl, rfl⟩
  · simp only [Trial.bind_apply, outside_apply, update_apply, Surroundings.traced_info]
    exact ⟨_, _, by simp, .run hp hen, rfl, rfl⟩

theorem activate_starts (s : Session) (w : σ) (t : Trace) :
    Activates t s (Starts artifact serial p) (activate S.traced artifact serial p (s, w, t)) := by
  simp only [activate]
  rcases hp : p.remoteUrl with _ | url
  · exact startBridge_starts S artifact serial p hp s w t
  · exact startDirect_starts S artifact serial p hp s w t

/-- A session on which a start was tried in vain. -/
def unstarted (s : Session) (p : Params) : Session :=
  { s with phase := .idle, serial := none, portRange := p.portRange }

/-- A session that was started. -/
def started (s : Session) (serial : Option String) (p : Params) (a : Activated) : Session :=
  { a.keep { s with serial, portRange := p.portRange } with phase := .started }

/-- **All there is to a start.** -/
theorem start_starts {s : Session} (hs : s.phase = .idle) (w : σ) (t : Trace) :
    ∃ es w' r, Starts artifact serial p es r ∧
      start S.traced artifact serial p (s, w, t) = match r with
        | .ok a => (.ok (), s.started serial p a, w', t ++ es)
        | .error e => (.error (.failed e), s.unstarted p, w', t ++ es) := by
  obtain ⟨es, r, hes, hst, hr, hsess⟩ := activate_starts S artifact serial p
    { s with phase := .starting, serial, portRange := p.portRange } w t
  simp only [start, expect, conclude, Trial.bind_apply, current_apply, hs, ne_eq, not_true,
    if_false, Trial.pure_apply, update_apply, Trial.lift_apply, Trial.run_apply]
  generalize activate S.traced artifact serial p _ = y at hes hr hsess ⊢
  obtain ⟨v, s₁, w₁, t₁⟩ := y
  dsimp only at hes hr hsess
  subst hes hr hsess
  rcases r with e | a
  · simp only [Trial.bind_apply, outside_apply, update_apply, Surroundings.traced_error,
      fail_apply]
    exact ⟨es, _, .error e, hst, rfl⟩
  · exact ⟨es, w₁, .ok a, hst, by cases a <;> rfl⟩

/-- A start is refused where the session is not idle. -/
theorem start_refused {s : Session} (hs : s.phase ≠ .idle) (x : σ) :
    start S artifact serial p (s, x) =
      (.error (.failed (.invalidState "start" s.phase)), s, x) := by
  simp only [start, expect, Trial.bind_apply, current_apply, ne_eq, hs, not_false_eq_true, if_true,
    fail_apply]

end Session

end DeviceLink
