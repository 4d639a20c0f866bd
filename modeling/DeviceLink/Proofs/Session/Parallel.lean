import DeviceLink.Proofs.Session.Deed
import DeviceLink.Proofs.Watcher.Parallel
/-!
# Sessions — in two surroundings that agree

A session that is used in the same way in two surroundings that agree fares
alike in both: every call gives the same, but for the text of an error of the
bridge, and leaves the same session. No call looks at why a bridge command
failed, and none at whether a mapping could be taken away, a stop request was
answered, or a process could be killed or waited for. There is one lemma for
each function a call is made of, and `play_parallel` for any number of calls.
-/

namespace DeviceLink

open Surroundings

/-! ## Errors that are alike -/

/-- The same up to the error of the bridge it wraps. -/
inductive TunnelError.Alike : TunnelError → TunnelError → Prop
  | command (label : String) (e e' : BridgeError) : Alike (.command label e) (.command label e')
  | same (e : TunnelError) : Alike e e

/-- The same up to the error of the bridge it wraps. -/
inductive SessionError.Alike : SessionError → SessionError → Prop
  | push (e e' : BridgeError) : Alike (.push e) (.push e')
  | spawn (e e' : BridgeError) : Alike (.spawn e) (.spawn e')
  | protocolViolation (e e' : BridgeError) : Alike (.protocolViolation e) (.protocolViolation e')
  | tunnel {e e' : TunnelError} : e.Alike e' → Alike (.tunnel e) (.tunnel e')
  | same (e : SessionError) : Alike e e

/-- The same up to the error of the bridge it wraps. -/
inductive Halt.Alike : Halt SessionError → Halt SessionError → Prop
  | failed {e e' : SessionError} : e.Alike e' → Alike (.failed e) (.failed e')
  | stuck : Alike .stuck .stuck

theorem Halt.Alike.refl (e : Halt SessionError) : e.Alike e := by
  cases e with
  | failed e => exact .failed (.same e)
  | stuck => exact .stuck

/-- The error of an activation says which of the two it was. -/
theorem SessionError.Alike.ofActivation {e e' : BridgeError}
    (h : e.isProtocolViolation = e'.isProtocolViolation) :
    (SessionError.ofActivation e).Alike (.ofActivation e') := by
  unfold SessionError.ofActivation
  rw [h]
  split
  · exact .protocolViolation e e'
  · exact .spawn e e'

variable {σ σ' : Type} {asked : Url → Prop} {S : Surroundings σ} {S' : Surroundings σ'}
variable {R : σ → σ' → Prop}

/-! ## Tunnels -/

namespace Tunnel

variable (serial : Option String) (range : PortRange)

theorem disable_parallel (h : Agree asked S S' R) (t : Tunnel) :
    Act.Parallel R Eq (t.disable S serial) (t.disable S' serial) := by
  refine .bind (h.bridge serial t.removal) fun {r r'} _ => ?_
  rcases r with e | ⟨⟩ <;> rcases r' with e' | ⟨⟩
  · exact h.reports _ _
  · exact h.reports_left _
  · exact h.reports_right _
  · exact .pure rfl

theorem noteRetry_parallel (h : Agree asked S S' R) (purpose : PortUse) (port : Port)
    (rest : List Port) :
    Act.Parallel R Eq (noteRetry S purpose port rest) (noteRetry S' purpose port rest) := by
  cases rest with
  | nil => exact .pure rfl
  | cons next rest => exact h.reports _ _

theorem exhausted_parallel {α : Type} (h : Agree asked S S' R) (purpose : PortUse) :
    Trial.Parallel R TunnelError.Alike Eq
      (exhausted S purpose range : ExceptT TunnelError (StateM σ) α)
      (exhausted S' purpose range : ExceptT TunnelError (StateM σ') α) :=
  .bind (.lift (h.reports _ _)) fun _ => .throw (.same _)

theorem reverseFrom_parallel (h : Agree asked S S' R) (ports : List Port) :
    Trial.Parallel R TunnelError.Alike Eq (reverseFrom S serial range ports)
      (reverseFrom S' serial range ports) := by
  induction ports with
  | nil => exact exhausted_parallel range h .listen
  | cons port rest ih =>
      rw [reverseFrom, reverseFrom]
      refine .bind (.lift (h.bridge serial _)) fun hr => ?_
      cases hr rfl with
      | error _ => exact .throw (.command _ _ _)
      | ok _ =>
        refine .bind (.lift (Listener.bind_parallel h.toConcord port).run) fun hl => ?_
        cases hl with
        | ok hl => exact .bind (.lift (h.reports _ _)) fun _ => .pure (by rw [hl])
        | error _ =>
          exact .bind (.lift (disable_parallel serial h _)) fun _ =>
            .bind (.lift (noteRetry_parallel h _ _ _)) fun _ => ih

theorem forwardFrom_parallel (h : Agree asked S S' R) (ports : List Port) :
    Trial.Parallel R TunnelError.Alike Eq (forwardFrom S serial range ports)
      (forwardFrom S' serial range ports) := by
  induction ports with
  | nil => exact exhausted_parallel range h .forward
  | cons port rest ih =>
      rw [forwardFrom, forwardFrom]
      refine .bind (.lift (h.bridge serial _)) fun hr => ?_
      cases hr rfl with
      | ok _ => exact .bind (.lift (h.reports _ _)) fun _ => .pure rfl
      | error _ => exact .bind (.lift (noteRetry_parallel h _ _ _)) fun _ => ih

theorem enableForward_parallel (h : Agree asked S S' R) :
    Trial.Parallel R TunnelError.Alike Eq (enableForward S serial range)
      (enableForward S' serial range) :=
  .bind (forwardFrom_parallel serial range h _) fun ht => .pure (by rw [ht])

/-- **A tunnel is had in both or in neither**, of the same direction and on the
same port. -/
theorem enable_parallel (h : Agree asked S S' R) (forceForward : Bool) :
    Trial.Parallel R TunnelError.Alike Eq (enable S serial range forceForward)
      (enable S' serial range forceForward) := by
  unfold enable
  cases forceForward with
  | true => exact enableForward_parallel serial range h
  | false =>
    refine .bind (.lift (reverseFrom_parallel serial range h _).run) fun hr => ?_
    cases hr with
    | ok hv =>
      cases hv
      exact .pure rfl
    | error _ =>
      exact .bind (.lift (h.reports _ _)) fun _ => enableForward_parallel serial range h

end Tunnel

/-! ## Activation -/

namespace Activator

/-- The URL of an operation is among those that are asked for. -/
def Within (asked : Url → Prop) (a : Activator) (path : String) : Prop :=
  ∀ u, a.target? path = some u → asked u

/-- A request succeeds in both or in neither, and fails for the same reason. -/
abbrev Verdicts : Except BridgeError Unit → Except BridgeError Unit → Prop :=
  Outcomes (fun e e' => e.isProtocolViolation = e'.isProtocolViolation) Eq

theorem Answer.Gives.verdicts {v : Answer} {r r' : Except BridgeError Unit} (h : v.Gives r)
    (h' : v.Gives r') : Verdicts r r' := by
  cases h with
  | accepted => cases h'; exact .ok rfl
  | unacceptable hv => cases h' with | unacceptable hv' => exact .error (hv.trans hv'.symm)
  | missing hv => cases h' with | missing hv' => exact .error (hv.trans hv'.symm)

variable (a : Activator) (path : String)

theorem send_parallel (h : Concord asked S S' R) :
    Act.Parallel R (fun r r' => a.Within asked path → answer r = answer r')
      (send S (a.requestText path)) (send S' (a.requestText path)) := by
  intro w w' hR
  cases hu : a.target? path with
  | none =>
    obtain ⟨fault, hsend⟩ := send_of_no_target S hu w
    obtain ⟨fault', hsend'⟩ := send_of_no_target S' hu w'
    rw [hsend, hsend']
    exact ⟨fun _ => rfl, hR⟩
  | some u =>
    rw [send_of_target S hu, send_of_target S' hu]
    exact ⟨fun hin => (h.get u hR).1 (hin u hu), (h.get u hR).2⟩

theorem receive_parallel (h : Concord asked S S' R) (url : String)
    (r r' : Except TransportFault Response) {w : σ} {w' : σ'} (hR : R w w') :
    (answer r = answer r' → Verdicts (receive S url r w).1 (receive S' url r' w').1) ∧
      R (receive S url r w).2 (receive S' url r' w').2 := by
  have hverdict : answer r = answer r' → Verdicts (verdict url r) (verdict url r') := fun hr => by
    have hg := verdict_gives url r
    rw [hr] at hg
    exact hg.verdicts (verdict_gives url r')
  rcases receive_apply S url r w with hs | ⟨rep, hs⟩ <;>
    rcases receive_apply S' url r' w' with hs' | ⟨rep', hs'⟩ <;> rw [hs, hs']
  · exact ⟨hverdict, hR⟩
  · exact ⟨hverdict, h.told' rep' hR⟩
  · exact ⟨hverdict, h.told rep hR⟩
  · exact ⟨hverdict, h.told rep (h.told' rep' hR)⟩

/-- **A request**: what it comes to is the same if its URL is asked for. -/
theorem request_parallel (h : Concord asked S S' R) :
    Act.Parallel R (fun v v' => a.Within asked path → Verdicts v v')
      (a.request S path).run (a.request S' path).run := by
  intro w w' hR
  rw [Trial.run_apply, Trial.run_apply, request_apply, request_apply]
  have told : R (S.info (a.requestText path) w).2 (S'.info (a.requestText path) w').2 :=
    (h.reports _ _ hR).2
  have sent := send_parallel a path h told
  have judged := receive_parallel h (a.requestText path)
    (send S (a.requestText path) (S.info (a.requestText path) w).2).1
    (send S' (a.requestText path) (S'.info (a.requestText path) w').2).1 sent.2
  exact ⟨fun hin => judged.1 (sent.1 hin), judged.2⟩

end Activator

/-! ## The parts of a call -/

namespace Session

/-- **A call in both surroundings**, on the same session: it gives the same up
to the text of an error of the bridge, and leaves the same session. -/
abbrev Parallel {α : Type} (R : σ → σ' → Prop) (x : Call σ α) (x' : Call σ' α) : Prop :=
  Trial.Parallel (Beside Session R) Halt.Alike Eq x x'

theorem outside_parallel {α α' : Type} {Q : α → α' → Prop} {x : StateM σ α} {x' : StateM σ' α'}
    (hx : Act.Parallel R Q x x') :
    Trial.Parallel (Beside Session R) Halt.Alike Q (outside x) (outside x') := by
  rintro ⟨s, w⟩ ⟨_, w'⟩ ⟨rfl, hR⟩
  exact ⟨.ok (hx hR).1, rfl, (hx hR).2⟩

theorem waiting_parallel {α : Type} {x : StateM (Vigil × σ) (Option α)}
    {x' : StateM (Vigil × σ') (Option α)} (hx : Act.Parallel (Beside Vigil R) Eq x x') :
    Session.Parallel R (waiting x) (waiting x') := by
  rintro ⟨s, w⟩ ⟨_, w'⟩ ⟨rfl, hR⟩
  obtain ⟨hr, hv, hR⟩ := hx (Beside.of s.vigil hR)
  simp only [waiting_apply, ← hr]
  refine ⟨?_, ?_, hR⟩
  · cases (x (s.vigil, w)).1 with
    | none => exact .error .stuck
    | some a => exact .ok rfl
  · simp only [hv]

theorem attempt_parallel {α : Type} {x : Connection.Attempt σ α} {x' : Connection.Attempt σ' α}
    (hx : Connection.Parallel R x x') : Session.Parallel R (attempt x) (attempt x') := by
  rintro ⟨s, w⟩ ⟨_, w'⟩ ⟨rfl, hR⟩
  obtain ⟨hr, hv, hR⟩ := hx (Beside.of s.vigil hR)
  simp only [attempt_apply]
  refine ⟨?_, ?_, hR⟩
  · generalize (x (s.vigil, w)).1 = r at hr
    generalize (x' (s.vigil, w')).1 = r' at hr
    cases hr with
    | ok ha => exact .ok ha
    | error he => subst he; exact .error (.refl _)
  · simp only [hv]

theorem current_parallel : Session.Parallel R (current (σ := σ)) (current (σ := σ')) := by
  rintro ⟨s, w⟩ ⟨_, w'⟩ ⟨rfl, hR⟩
  exact ⟨.ok rfl, rfl, hR⟩

theorem update_parallel (f : Session → Session) :
    Session.Parallel R (update (σ := σ) f) (update (σ := σ') f) := by
  rintro ⟨s, w⟩ ⟨_, w'⟩ ⟨rfl, hR⟩
  exact ⟨.ok rfl, rfl, hR⟩

theorem fail_parallel {α α' : Type} {Q : α → α' → Prop} {e e' : SessionError} (h : e.Alike e') :
    Trial.Parallel (Beside Session R) Halt.Alike Q (fail e : Call σ α) (fail e' : Call σ' α') :=
  .throw (.failed h)

/-- Nothing is done after a failure. -/
theorem fail_bind_parallel {α α' β : Type} {e e' : SessionError} (h : e.Alike e')
    {f : α → Call σ β} {f' : α' → Call σ' β} :
    Session.Parallel R (fail e >>= f) (fail e' >>= f') :=
  .bind (Q := fun _ _ => False) (fail_parallel h) False.elim

theorem expect_parallel (operation : String) (phase : Phase) :
    Session.Parallel R (expect (σ := σ) operation phase) (expect (σ := σ') operation phase) := by
  refine .bind current_parallel fun hs => ?_
  subst hs
  split
  · exact fail_parallel (.same _)
  · exact .pure rfl

theorem closeStream_parallel (h : Concord asked S S' R) (x : Option Stream) :
    Session.Parallel R (closeStream S x) (closeStream S' x) := by
  cases x with
  | none => exact .pure rfl
  | some x => exact outside_parallel (h.close x)

theorem setVideo_parallel (h : Concord asked S S' R) (x : Stream) :
    Session.Parallel R (setVideo S x) (setVideo S' x) := by
  refine .bind current_parallel fun hs => ?_
  subst hs
  exact .bind (update_parallel _) fun _ => closeStream_parallel h _

theorem setControl_parallel (h : Concord asked S S' R) (x : Stream) :
    Session.Parallel R (setControl S x) (setControl S' x) := by
  refine .bind current_parallel fun hs => ?_
  subst hs
  exact .bind (update_parallel _) fun _ => closeStream_parallel h _

theorem noteStop_parallel (h : Concord asked S S' R) (r r' : Except BridgeError Unit) :
    Act.Parallel R Eq (noteStop S r) (noteStop S' r') := by
  rcases r with e | ⟨⟩ <;> rcases r' with e' | ⟨⟩
  · exact h.reports _ _
  · exact h.reports_left _
  · exact h.reports_right _
  · exact .pure rfl

/-- A request to stop, whatever comes of it. -/
theorem stopRequest_parallel (h : Concord asked S S' R) (a : Activator) :
    Act.Parallel R Eq (do noteStop S (← (a.stop S).run)) (do noteStop S' (← (a.stop S').run)) :=
  .bind (a.request_parallel Agent.stopPath h) fun _ => noteStop_parallel h _ _

/-! ## Starting -/

theorem startDirect_parallel (h : Concord asked S S' R) (url : String) (p : Params)
    (hu : ∀ a, Activator.ofText url = .ok a → a.Within asked (Agent.startPath p)) :
    Session.Parallel R (startDirect S url p) (startDirect S' url p) := by
  unfold startDirect
  rcases ha : Activator.ofText url with e | a
  · exact fail_parallel (.same _)
  refine .bind (outside_parallel (a.request_parallel (Agent.startPath p) h)) fun hr => ?_
  cases hr (hu a ha) with
  | error hv =>
    exact .bind (outside_parallel (stopRequest_parallel h a)) fun _ => fail_parallel (.ofActivation hv)
  | ok _ =>
    exact .bind (update_parallel _) fun _ => outside_parallel (h.reports _ _)

theorem pushArtifact_parallel (h : Agree asked S S' R) (artifact : String)
    (serial : Option String) :
    Session.Parallel R (pushArtifact S artifact serial) (pushArtifact S' artifact serial) := by
  refine .bind (outside_parallel (h.isFile artifact)) fun {found _} hf => ?_
  subst hf
  cases found with
  | true =>
    refine .bind (outside_parallel (h.bridge serial _)) fun hr => ?_
    cases hr rfl with
    | ok _ => exact .pure rfl
    | error _ => exact fail_parallel (.push _ _)
  | false =>
    exact .bind (outside_parallel (h.reports _ _)) fun _ => fail_bind_parallel (.same _)

theorem discardListener_parallel (h : Concord asked S S' R) (l : Option Listener) :
    Act.Parallel R Eq (discardListener S l) (discardListener S' l) := by
  cases l with
  | none => exact .pure rfl
  | some l =>
    exact fun _ _ hR => ⟨rfl, (Listener.Call.run_parallel Vigil.ownerId h hR .closing l).2.2⟩

theorem startBridge_parallel (h : Agree asked S S' R) (artifact : String)
    (serial : Option String) (p : Params) :
    Session.Parallel R (startBridge S artifact serial p) (startBridge S' artifact serial p) := by
  refine .bind (pushArtifact_parallel h artifact serial) fun _ =>
    .bind (outside_parallel (Tunnel.enable_parallel serial p.portRange h p.forceForward)) fun ht => ?_
  cases ht with
  | error he => exact fail_parallel (.tunnel he)
  | @ok tunnel _ ht =>
    subst ht
    obtain ⟨tunnel, listener⟩ := tunnel
    refine .bind (outside_parallel (h.execute serial _)) fun hr => ?_
    cases hr with
    | error _ =>
      exact .bind (outside_parallel (discardListener_parallel h.toConcord listener)) fun _ =>
        .bind (outside_parallel (tunnel.disable_parallel serial h)) fun _ =>
          fail_parallel (.spawn _ _)
    | ok hp =>
      subst hp
      exact .bind (outside_parallel (h.reports _ _)) fun _ => update_parallel _

/-- The URLs that a start asks for. -/
def Asks (p : Params) (u : Url) : Prop :=
  ∃ url a, p.remoteUrl = some url ∧ Activator.ofText url = .ok a ∧
    a.target? (Agent.startPath p) = some u

theorem start_parallel (h : Agree asked S S' R) (artifact : String) (serial : Option String)
    {p : Params} (hp : ∀ u, Asks p u → asked u) :
    Session.Parallel R (start S artifact serial p) (start S' artifact serial p) := by
  have activation : Session.Parallel R (activate S artifact serial p)
      (activate S' artifact serial p) := by
    unfold activate
    split
    · next url hu =>
        exact startDirect_parallel h.toConcord url p fun a ha u htarget => hp u ⟨url, a, hu, ha, htarget⟩
    · exact startBridge_parallel h artifact serial p
  refine .bind (expect_parallel _ _) fun _ => .bind (update_parallel _) fun _ =>
    .bind (.lift activation.run) fun hr => ?_
  cases hr with
  | ok _ => exact update_parallel _
  | error he =>
    cases he with
    | failed he =>
      exact .bind (outside_parallel (h.reports _ _)) fun _ =>
        .bind (update_parallel _) fun _ => fail_parallel he
    | stuck => exact .throw .stuck

/-! ## Connecting -/

theorem connectProbed_parallel (h : Concord asked S S' R) (e : Endpoint) (policy : RetryPolicy) :
    Session.Parallel R (connectProbed S e policy) (connectProbed S' e policy) := by
  refine .bind (attempt_parallel (Connection.probe_parallel h e policy)) fun hv => ?_
  subst hv
  refine .bind (setVideo_parallel h _) fun _ =>
    .bind (attempt_parallel (Connection.connect_parallel h e)) fun hc => ?_
  subst hc
  exact setControl_parallel h _

theorem connectAccepted_parallel (h : Concord asked S S' R) :
    Session.Parallel R (connectAccepted S) (connectAccepted S') := by
  refine .bind current_parallel fun hs => ?_
  subst hs
  refine .ite (fail_bind_parallel (.same _)) ?_
  refine .bind (attempt_parallel (Connection.accept_parallel h)) fun hv => ?_
  subst hv
  refine .bind (setVideo_parallel h _) fun _ =>
    .bind (attempt_parallel (Connection.accept_parallel h)) fun hc => ?_
  subst hc
  exact .bind (setControl_parallel h _) fun _ =>
    .discard (waiting_parallel (Vigil.closeListener_parallel h))

theorem connectChannels_parallel (h : Agree asked S S' R) :
    Session.Parallel R (connectChannels S) (connectChannels S') := by
  refine .bind current_parallel fun hs => ?_
  subst hs
  split
  · exact connectProbed_parallel h.toConcord _ _
  · exact fail_parallel (.same _)
  · split
    · exact connectAccepted_parallel h.toConcord
    · exact .bind (connectProbed_parallel h.toConcord _ _) fun _ =>
        .bind (outside_parallel (Tunnel.disable_parallel _ h _)) fun _ => update_parallel _

theorem connect_parallel (h : Agree asked S S' R) :
    Session.Parallel R (connect S) (connect S') :=
  .bind (expect_parallel _ _) fun _ => .bind (connectChannels_parallel h) fun _ =>
    .bind (update_parallel _) fun _ => outside_parallel (h.reports _ _)

theorem takeChannels_parallel :
    Session.Parallel R (takeChannels (σ := σ)) (takeChannels (σ := σ')) := by
  refine .bind current_parallel fun hs => ?_
  subst hs
  split
  · exact .bind (update_parallel _) fun _ => .pure rfl
  · exact .pure rfl

/-! ## Stopping -/

theorem closeChannels_parallel (h : Concord asked S S' R) :
    Session.Parallel R (closeChannels S) (closeChannels S') := by
  refine .bind current_parallel fun hs => ?_
  subst hs
  exact .bind (closeStream_parallel h _) fun _ => .bind (closeStream_parallel h _) fun _ =>
    update_parallel _

theorem deactivate_parallel (h : Agree asked S S' R) :
    Session.Parallel R (deactivate S) (deactivate S') := by
  refine .bind current_parallel fun {s _} hs => ?_
  subst hs
  split
  · exact outside_parallel (stopRequest_parallel h.toConcord _)
  · split
    · split
      · exact .bind (outside_parallel (Tunnel.disable_parallel _ h _)) fun _ => update_parallel _
      · exact update_parallel _
    · exact .pure rfl

theorem endWatch_parallel (h : Concord asked S S' R) (kill : Bool) :
    Session.Parallel R (endWatch S kill) (endWatch S' kill) := by
  unfold endWatch
  split
  · exact .bind (update_parallel _) fun _ => waiting_parallel (Vigil.join_parallel h)
  · exact waiting_parallel (Vigil.join_parallel h)

theorem stopListening_parallel (h : Concord asked S S' R) :
    Session.Parallel R (stopListening S) (stopListening S') := by
  refine .bind current_parallel fun hs => ?_
  subst hs
  split
  · exact .discard (waiting_parallel (Vigil.closeListener_parallel h))
  · exact .pure rfl

theorem awaitAgent_parallel (h : Concord asked S S' R) :
    Session.Parallel R (awaitAgent S) (awaitAgent S') := by
  refine .bind current_parallel fun hs => ?_
  subst hs
  split
  · refine .bind (waiting_parallel
      ((Vigil.awaitTermination_parallel h watchdogDelay).map (congrArg some))) fun {ended _} he => ?_
    subst he
    cases ended with
    | true =>
      simp only [Bool.not_true, Bool.false_eq_true, if_false]
      exact endWatch_parallel h _
    | false => exact .bind (outside_parallel (h.reports _ _)) fun _ => endWatch_parallel h _
  · exact .pure rfl

theorem stop_parallel (h : Agree asked S S' R) : Session.Parallel R (stop S) (stop S') := by
  have down : Session.Parallel R (tearDown S) (tearDown S') :=
    .bind (update_parallel _) fun _ => .bind (stopListening_parallel h.toConcord) fun _ =>
      .bind (closeChannels_parallel h.toConcord) fun _ => .bind (deactivate_parallel h) fun _ =>
        .bind (awaitAgent_parallel h.toConcord) fun _ => .bind (update_parallel _) fun _ =>
          outside_parallel (h.reports _ _)
  refine .bind current_parallel fun hs => ?_
  subst hs
  split
  · exact down
  · exact down
  · exact .pure rfl
  · exact outside_parallel (h.reports _ _)

theorem destroy_parallel (h : Concord asked S S' R) :
    Session.Parallel R (destroy S) (destroy S') := by
  have closed : Session.Parallel R (do closeChannels S; update fun s => { s with phase := .destroyed })
      (do closeChannels S'; update fun s => { s with phase := .destroyed }) :=
    .bind (closeChannels_parallel h) fun _ => update_parallel _
  refine .bind current_parallel fun {s _} hs => ?_
  subst hs
  have rest := Trial.Parallel.ite (c := s.vigil.watcher.isSome = true)
    (.bind (endWatch_parallel h true) fun _ => closed) closed
  exact .ite (.bind (outside_parallel (h.reports _ _)) fun _ => rest) rest

/-! ## Any number of calls -/

/-- The URLs that a deed asks for, to start an agent. -/
def Deed.Asks : Deed → Url → Prop
  | .start _ _ p, u => Session.Asks p u
  | _, _ => False

theorem Deed.call_parallel (h : Agree asked S S' R) (d : Deed) (hd : ∀ u, d.Asks u → asked u) :
    Session.Parallel R (d.call S) (d.call S') := by
  cases d with
  | start artifact serial p => exact (start_parallel h artifact serial hd).map fun _ => rfl
  | connect => exact (connect_parallel h).map fun _ => rfl
  | take => exact takeChannels_parallel
  | stop => exact (stop_parallel h).map fun _ => rfl

/-- The same reply up to the text of an error of the bridge, in the same phase. -/
def Reply.Alike (r r' : Reply × Phase) : Prop := Outcomes Halt.Alike Eq r.1 r'.1 ∧ r.2 = r'.2

/-- **Any number of calls**: the replies are alike, in the same phases, and the
session is left the same. -/
theorem play_parallel (h : Agree asked S S' R) :
    ∀ (ds : List Deed), (∀ d ∈ ds, ∀ u, d.Asks u → asked u) → ∀ {x : Session × σ}
      {x' : Session × σ'}, Beside Session R x x' →
      List.Forall₂ Reply.Alike (play S ds x).1 (play S' ds x').1 ∧
        Beside Session R (play S ds x).2 (play S' ds x').2
  | [], _, _, _, hx => ⟨.nil, hx⟩
  | d :: ds, hd, x, x', hx => by
      obtain ⟨hr, hy⟩ := Deed.call_parallel h d (hd d List.mem_cons_self) hx
      obtain ⟨hrs, hz⟩ := play_parallel h ds (fun d' hd' => hd d' (List.mem_cons_of_mem d hd')) hy
      rw [play_cons, play_cons]
      exact ⟨.cons ⟨hr, congrArg phase hy.1⟩ hrs, hz⟩

end Session

end DeviceLink
