import DeviceLink.Proofs.Session.Deed
import DeviceLink.Proofs.Watcher.Steady
/-!
# Sessions — activated by requests

A session that activates its agents at an endpoint has nothing to do with the
bridge: there is no process to watch, no tunnel and no listener (`Unbridged`).
All it does is to send requests, and to connect where it connects. `Directly`
says what each call does to the last request: which are sent, in which order,
and what the call gives by what came of the first of them
(`direct_requests`).
-/

namespace DeviceLink

/-- Whether an event is on a connection that was asked for, or only time that
passed. -/
def Event.isApart : Event → Bool
  | .connect _ _ => true
  | .byte _ _ => true
  | .close _ => true
  | .passed _ => true
  | _ => false

/-- Whether an event is a request. -/
def Event.isGet : Event → Bool
  | .get _ _ => true
  | _ => false

/-! ## Connecting where nobody watches -/

namespace Vigil

variable {σ α κ : Type} {v v₁ : Vigil} {t : Trace}

/-- The vigil is untouched, and all that was done was on connections. -/
def Apart (v : Vigil) (t : Trace) (v' : Vigil) (y : σ × Trace) : Prop :=
  v' = v ∧ ∃ es, y.2 = t ++ es ∧ ∀ e ∈ es, e.isApart = true

theorem Apart.refl (v : Vigil) (w : σ) (t : Trace) : v.Apart t v (w, t) :=
  ⟨rfl, [], (List.append_nil t).symm, fun _ h => by cases h⟩

theorem Apart.trans {y y' : σ × Trace} {v' : Vigil} (h : v.Apart t v₁ y)
    (h' : v₁.Apart y.2 v' y') : v.Apart t v' y' := by
  obtain ⟨rfl, es, hes, hall⟩ := h
  obtain ⟨rfl, es', hes', hall'⟩ := h'
  exact ⟨rfl, es ++ es', by rw [hes', hes, List.append_assoc],
    List.forall_mem_append.2 ⟨hall, hall'⟩⟩

theorem Apart.beside {w : σ} {t' : Trace} (h : v.Apart t v₁ (w, t')) (w' : σ) {es : Trace}
    (hes : ∀ e ∈ es, e.isApart = true) : v.Apart t v₁ (w', t' ++ es) :=
  h.trans ⟨rfl, es, rfl, hes⟩

/-- One event more. -/
theorem Apart.one {w : σ} {t' : Trace} (h : v.Apart t v₁ (w, t')) (w' : σ) {e : Event}
    (he : e.isApart = true) : v.Apart t v₁ (w', t' ++ [e]) :=
  h.beside w' (List.forall_mem_singleton.2 he)

/-- Where nobody watches, nothing happens while an owner waits. -/
theorem steady_apart (hv : v.watcher = none) (t : Trace) :
    Steady (σ := σ) fun (_ : κ) v' y => v.Apart t v' y where
  watch h hx _ := by
    rw [h.1, hv] at hx
    cases hx
  pass w' times h := h.beside w' fun e he => by
    obtain ⟨n, -, rfl⟩ := List.mem_map.1 he
    rfl

end Vigil

namespace Connection

open Vigil

variable {σ : Type} (S : Surroundings σ) {v : Vigil}

theorem probeOnce_apart (hv : v.watcher = none) (e : Endpoint) (w : σ) (t : Trace) :
    v.Apart t (probeOnce S.traced e (v, w, t)).2.1 (probeOnce S.traced e (v, w, t)).2.2 := by
  have hconnect : S.traced.connect e (w, t) =
      ((S.connect e w).1, (S.connect e w).2, t ++ [.connect e (S.connect e w).1]) := rfl
  simp only [probeOnce, act, Trial.bind_apply, Trial.lift_apply, Vigil.outside_apply, hconnect]
  have h₁ := (Apart.refl v w t).one (S.connect e w).2 (e := .connect e (S.connect e w).1) rfl
  rcases hc : S.connect e w with ⟨cause | x, w₁⟩
  · rw [hc] at h₁
    exact h₁
  rw [hc] at h₁
  simp only [Trial.bind_apply, Trial.lift_apply]
  rcases hy : readByte S.traced x (v, w₁, t ++ [.connect e (.ok x)]) with ⟨r, v₂, w₂, t₂⟩
  have h₂ := (steady_apart hv t).readByte
    (fun w' b h => h.one w' (e := .byte x b) rfl) h₁ hy
  have hclosed : v.Apart t v₂ ((S.close x w₂).2, t₂ ++ [.close x]) :=
    h₂.one _ rfl
  simp only [hy]
  rcases r with _ | cause | _ | b
  · exact h₂
  · exact hclosed
  · exact hclosed
  · exact h₂

theorem attempts_apart (hv : v.watcher = none) (e : Endpoint) (policy : RetryPolicy)
    (left : Nat) (w : σ) (t : Trace) :
    v.Apart t (attempts S.traced e policy left (v, w, t)).2.1
      (attempts S.traced e policy left (v, w, t)).2.2 := by
  induction left generalizing w t with
  | zero => exact .refl v w t
  | succ left ih =>
      have h₁ := probeOnce_apart S hv e w t
      rw [attempts, Trial.bind_apply]
      generalize probeOnce S.traced e (v, w, t) = y at h₁ ⊢
      obtain ⟨r, v₁, w₁, t₁⟩ := y
      obtain rfl : v₁ = v := h₁.1
      rcases r with _ | _ | x
      · exact h₁
      · by_cases hl : (left != 0) = true
        · rw [if_pos hl]
          simp only [Trial.bind_apply, Trial.lift_apply]
          have h₂ := (steady_apart hv t₁).pause (k := ()) (Apart.refl v₁ w₁ t₁) policy.delay
            (S := S)
          generalize Vigil.pause S.traced policy.delay (v₁, w₁, t₁) = y at h₂ ⊢
          obtain ⟨⟨⟩, v₂, w₂, t₂⟩ := y
          obtain rfl : v₂ = v₁ := h₂.1
          exact (h₁.trans h₂).trans (ih w₂ t₂)
        · rw [if_neg hl]
          exact h₁.trans (ih w₁ t₁)
      · exact h₁

theorem connect_apart (e : Endpoint) (w : σ) (t : Trace) :
    v.Apart t (connect S.traced e (v, w, t)).2.1 (connect S.traced e (v, w, t)).2.2 := by
  have hconnect : S.traced.connect e (w, t) =
      ((S.connect e w).1, (S.connect e w).2, t ++ [.connect e (S.connect e w).1]) := rfl
  have h₁ := (Apart.refl v w t).one (S.connect e w).2 (e := .connect e (S.connect e w).1) rfl
  simp only [connect, act, Trial.bind_apply, Trial.lift_apply, Vigil.outside_apply, hconnect]
  generalize S.connect e w = y at h₁ ⊢
  rcases y with ⟨cause | x, w₁⟩
  · exact h₁
  · exact h₁

end Connection

/-! ## Sessions without a bridge -/

namespace Session

open Connection Vigil

variable {σ : Type}

/-- **A session that has nothing to do with the bridge.** -/
structure Unbridged (s : Session) : Prop where
  watcher : s.vigil.watcher = none
  listener : s.vigil.listener = none
  /-- An agent that runs was activated by a request. -/
  activated : s.phase = .started ∨ s.phase = .connected → s.activator.isSome = true

theorem unbridged_new : Unbridged {} := ⟨rfl, rfl, fun h => by rcases h with h | h <;> cases h⟩

theorem isApart_closes (x : Option Stream) : ∀ e ∈ closes x, e.isApart = true := by
  cases x <;> simp [closes, Event.isApart]

theorem connectProbed_apart (S : Surroundings σ) {s : Session} (hs : s.vigil.watcher = none)
    (e : Endpoint) (policy : RetryPolicy) (w : σ) (t : Trace) :
    ∃ r x y w' t', connectProbed S.traced e policy (s, w, t) =
        (r, { s with video := x, control := y }, w', t') ∧
      ∃ es, t' = t ++ es ∧ ∀ e ∈ es, e.isApart = true := by
  have h₁ := attempts_apart S hs e policy policy.tries.toNat w t
  simp only [connectProbed, Trial.bind_apply, attempt_apply, probe]
  generalize attempts S.traced e policy policy.tries.toNat (s.vigil, w, t) = z at h₁ ⊢
  obtain ⟨h | x, v₁, w₁, t₁⟩ := z
  · obtain ⟨rfl, hes⟩ := h₁
    exact ⟨_, s.video, s.control, w₁, t₁, rfl, hes⟩
  obtain rfl : v₁ = s.vigil := h₁.1
  obtain ⟨w₂, hset⟩ := setVideo_apply S x s w₁ t₁
  have h₂ := h₁.beside w₂ (isApart_closes s.video)
  have h₃ := connect_apart S (v := s.vigil) e w₂ (t₁ ++ closes s.video)
  simp only [hset, attempt_apply]
  generalize Connection.connect S.traced e (s.vigil, w₂, t₁ ++ closes s.video) = z at h₃ ⊢
  obtain ⟨h | y, v₃, w₃, t₃⟩ := z
  · obtain rfl : v₃ = s.vigil := h₃.1
    exact ⟨_, some x, s.control, w₃, t₃, rfl, (h₂.trans h₃).2⟩
  obtain rfl : v₃ = s.vigil := h₃.1
  obtain ⟨w₄, hset⟩ := setControl_apply S y { s with video := some x } w₃ t₃
  simp only [hset]
  exact ⟨_, some x, some y, w₄, _, rfl, ((h₂.trans h₃).beside w₄ (isApart_closes s.control)).2⟩

/-! ## The requests of a call -/

/-- **One request**, with what came of it: its URL is got once, unless none can
be. -/
inductive Exchange (a : Activator) (path : String) :
    Trace → Except TransportFault Response → Prop
  | sent {u : Url} (r : Except TransportFault Response) :
      a.target? path = some u → Exchange a path [.get u r] r
  | unsent (fault : TransportFault) : a.target? path = none → Exchange a path [] (.error fault)

theorem exchange_of_requests {a : Activator} {path : String} {es : Trace}
    {v : Except BridgeError Unit} (h : a.Requests path es v) :
    ∃ r, Exchange a path es r ∧ Activator.verdict (a.requestText path) r = v := by
  cases h with
  | sent r hu => exact ⟨r, .sent r hu, rfl⟩
  | unsent fault hu => exact ⟨_, .unsent fault hu, rfl⟩

theorem Exchange.isGet {a : Activator} {path : String} {es : Trace}
    {r : Except TransportFault Response} (h : Exchange a path es r) :
    ∀ e ∈ es, e.isGet = true := by
  cases h <;> simp [Event.isGet]

/-- A request that can be sent is sent once. -/
theorem Exchange.once {a : Activator} {path : String} {es : Trace}
    {r : Except TransportFault Response} (h : Exchange a path es r)
    (hu : (a.target? path).isSome = true) : es.countP Event.isGet = 1 := by
  cases h with
  | sent r _ => rfl
  | unsent fault hnone => rw [hnone] at hu; cases hu

/-- **What a call does to a session without a bridge**, with what it gives and
the phase it leaves. -/
inductive Directly (s : Session) : Deed → Trace → Reply → Phase → Prop
  /-- A start is refused in every phase but the first. -/
  | busy {artifact : String} {serial : Option String} {p : Params} :
      s.phase ≠ .idle →
      Directly s (.start artifact serial p) []
        (.error (.failed (.invalidState "start" s.phase))) s.phase
  /-- It is refused where the endpoint's URL is none. -/
  | badUrl {artifact : String} {serial : Option String} {p : Params} {url : String}
      {e : BridgeError} :
      s.phase = .idle → p.remoteUrl = some url → Activator.ofText url = .error e →
      Directly s (.start artifact serial p) []
        (.error (.failed (.config (.remoteUrl e.message)))) .idle
  /-- Any other sends one request, and no other if the answer is accepted. -/
  | accepted {artifact : String} {serial : Option String} {p : Params} {url : String}
      {a : Activator} {es : Trace} {r : Except TransportFault Response} :
      s.phase = .idle → p.remoteUrl = some url → Activator.ofText url = .ok a →
      Exchange a (Agent.startPath p) es r → Activator.answer r = .accepted →
      Directly s (.start artifact serial p) es (.ok none) .started
  /-- An answer that is not accepted is the endpoint's fault. A request to stop
  follows, and nothing depends on what comes of it. -/
  | violation {artifact : String} {serial : Option String} {p : Params} {url : String}
      {a : Activator} {es es' : Trace} {r r' : Except TransportFault Response}
      {e : BridgeError} :
      s.phase = .idle → p.remoteUrl = some url → Activator.ofText url = .ok a →
      Exchange a (Agent.startPath p) es r → Activator.answer r = .unacceptable →
      Activator.verdict (a.requestText (Agent.startPath p)) r = .error e →
      Exchange a Agent.stopPath es' r' →
      Directly s (.start artifact serial p) (es ++ es')
        (.error (.failed (.protocolViolation e))) .idle
  /-- So it does where there is no answer. -/
  | unreached {artifact : String} {serial : Option String} {p : Params} {url : String}
      {a : Activator} {es es' : Trace} {r r' : Except TransportFault Response}
      {e : BridgeError} :
      s.phase = .idle → p.remoteUrl = some url → Activator.ofText url = .ok a →
      Exchange a (Agent.startPath p) es r → Activator.answer r = .missing →
      Activator.verdict (a.requestText (Agent.startPath p)) r = .error e →
      Exchange a Agent.stopPath es' r' →
      Directly s (.start artifact serial p) (es ++ es') (.error (.failed (.spawn e))) .idle
  /-- A connect sends no request. -/
  | connect {es : Trace} {r : Reply} {phase : Phase} :
      (∀ e ∈ es, e.isApart = true) → Directly s .connect es r phase
  | take {r : Reply} : Directly s .take [] r s.phase
  /-- A stop of a session that runs closes its channels, sends one request and
  waits for nothing. -/
  | stop {a : Activator} {es : Trace} {r : Except TransportFault Response} :
      s.phase = .started ∨ s.phase = .connected → s.activator = some a →
      Exchange a Agent.stopPath es r →
      Directly s .stop (closes s.video ++ closes s.control ++ es) (.ok none) .stopped
  /-- Any other stop does nothing. -/
  | idle :
      s.phase ≠ .started → s.phase ≠ .connected → Directly s .stop [] (.ok none) s.phase

/-- Requests, and what is done on connections that were asked for. -/
def Event.isDirect (e : Event) : Bool := e.isGet || e.isApart

theorem Directly.events {s : Session} {d : Deed} {es : Trace} {r : Reply} {phase : Phase}
    (h : Directly s d es r phase) : ∀ e ∈ es, Event.isDirect e = true := by
  have hget : ∀ {a : Activator} {path : String} {es : Trace}
      {r : Except TransportFault Response}, Exchange a path es r →
      ∀ e ∈ es, Event.isDirect e = true := fun hex e he => by
    rw [Event.isDirect, hex.isGet e he, Bool.true_or]
  have hapart : ∀ {es : Trace}, (∀ e ∈ es, e.isApart = true) →
      ∀ e ∈ es, Event.isDirect e = true := fun hall e he => by
    rw [Event.isDirect, hall e he, Bool.or_true]
  cases h with
  | busy | badUrl | take | idle => simp
  | accepted _ _ _ hex _ => exact hget hex
  | violation _ _ _ hex _ _ hex' | unreached _ _ _ hex _ _ hex' =>
    exact List.forall_mem_append.2 ⟨hget hex, hget hex'⟩
  | connect hall => exact hapart hall
  | stop _ _ hex =>
    exact List.forall_mem_append.2 ⟨List.forall_mem_append.2
      ⟨hapart (isApart_closes s.video), hapart (isApart_closes s.control)⟩, hget hex⟩

/-! ## Each call -/

/-- What is to blame for an activation that failed is read off the answer. -/
theorem gives_error {a : Activator.Answer} {e : BridgeError} (h : a.Gives (.error e)) :
    a = .unacceptable ∧ SessionError.ofActivation e = .protocolViolation e ∨
      a = .missing ∧ SessionError.ofActivation e = .spawn e := by
  cases h with
  | unacceptable hv => exact .inl ⟨rfl, by rw [SessionError.ofActivation, hv]; rfl⟩
  | missing hv => exact .inr ⟨rfl, by rw [SessionError.ofActivation, hv]; rfl⟩

variable (S : Surroundings σ) {s : Session}

theorem start_directly (h : Unbridged s) (artifact : String) (serial : Option String)
    {p : Params} (hp : p.remoteUrl.isSome = true) (w : σ) (t : Trace) :
    ∃ es r s' w', (Deed.start artifact serial p).call S.traced (s, w, t) = (r, s', w', t ++ es) ∧
      Directly s (.start artifact serial p) es r s'.phase ∧ Unbridged s' := by
  obtain ⟨url, hp⟩ := Option.isSome_iff_exists.1 hp
  rw [Deed.call, Trial.map_apply]
  by_cases hs : s.phase = .idle
  · obtain ⟨es, w', r, hst, heq⟩ := start_starts S artifact serial p hs w t
    have hidle : Unbridged (s.unstarted p) :=
      ⟨h.watcher, h.listener, fun hphase => by rcases hphase with h | h <;> cases h⟩
    have hbridge : ∀ {q : Prop}, p.remoteUrl = none → q := fun hnone => by
      rw [hp] at hnone
      cases hnone
    rw [heq]
    cases hst with
    | badUrl hurl ha => exact ⟨_, _, _, w', rfl, .badUrl hs hurl ha, hidle⟩
    | @refused url a e v es es' hurl ha hreq hstop =>
      obtain ⟨r, hex, hv⟩ := exchange_of_requests hreq
      obtain ⟨r', hex', -⟩ := exchange_of_requests hstop
      have hgives := Activator.verdict_gives (a.requestText (Agent.startPath p)) r
      rw [hv] at hgives
      rcases gives_error hgives with ⟨hr, he⟩ | ⟨hr, he⟩
      · simp only [he]
        exact ⟨_, _, _, w', rfl, .violation hs hurl ha hex hr hv hex', hidle⟩
      · simp only [he]
        exact ⟨_, _, _, w', rfl, .unreached hs hurl ha hex hr hv hex', hidle⟩
    | @requested url a es hurl ha hreq =>
      obtain ⟨r, hex, hv⟩ := exchange_of_requests hreq
      have hr : Activator.answer r = .accepted := by
        have hgives := Activator.verdict_gives (a.requestText (Agent.startPath p)) r
        rw [hv] at hgives
        generalize Activator.answer r = v at hgives
        cases hgives
        rfl
      exact ⟨_, _, _, w', rfl, .accepted hs hurl ha hex hr, h.watcher, h.listener, fun _ => rfl⟩
    | noArtifact hnone | notPushed hnone | noTunnel hnone _ | notRun hnone _ | run hnone _ =>
      exact hbridge hnone
  · rw [start_refused S.traced artifact serial p hs]
    exact ⟨[], _, s, w, by rw [List.append_nil]; rfl, .busy hs, h⟩

theorem connect_directly (h : Unbridged s) (w : σ) (t : Trace) :
    ∃ es r s' w', Deed.connect.call S.traced (s, w, t) = (r, s', w', t ++ es) ∧
      Directly s .connect es r s'.phase ∧ Unbridged s' := by
  rw [Deed.call, Trial.map_apply]
  by_cases hs : s.phase = .started
  · have hactive := h.activated (.inl hs)
    obtain ⟨a, ha⟩ := Option.isSome_iff_exists.1 hactive
    have hchannels : connectChannels S.traced (s, w, t) =
        connectProbed S.traced ⟨a.hostName, s.portRange.first⟩ .direct (s, w, t) := by
      simp only [connectChannels, Trial.bind_apply, current_apply]
      rw [ha]
    obtain ⟨r, x, y, w', t', heq, es, rfl, hall⟩ :=
      connectProbed_apart S h.watcher ⟨a.hostName, s.portRange.first⟩ .direct w t
    rw [heq] at hchannels
    simp only [Session.connect, expect, Trial.bind_apply, current_apply, ne_eq, hs, not_true,
      if_false, Trial.pure_apply, hchannels]
    rcases r with e | ⟨⟩
    · exact ⟨es, _, _, w', rfl, .connect hall, h.watcher, h.listener, fun _ => hactive⟩
    · simp only [update_apply, outside_apply, Surroundings.traced_info]
      exact ⟨es, _, _, _, rfl, .connect hall, h.watcher, h.listener, fun _ => hactive⟩
  · rw [connect_refused S.traced hs]
    exact ⟨[], _, s, w, by rw [List.append_nil], .connect (by simp), h⟩

theorem stopListening_none {x : σ} (hl : s.vigil.listener = none) :
    stopListening S (s, x) = (.ok (), s, x) := by
  simp only [stopListening, Trial.bind_apply, current_apply, hl, Option.isSome_none,
    Bool.false_eq_true, if_false, Trial.pure_apply]

theorem awaitAgent_none {x : σ} (hw : s.vigil.watcher = none) :
    awaitAgent S (s, x) = (.ok (), s, x) := by
  simp only [awaitAgent, Trial.bind_apply, current_apply, hw, Option.isSome_none,
    Bool.false_eq_true, if_false, Trial.pure_apply]

/-- An activation by a request is undone by a request. -/
theorem deactivate_exchanges {a : Activator} (ha : s.activator = some a) (w : σ) (t : Trace) :
    ∃ es r w', deactivate S.traced (s, w, t) = (.ok (), s, w', t ++ es) ∧
      Exchange a Agent.stopPath es r := by
  obtain ⟨es, hes, hreq⟩ := a.request_requests S Agent.stopPath w t
  obtain ⟨r, hex, -⟩ := exchange_of_requests hreq
  simp only [deactivate, Trial.bind_apply, current_apply]
  rw [ha]
  simp only [outside_apply, Act.bind_apply, Trial.run_apply, Activator.stop]
  generalize a.request S.traced Agent.stopPath (w, t) = y at hes ⊢
  obtain ⟨v, w₁, t₁⟩ := y
  obtain rfl : t₁ = t ++ es := hes
  obtain ⟨w₂, hnote⟩ := noteStop_apply S v w₁ (t ++ es)
  exact ⟨es, r, w₂, by rw [hnote], hex⟩

theorem stop_directly (h : Unbridged s) (w : σ) (t : Trace) :
    ∃ es r s' w', Deed.stop.call S.traced (s, w, t) = (r, s', w', t ++ es) ∧
      Directly s .stop es r s'.phase ∧ Unbridged s' := by
  rw [Deed.call, Trial.map_apply]
  by_cases hs : s.phase = .started ∨ s.phase = .connected
  · obtain ⟨a, ha⟩ := Option.isSome_iff_exists.1 (h.activated hs)
    rw [stop_eq_tearDown S.traced hs]
    have hlisten := stopListening_none S.traced (s := { s with phase := .stopping })
      (x := (w, t)) h.listener
    obtain ⟨w₁, hclose⟩ := closeChannels_apply S { s with phase := .stopping } w t
    obtain ⟨es, r, w₂, hundo, hex⟩ := deactivate_exchanges S
      (s := { s with phase := .stopping, video := none, control := none }) ha w₁
      (t ++ (closes s.video ++ closes s.control))
    have hwait := awaitAgent_none S.traced
      (s := { s with phase := .stopping, video := none, control := none })
      (x := (w₂, t ++ (closes s.video ++ closes s.control) ++ es)) h.watcher
    dsimp only at hclose
    simp only [tearDown, Trial.bind_apply, update_apply, hlisten, hclose, hundo, hwait,
      outside_apply, Surroundings.traced_info]
    rw [List.append_assoc t]
    exact ⟨_, _, _, _, rfl, .stop hs ha hex, h.watcher, rfl,
      fun hp => by rcases hp with hp | hp <;> cases hp⟩
  · obtain ⟨w', heq⟩ := stop_other S (fun h => hs (.inl h)) (fun h => hs (.inr h)) w t
    rw [heq]
    exact ⟨[], _, s, w', by rw [List.append_nil]; rfl,
      .idle (fun h => hs (.inl h)) (fun h => hs (.inr h)), h⟩

/-- The call is not one that starts an agent through the bridge. -/
def Deed.IsDirect : Deed → Prop
  | .start _ _ p => p.remoteUrl.isSome = true
  | _ => True

theorem deed_directly (h : Unbridged s) {d : Deed} (hd : d.IsDirect) (w : σ) (t : Trace) :
    ∃ es r s' w', d.call S.traced (s, w, t) = (r, s', w', t ++ es) ∧
      Directly s d es r s'.phase ∧ Unbridged s' := by
  cases d with
  | start artifact serial p => exact start_directly S h artifact serial hd w t
  | connect => exact connect_directly S h w t
  | take =>
    obtain ⟨r, video, control, heq⟩ := takeChannels_apply s (w, t)
    rw [Deed.call, heq]
    refine ⟨[], .ok r, { s with video, control }, w, ?_, .take, h.watcher, h.listener, h.activated⟩
    rw [List.append_nil]
  | stop => exact stop_directly S h w t

/-- Any number of calls: the session keeps away from the bridge, and so does
everything it does. -/
theorem play_directly : ∀ (ds : List Deed), (∀ d ∈ ds, d.IsDirect) → ∀ {s : Session} (w : σ)
    {t : Trace}, Unbridged s → (∀ e ∈ t, Event.isDirect e = true) →
      Unbridged (play S.traced ds (s, w, t)).2.1 ∧
        ∀ e ∈ (play S.traced ds (s, w, t)).2.2.2, Event.isDirect e = true
  | [], _, _, _, _, hs, ht => ⟨hs, ht⟩
  | d :: ds, hds, s, w, t, hs, ht => by
      obtain ⟨es, r, s', w', heq, hdir, hs'⟩ :=
        deed_directly S hs (hds d List.mem_cons_self) w t
      rw [play_cons, heq]
      exact play_directly ds (fun d' hd' => hds d' (List.mem_cons_of_mem d hd')) w' hs'
        (List.forall_mem_append.2 ⟨ht, hdir.events⟩)

/-- **A session that is activated by requests.** It is only started at
endpoints. Whatever is done with it and whatever the endpoints answer, it never
turns to the bridge, watches no process and kills none; each call sends the
requests that `Directly` says and no others. So a start that is refused sends
none, and any other sends one and, exactly where it fails, one more; what it
gives was settled by the first. Of an answer nothing counts but its body: it is
accepted if it is complete, short enough and has the marker. -/
theorem direct_requests (w : σ) (ds : List Deed) (hds : ∀ d ∈ ds, d.IsDirect) {d : Deed}
    (hd : d.IsDirect) :
    let x := (play S.traced ds ({}, w, [])).2
    let y := d.call S.traced x
    (∀ e ∈ x.2.2, Event.isDirect e = true) ∧ x.1.vigil.watcher = none ∧
      (∃ es, y.2.2.2 = x.2.2 ++ es ∧ Directly x.1 d es y.1 y.2.1.phase ∧
        ∀ artifact serial p url a, d = .start artifact serial p → x.1.phase = .idle →
          p.remoteUrl = some url → Activator.ofText url = .ok a →
          (a.target? (Agent.startPath p)).isSome → (a.target? Agent.stopPath).isSome →
          es.countP Event.isGet = if y.1.isOk then 1 else 2) ∧
      ∀ r : Response, Activator.answer (.ok r) = .accepted ↔
        r.chunks.flatten.length < Activator.bodyLimit ∧ r.complete = true ∧
          Activator.isMarked r.chunks.flatten = true := by
  obtain ⟨hx, hevents⟩ := play_directly S ds hds w (t := []) unbridged_new (by simp)
  generalize (play S.traced ds ({}, w, [])).2 = x at hx hevents
  obtain ⟨s, w', t⟩ := x
  obtain ⟨es, r, s', w'', heq, hdir, -⟩ := deed_directly S hx hd w' t
  refine ⟨hevents, hx.watcher, ⟨es, by rw [heq], by rw [heq]; exact hdir, ?_⟩,
    Activator.answer_accepted_iff⟩
  rintro artifact serial p url a rfl hidle hurl ha hstart hstop
  simp only [heq]
  -- The endpoint is the one of the parameters, whichever way the start went.
  have hsame : ∀ {url' : String} {a' : Activator}, p.remoteUrl = some url' →
      Activator.ofText url' = .ok a' → a' = a := by
    intro url' a' hurl' ha'
    rw [hurl] at hurl'
    cases hurl'
    rw [ha] at ha'
    cases ha'
    rfl
  have htwo : ∀ {es es' : Trace} {r r' : Except TransportFault Response} {a' : Activator},
      a' = a → Exchange a' (Agent.startPath p) es r → Exchange a' Agent.stopPath es' r' →
      (es ++ es').countP Event.isGet = 2 := by
    rintro es es' r r' a' rfl hex hex'
    rw [List.countP_append, hex.once hstart, hex'.once hstop]
  generalize s'.phase = phase at hdir
  cases hdir with
  | busy hs => exact absurd hidle hs
  | badUrl _ hurl' ha' =>
    rw [hurl] at hurl'
    cases hurl'
    rw [ha] at ha'
    cases ha'
  | accepted _ hurl' ha' hex _ =>
    obtain rfl := hsame hurl' ha'
    exact hex.once hstart
  | violation _ hurl' ha' hex _ _ hex' => exact htwo (hsame hurl' ha') hex hex'
  | unreached _ hurl' ha' hex _ _ hex' => exact htwo (hsame hurl' ha') hex hex'

/-- A session that is started at an endpoint, connected and stopped. -/
def remote : List Deed :=
  [.start "agent" none { remoteUrl := some "http://host/" }, .connect, .stop]

theorem remote_direct_requests :
    (∀ d ∈ remote, d.IsDirect) ∧ Deed.stop.IsDirect ∧
      (play Surroundings.barren.traced remote ({}, (), [])).2.1.vigil.watcher = none ∧
      ∃ es,
        (Deed.stop.call Surroundings.barren.traced
            (play Surroundings.barren.traced remote ({}, (), [])).2).2.2.2 =
          (play Surroundings.barren.traced remote ({}, (), [])).2.2.2 ++ es := by
  have hds : ∀ d ∈ remote, d.IsDirect := by simp [remote, Deed.IsDirect]
  obtain ⟨-, hwatcher, ⟨es, hes, -, -⟩, -⟩ :=
    direct_requests Surroundings.barren () remote hds (d := .stop) trivial
  exact ⟨hds, trivial, hwatcher, es, hes⟩

end Session

end DeviceLink
