import DeviceLink.Proofs.Session.Accounting
import DeviceLink.Proofs.Session.Linking
/-!
# Sessions — host and agent agree on who connects

The direction of a tunnel is found out while ports are tried. The agent is told
of it by one of its arguments, and the host reads it off the tunnel it keeps;
both have to mean the mapping that is in place (`Tunnel.Ready`). A start runs an
agent at most once and only behind a tunnel that is ready, and from then on
every connect goes the way that the agent was told (`host_and_agent_agree`).
-/

namespace DeviceLink

open Trace

/-- Whether something was run on a device. -/
def Event.isExecute : Event → Bool
  | .execute _ _ _ => true
  | _ => false

/-- The twelfth argument tells the agent whether to listen. -/
theorem Agent.shellCommand_forward (p : Params) (d : Direction) :
    (shellCommand p d.isForward)[11]? =
      some (match d with | .reverse => "false" | .forward => "true") := by
  cases d <;> rfl

namespace Tunnel

/-- The command that makes the mapping. -/
def mapping (u : Tunnel) : BridgeCommand :=
  match u.direction with
  | .reverse => .reverse Agent.socketName u.localPort
  | .forward => .forward u.localPort Agent.socketName

/-- **A tunnel is ready after some events**: its mapping was made, nothing was
mapped or removed since, and behind a reverse tunnel its port is listened on,
which is `bound`. -/
def Ready (u : Tunnel) (serial : Option String) (bound : Port) (es : Trace) : Prop :=
  ∃ a b, es = a ++ .bridge serial u.mapping (.ok ()) :: b ∧
    (∀ e ∈ b, e.isMapping = false ∧ e.removal? = none) ∧
    (u.direction = .reverse → .listen u.localPort (.ok bound) ∈ b)

variable {u : Tunnel} {serial : Option String} {bound : Port} {range : PortRange} {es es' : Trace}

theorem Ready.before (h : u.Ready serial bound es) (pre : Trace) :
    u.Ready serial bound (pre ++ es) := by
  obtain ⟨a, b, rfl, hb, hl⟩ := h
  exact ⟨pre ++ a, b, (List.append_assoc ..).symm, hb, hl⟩

/-- What maps and removes nothing leaves a tunnel ready. -/
theorem Ready.after (h : u.Ready serial bound es)
    (hes : ∀ e ∈ es', e.isMapping = false ∧ e.removal? = none) :
    u.Ready serial bound (es ++ es') := by
  obtain ⟨a, b, rfl, hb, hl⟩ := h
  refine ⟨a, b ++ es', by simp, fun e he => ?_, fun hd => List.mem_append_left _ (hl hd)⟩
  exact (List.mem_append.1 he).elim (hb e) (hes e)

/-- The tunnel a walk finds is ready, on one of the ports it was to try. -/
theorem ReverseWalk.ready {ports : List Port} {l : Listener}
    (h : ReverseWalk serial range ports es (.ok (u, l))) :
    u.localPort ∈ ports ∧ u.Ready serial l.bound es := by
  generalize hr : (Except.ok (u, l) : Except TunnelError (Tunnel × Listener)) = r at h
  induction h with
  | exhausted | refused => cases hr
  | bound =>
      cases hr
      exact ⟨List.mem_cons_self, [], _, rfl, by simp [Event.isMapping, Event.removal?], by simp⟩
  | busy _ ih =>
      obtain ⟨hport, hready⟩ := ih hr
      exact ⟨List.mem_cons_of_mem _ hport, hready.before _⟩

theorem ForwardWalk.ready {ports : List Port} (h : ForwardWalk serial range ports es (.ok u))
    (bound : Port) : u.localPort ∈ ports ∧ u.Ready serial bound es := by
  have hd := h.direction
  generalize hr : (Except.ok u : Except TunnelError Tunnel) = r at h
  induction h with
  | exhausted => cases hr
  | mapped => cases hr; exact ⟨List.mem_cons_self, [], [], rfl, by simp, fun hd => (nomatch hd)⟩
  | refused _ ih =>
      obtain ⟨hport, hready⟩ := ih hr
      exact ⟨List.mem_cons_of_mem _ hport, hready.before [_]⟩

/-- A tunnel that was enabled is ready, on a port of the range. -/
theorem Enabling.ready {forceForward : Bool} {l : Option Listener}
    (h : Enabling serial range forceForward es (.ok (u, l))) :
    range.contains u.localPort = true ∧ ∃ bound, u.Ready serial bound es ∧
      (u.direction = .reverse ∧ l = some { port := u.localPort, bound } ∨
        u.direction = .forward ∧ l = none) := by
  obtain ⟨k, rfl, hw⟩ | ⟨pre, es', rfl, rfl, hw⟩ := h.found
  · obtain ⟨hport, hready⟩ := hw.ready
    exact ⟨PortRange.mem_ports.1 hport, k.bound, hready,
      .inl ⟨hw.listener.1, congrArg some hw.listener.2⟩⟩
  · obtain ⟨hport, hready⟩ := hw.ready u.localPort
    exact ⟨PortRange.mem_ports.1 hport, u.localPort, hready.before pre,
      .inr ⟨hw.direction, rfl⟩⟩

end Tunnel

/-- An event goes through a tunnel: if a connection is made or taken by it, then
on the tunnel's port and from the side that the tunnel is for. -/
def Event.Through (u : Tunnel) (bound : Port) : Event → Prop
  | .connect e _ => u.direction = .forward ∧ e = .loopback u.localPort
  | .arrival port _ => u.direction = .reverse ∧ port = bound
  | _ => True

/-- The event of a connection opened through a tunnel. -/
def Tunnel.opens (u : Tunnel) (bound : Port) (x : Stream) : Event :=
  match u.direction with
  | .reverse => .arrival bound (.ok x)
  | .forward => .connect (.loopback u.localPort) (.ok x)

namespace Connection

variable {u : Tunnel} {bound : Port} {es : Trace}

theorem Accepted.through {r : Except (Halt SessionError) Stream}
    (h : Accepted bound es r) (hd : u.direction = .reverse) : ∀ e ∈ es, e.Through u bound := by
  have harrival : ∀ r, (Event.arrival bound r).Through u bound := fun _ => ⟨hd, rfl⟩
  cases h with
  | taken | lost => exact fun e he => List.mem_singleton.1 he ▸ harrival _
  | closed => exact fun e he => by cases he
  | stuck hes =>
      intro e he
      obtain ⟨r, rfl⟩ := hes e he
      exact harrival r

theorem Dialed.through {r : Except (Halt SessionError) Stream}
    (h : Dialed (.loopback u.localPort) es r) (hd : u.direction = .forward) :
    ∀ e ∈ es, e.Through u bound := by
  cases h with
  | refused | dialed => exact fun e he => List.mem_singleton.1 he ▸ ⟨hd, rfl⟩

theorem Probed.through {r : Except (Halt SessionError) (Option Stream)}
    (h : Probed (.loopback u.localPort) es r) (hd : u.direction = .forward) :
    ∀ e ∈ es, e.Through u bound := by
  cases h <;> simp [Event.Through, hd]

theorem Tried.through {n : Nat} {r : Except (Halt SessionError) Stream}
    (h : Tried (.loopback u.localPort) n es r) (hd : u.direction = .forward) :
    ∀ e ∈ es, e.Through u bound := by
  induction h with
  | exhausted => exact fun e he => by cases he
  | live hp | silent hp => exact hp.through hd
  | vain hp _ ih => exact List.forall_mem_append.2 ⟨hp.through hd, ih⟩

end Connection

namespace Session

open Connection Vigil

variable {σ : Type} {S : Surroundings σ} {s : Session} {w : σ} {t : Trace}
variable {u : Tunnel} {bound : Port}

/-! ## The agent's side -/

/-- **An agent is run once at most**, behind a tunnel that is ready, and is told
the tunnel's direction. A start that succeeds keeps that tunnel. -/
theorem Starts.executes {artifact : String} {serial : Option String} {p : Params} {es : Trace}
    {r : Except SessionError Activated} (hp : p.remoteUrl = none)
    (h : Starts artifact serial p es r) :
    ((∀ e ∈ es, e.isExecute = false) ∧ ∀ a, r ≠ .ok a) ∨
      ∃ u bound pre post result, es = pre ++ ran serial p u result :: post ∧
        (∀ e ∈ pre ++ post, e.isExecute = false) ∧
        p.portRange.contains u.localPort = true ∧ u.Ready serial bound pre ∧
        ∀ a, r = .ok a → ∃ l process, a = .agent u l process ∧ result = .ok process ∧ post = [] ∧
          (u.direction = .reverse ∧ l = some { port := u.localPort, bound } ∨
            u.direction = .forward ∧ l = none) := by
  have hdirect : ∀ {url : String} {q : Prop}, p.remoteUrl = some url → q := by
    intro url q h
    rw [hp] at h
    cases h
  -- Nothing is run while ports are tried.
  have htried : ∀ {es : Trace} {r : Except TunnelError (Tunnel × Option Listener)},
      Tunnel.Enabling serial p.portRange p.forceForward es r → ∀ e ∈ es, e.isExecute = false :=
    fun hen => hen.forall_mem (fun _ _ _ => rfl) fun _ _ => rfl
  cases h with
  | badUrl h | refused h | requested h => exact hdirect h
  | noArtifact _ => exact .inl ⟨by simp, by simp⟩
  | notPushed _ => exact .inl ⟨by simp [Event.isExecute], by simp⟩
  | noTunnel _ hen => exact .inl ⟨List.forall_mem_cons.2 ⟨rfl, htried hen⟩, by simp⟩
  | @notRun u l e r es _ hen =>
      obtain ⟨hport, bound, hready, hl⟩ := hen.ready
      refine .inr ⟨u, bound, pushed artifact serial (.ok ()) :: es,
        l.toList.map (.unlisten ·.bound) ++ [.bridge serial u.removal r], .error e, by simp, ?_,
        hport, hready.before [_], by simp⟩
      have hlistener : ∀ e ∈ l.toList.map (Event.unlisten ·.bound), e.isExecute = false := by
        rintro e he
        obtain ⟨k, -, rfl⟩ := List.mem_map.1 he
        rfl
      exact List.forall_mem_append.2 ⟨List.forall_mem_cons.2 ⟨rfl, htried hen⟩,
        List.forall_mem_append.2 ⟨hlistener, by simp [Event.isExecute]⟩⟩
  | @run u l process es _ hen =>
      obtain ⟨hport, bound, hready, hl⟩ := hen.ready
      refine .inr ⟨u, bound, pushed artifact serial (.ok ()) :: es, [], .ok process, by simp, ?_,
        hport, hready.before [_], fun a ha => ?_⟩
      · rw [List.append_nil]
        exact List.forall_mem_cons.2 ⟨rfl, htried hen⟩
      · cases ha
        exact ⟨l, process, rfl, rfl, rfl, hl⟩

/-- There is one way to cut a list at the only entry of a kind. -/
theorem cut_unique {α : Type} {p : α → Bool} {a b a' b' : List α} {x x' : α}
    (h : a ++ x :: b = a' ++ x' :: b') (hab : ∀ y ∈ a ++ b, p y = false) (hx' : p x' = true) :
    a' = a ∧ x' = x := by
  have hno : ∀ {q : Prop}, x' ∈ a ++ b → q := by
    intro q hmem
    rw [hab x' hmem] at hx'
    cases hx'
  rcases List.append_eq_append_iff.1 h with ⟨c, rfl, hc⟩ | ⟨c, rfl, hc⟩
  · rcases c with _ | ⟨y, c⟩
    · exact ⟨List.append_nil a, (List.cons.inj hc).1.symm⟩
    · refine hno (List.mem_append_right _ ?_)
      rw [(List.cons.inj hc).2]
      exact List.mem_append_right _ List.mem_cons_self
  · rcases c with _ | ⟨y, c⟩
    · exact ⟨(List.append_nil a').symm, (List.cons.inj hc).1⟩
    · refine hno (List.mem_append_left _ (List.mem_append_right _ ?_))
      rw [(List.cons.inj hc).1]
      exact List.mem_cons_self

/-! ## The host's side -/

/-- **A session that was started behind a tunnel** holds it for good, and its
listener for as long as it may connect. -/
structure Carried (u : Tunnel) (bound : Port) (s : Session) : Prop where
  begun : s.phase ≠ .idle
  activator : s.activator = none
  tunnel : s.tunnel = some u
  sound : s.phase = .started → Sound s.vigil
  heard : s.phase = .started → u.direction = .reverse →
    s.vigil.listener.map (·.bound) = some bound

/-- All the traffic of two connections is what their ways have, and closes. -/
theorem Pairs.forall_mem {A B : Trace → Except (Halt SessionError) Stream → Prop}
    {P : Event → Prop} {old old' x y : Option Stream} {es : Trace}
    {r : Except (Halt SessionError) Unit} (h : Pairs A B old old' es r x y)
    (hA : ∀ {es r}, A es r → ∀ e ∈ es, P e) (hB : ∀ {es r}, B es r → ∀ e ∈ es, P e)
    (hclose : ∀ x, P (.close x)) : ∀ e ∈ es, P e := by
  have hcloses : ∀ (x : Option Stream), ∀ e ∈ closes x, P e := by
    rintro (_ | x) e he
    · cases he
    · rw [List.mem_singleton.1 he]; exact hclose x
  cases h with
  | noVideo ha => exact hA ha
  | noControl ha hb =>
      intro e he
      simp only [List.mem_append] at he
      rcases he with (he | he) | he
      · exact hA ha e he
      · exact hcloses old e he
      · exact hB hb e he
  | both ha hb _ =>
      intro e he
      simp only [List.mem_append] at he
      rcases he with ((he | he) | he) | he
      · exact hA ha e he
      · exact hcloses old e he
      · exact hB hb e he
      · exact hcloses old' e he

/-- The first connection is what two of them begin with. -/
theorem Pairs.first {A B : Trace → Except (Halt SessionError) Stream → Prop}
    {old old' x y : Option Stream} {es : Trace} {r : Except (Halt SessionError) Unit}
    (h : Pairs A B old old' es r x y) : ∃ es₁ es₂ r', es = es₁ ++ es₂ ∧ A es₁ r' := by
  cases h with
  | noVideo ha => exact ⟨_, [], _, (List.append_nil _).symm, ha⟩
  | noControl ha _ => exact ⟨_, _, _, List.append_assoc .., ha⟩
  | both ha _ _ => exact ⟨_, _, _, by rw [List.append_assoc, List.append_assoc], ha⟩

/-- Both channels were opened by a connect that went well. -/
theorem Pairs.opened {A B : Trace → Except (Halt SessionError) Stream → Prop}
    {f : Stream → Event} {old old' x y : Option Stream} {es : Trace}
    (h : Pairs A B old old' es (.ok ()) x y) (hA : ∀ {es x}, A es (.ok x) → f x ∈ es)
    (hB : ∀ {es x}, B es (.ok x) → f x ∈ es) :
    ∃ a b, x = some a ∧ y = some b ∧ f a ∈ es ∧ f b ∈ es := by
  cases h with
  | both ha hb _ =>
      refine ⟨_, _, rfl, rfl, ?_, ?_⟩
      · simp only [List.mem_append]; exact .inl (.inl (.inl (hA ha)))
      · simp only [List.mem_append]; exact .inl (.inr (hB hb))

/-- **What links a session goes through its tunnel.** -/
theorem Carried.linking {es : Trace} {r : Except (Halt SessionError) Unit} {x y : Option Stream}
    (h : Carried u bound s) (hs : s.phase = .started) (hl : Linking s es r x y) :
    (∀ e ∈ es, e.Through u bound) ∧
      (u.direction = .forward → ∃ r, .connect (.loopback u.localPort) r ∈ es) ∧
      (r = .ok () → ∃ a b, x = some a ∧ y = some b ∧ u.opens bound a ∈ es ∧
        u.opens bound b ∈ es) := by
  cases hl with
  | direct ha => rw [h.activator] at ha; cases ha
  | untunnelled _ hu => rw [h.tunnel] at hu; cases hu
  | unheard _ hu hd hl =>
      obtain rfl := Option.some.inj (hu.symm.trans h.tunnel)
      have hheard := h.heard hs hd
      rw [hl] at hheard
      cases hheard
  | @reverse u' l _ _ _ _ _ hu hd hl hp =>
      obtain rfl : u' = u := Option.some.inj (hu.symm.trans h.tunnel)
      have hbound : l.bound = bound := by
        have hheard := h.heard hs hd
        rw [hl] at hheard
        exact Option.some.inj hheard
      rw [hbound] at hp
      refine ⟨hp.forall_mem (fun ha => ha.through hd) (fun ha => ha.through hd) fun _ => trivial,
        fun hd' => ?_, ?_⟩
      · rw [hd] at hd'
        cases hd'
      · rintro rfl
        simp only [Tunnel.opens, hd]
        exact hp.opened (fun ha => ha.opened) fun ha => ha.opened
  | @forward u' _ _ _ _ _ hu hd hp =>
      obtain rfl : u' = u := Option.some.inj (hu.symm.trans h.tunnel)
      refine ⟨hp.forall_mem (fun ht => ht.through hd) (fun hc => hc.through hd) fun _ => trivial,
        fun _ => ?_, ?_⟩
      · obtain ⟨es₁, es₂, r', rfl, ht⟩ := hp.first
        rw [← Nat.succ_pred_eq_of_pos RetryPolicy.forward.tries_pos] at ht
        obtain ⟨r, hr⟩ := ht.begun
        exact ⟨r, List.mem_append_left _ hr⟩
      · rintro rfl
        simp only [Tunnel.opens, hd]
        exact hp.opened (fun ht => ht.opened) fun hc => hc.opened

/-- **A connect goes through a tunnel**: all it connects to or accepts is the
tunnel's, and so are both channels that are there if it goes well. A forward
tunnel is connected to in any case. -/
def Through (u : Tunnel) (bound : Port) (t : Trace)
    (z : Except (Halt SessionError) Unit × Session × σ × Trace) : Prop :=
  ∃ es, z.2.2.2 = t ++ es ∧ (∀ e ∈ es, e.Through u bound) ∧
    (u.direction = .forward → ∃ r, .connect (.loopback u.localPort) r ∈ es) ∧
    (z.1 = .ok () → ∃ x y, z.2.1.video = some x ∧ z.2.1.control = some y ∧
      u.opens bound x ∈ es ∧ u.opens bound y ∈ es)

theorem Carried.through (h : Carried u bound s) (hs : s.phase = .started) :
    Through u bound t (connect S.traced (s, w, t)) := by
  obtain ⟨_, ⟨es, hes, -, rfl⟩, hl⟩ := connect_conveys S (h.sound hs) hs w t
  obtain ⟨hthrough, hforward, hopened⟩ := h.linking hs hl
  have hmem : ∀ {e : Event}, e ∈ es.traffic → e ∈ es := fun he => (List.mem_filter.1 he).1
  refine ⟨es, hes, fun e he => ?_, fun hd => ?_, fun hr => ?_⟩
  · cases e with
    | arrival | connect => exact hthrough _ (List.mem_filter.2 ⟨he, rfl⟩)
    | _ => trivial
  · obtain ⟨r, hr⟩ := hforward hd
    exact ⟨r, hmem hr⟩
  · obtain ⟨x, y, hx, hy, hax, hay⟩ := hopened hr
    exact ⟨x, y, hx, hy, hmem hax, hmem hay⟩

/-- What a start leaves is carried from then on. -/
theorem carried_started {serial : Option String} {p : Params} {l : Option Listener}
    {process : RunningAgent} (ha : s.activator = none)
    (hl : u.direction = .reverse ∧ l = some { port := u.localPort, bound } ∨
      u.direction = .forward ∧ l = none) :
    Carried u bound (s.started serial p (.agent u l process)) := by
  refine ⟨fun h => (nomatch h), ha, rfl, fun _ => .of_new (fun k hk => ?_) fun x hx => ?_,
    fun _ hd => ?_⟩
  · obtain rfl : l = some k := hk
    rcases hl with ⟨-, hl⟩ | ⟨-, hl⟩ <;> cases hl
    rfl
  · cases hx
    rfl
  · rcases hl with ⟨-, rfl⟩ | ⟨hd', -⟩
    · rfl
    · rw [hd] at hd'
      cases hd'

theorem carried_connect (h : Carried u bound s) :
    Carried u bound (connect S.traced (s, w, t)).2.1 := by
  by_cases hs : s.phase = .started
  · obtain ⟨_, ⟨es, -, hk, -⟩, -⟩ := connect_conveys S (h.sound hs) hs w t
    obtain ⟨_, -, hc⟩ := connect_connects S hs w t
    generalize connect S.traced (s, w, t) = z at hk hc ⊢
    obtain ⟨r, s', x⟩ := z
    dsimp only at hk hc ⊢
    cases hc with
    | failed hl =>
        obtain ⟨-, hphase, -, ha, hu, -⟩ := hl.same
        refine ⟨by rw [hphase]; exact h.begun, ha.trans h.activator, hu.trans h.tunnel,
          fun _ => hk.sound (h.sound hs), fun _ hd => ?_⟩
        have hplace := congrArg (Option.map Prod.snd) hk.listener
        rw [Option.map_map, Option.map_map] at hplace
        exact hplace.trans (h.heard hs hd)
    | kept _ hl | unmapped _ _ _ hl =>
        obtain ⟨-, -, -, ha, hu, -⟩ := hl.same
        exact ⟨fun h => (nomatch h), ha.trans h.activator, hu.trans h.tunnel,
          fun h => (nomatch h), fun h => (nomatch h)⟩
  · rw [connect_refused S.traced hs]
    exact h

theorem carried_stop (h : Carried u bound s) : Carried u bound (stop S.traced (s, w, t)).2.1 := by
  by_cases hs : s.phase = .started ∨ s.phase = .connected
  · obtain ⟨_, -, hst⟩ := stop_stops S hs w t
    generalize (stop S.traced (s, w, t)).1 = r at hst
    generalize (stop S.traced (s, w, t)).2.1 = s' at hst ⊢
    cases hst <;>
      exact ⟨fun h => (nomatch h), h.activator, h.tunnel, fun h => (nomatch h),
        fun h => (nomatch h)⟩
  · obtain ⟨w', heq⟩ := stop_other S (fun h => hs (.inl h)) (fun h => hs (.inr h)) w t
    rw [heq]
    exact h

/-- **Every deed carries the tunnel on.** -/
theorem carried_deed (d : Deed) {x : Session × σ × Trace} (h : Carried u bound x.1) :
    Carried u bound (d.call S.traced x).2.1 := by
  obtain ⟨s, w, t⟩ := x
  cases d with
  | start artifact serial p =>
      rw [Deed.call, Trial.map_apply, start_refused S.traced artifact serial p h.begun]
      exact h
  | connect => rw [Deed.call, Trial.map_apply]; exact carried_connect h
  | take =>
      obtain ⟨r, video, control, heq⟩ := takeChannels_apply s (w, t)
      rw [Deed.call, heq]
      exact ⟨h.begun, h.activator, h.tunnel, h.sound, h.heard⟩
  | stop => rw [Deed.call, Trial.map_apply]; exact carried_stop h

/-- **Host and agent agree on who connects, where and when**, whatever the
bridge and the ports do. A start through the bridge runs an agent once at most,
with its parameters, and only behind a tunnel that is ready, of whose direction
it is told. If the start succeeds, the session's tunnel is that one for good,
and every connect goes through it. -/
theorem host_and_agent_agree {ds : List Deed} {replies : List (Reply × Phase)} {w' : σ}
    (h : play S.traced ds ({}, w, []) = (replies, s, w', t)) {artifact : String}
    {serial : Option String} {p : Params} (hp : p.remoteUrl = none) :
    ∃ es, (start S.traced artifact serial p (s, w', t)).2.2.2 = t ++ es ∧
      es.countP Event.isExecute ≤ 1 ∧
      (∀ pre serial' args r post, es = pre ++ .execute serial' args r :: post →
        ∃ (u : Tunnel) (bound : Port),
          p.portRange.contains u.localPort = true ∧ u.Ready serial bound pre ∧
          serial' = serial ∧ args = Agent.shellCommand p u.direction.isForward ∧
          args[11]? = some (match u.direction with | .reverse => "false" | .forward => "true")) ∧
      ((start S.traced artifact serial p (s, w', t)).1 = .ok () →
        ∃ (u : Tunnel) (bound : Port) (process : RunningAgent),
          p.portRange.contains u.localPort = true ∧ u.Ready serial bound es ∧
          ran serial p u (.ok process) ∈ es ∧
          ∀ ds' replies' s₁ w₁ t₁,
            play S.traced ds' (start S.traced artifact serial p (s, w', t)).2 =
              (replies', s₁, w₁, t₁) →
            s₁.direction = some u.direction ∧ s₁.localPort = some u.localPort ∧
            (s₁.phase = .started → Through u bound t₁ (connect S.traced (s₁, w₁, t₁)))) := by
  have hidle := (balanced_play S w ds).placed.idle
  rw [h] at hidle
  by_cases hs : s.phase = .idle
  swap
  · rw [start_refused S.traced artifact serial p hs]
    exact ⟨[], (List.append_nil t).symm, Nat.zero_le 1, fun pre _ _ _ _ hes => by simp at hes,
      fun hr => (nomatch hr)⟩
  obtain ⟨es, w₁, r, hst, heq⟩ := start_starts S artifact serial p hs w' t
  have htrace : (start S.traced artifact serial p (s, w', t)).2.2.2 = t ++ es := by
    rw [heq]
    cases r <;> rfl
  refine ⟨es, htrace, ?_⟩
  obtain ⟨hno, herror⟩ | ⟨u, bound, pre, post, result, rfl, hrest, hport, hready, hkept⟩ :=
    hst.executes hp
  · refine ⟨?_, fun pre serial' args r' post hes => ?_, fun hr => ?_⟩
    · rw [List.countP_eq_zero.2 fun e he => by rw [hno e he]; exact Bool.false_ne_true]
      exact Nat.zero_le 1
    · have hcontra := hno (.execute serial' args r') (by rw [hes]; simp)
      cases hcontra
    · rw [heq] at hr
      rcases r with e | a
      · cases hr
      · exact absurd rfl (herror a)
  · obtain ⟨hpre, hpost⟩ := List.forall_mem_append.1 hrest
    have hnone : ∀ {es : Trace}, (∀ e ∈ es, e.isExecute = false) →
        es.countP Event.isExecute = 0 := fun hno =>
      List.countP_eq_zero.2 fun e he => by rw [hno e he]; exact Bool.false_ne_true
    refine ⟨?_, fun pre' serial' args r' post' hes => ?_, fun hr => ?_⟩
    · exact Nat.le_of_eq (by
        rw [List.countP_append, List.countP_cons_of_pos rfl, hnone hpre, hnone hpost])
    · obtain ⟨rfl, hcall⟩ := cut_unique hes hrest rfl
      cases hcall
      exact ⟨u, bound, hport, hready, rfl, rfl, Agent.shellCommand_forward p u.direction⟩
    · rw [heq] at hr ⊢
      rcases r with e | a
      · cases hr
      obtain ⟨l, process, rfl, rfl, rfl, hl⟩ := hkept a rfl
      refine ⟨u, bound, process, hport, hready.after (by simp [Event.isMapping, Event.removal?]),
        by simp, fun ds' replies' s₁ w₂ t₁ hplay => ?_⟩
      have hcarried := play_keeps (P := fun x : Session × σ × Trace => Carried u bound x.1)
        (fun d _ h => carried_deed (S := S) d h) ds'
        (x := (s.started serial p (.agent u l process), w₁,
          t ++ (pre ++ [ran serial p u (.ok process)])))
        (carried_started (hidle hs).2 hl)
      dsimp only at hplay
      rw [hplay] at hcarried
      exact ⟨congrArg (Option.map Tunnel.direction) hcarried.tunnel,
        congrArg (Option.map Tunnel.localPort) hcarried.tunnel, hcarried.through⟩

/-- An agent that serves is run behind a reverse tunnel on the first port, and
connects through it. -/
theorem serving_host_and_agent_agree :
    let y := start Surroundings.serving.traced "agent" none {} ({}, {}, [])
    y.1 = .ok () ∧ ∃ (u : Tunnel) (bound : Port),
      u.Ready none bound y.2.2.2 ∧ y.2.1.direction = some u.direction ∧
        Through u bound y.2.2.2 (connect Surroundings.serving.traced y.2) ∧
        (connect Surroundings.serving.traced y.2).1 = .ok () := by
  intro y
  have hok : y.1 = .ok () := by decide +kernel
  obtain ⟨es, hes, -, -, h⟩ :=
    @host_and_agent_agree _ Surroundings.serving {} {} [] [] [] {} rfl "agent" none {} rfl
  obtain ⟨u, bound, process, -, hready, -, hplays⟩ := h hok
  obtain ⟨hd, -, hthrough⟩ := hplays [] [] y.2.1 y.2.2.1 y.2.2.2 rfl
  have htrace : y.2.2.2 = es := hes
  refine ⟨hok, u, bound, htrace ▸ hready, hd, hthrough (by decide +kernel), by decide +kernel⟩

end Session

end DeviceLink
