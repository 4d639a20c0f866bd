import DeviceLink.Proofs.Session.Order
import DeviceLink.Proofs.Watcher.Gate
/-!
# Sessions — no socket is lost

A session opens connections and listens on a port, and either may be let go at
many places: a probe in vain, a connection that takes the place of an older one,
a start that is undone, a stop, a watcher. `Kept` says where every socket is at
any time, whoever moves next: a connection that is open is held by the session,
at hand in a call or handed over, and a port that is listened on is the one of
the session's listener. Every step keeps it, and what follows for a session
between two calls, and for one that was taken down, is `sockets_accounted`.
-/

namespace DeviceLink

open Trace

/-! ## Sockets of a start -/

/-- A walk that finds a port listens on that port and on no other. -/
theorem Tunnel.ReverseWalk.bound_eq {serial : Option String} {range : PortRange}
    {ports : List Port} {es : Trace} {r : Except TunnelError (Tunnel × Listener)}
    (h : ReverseWalk serial range ports es r) :
    es.bound = (r.toOption.map (·.2.bound)).toList := by
  induction h with
  | exhausted | refused | bound => rfl
  | busy _ ih => exact ih

theorem Tunnel.ForwardWalk.bound_eq {serial : Option String} {range : PortRange}
    {ports : List Port} {es : Trace} {r : Except TunnelError Tunnel}
    (h : ForwardWalk serial range ports es r) : es.bound = [] := by
  induction h with
  | exhausted | mapped => rfl
  | refused _ ih => exact ih

theorem Tunnel.Enabling.bound_eq {serial : Option String} {range : PortRange}
    {forceForward : Bool} {es : Trace} {r : Except TunnelError (Tunnel × Option Listener)}
    (h : Enabling serial range forceForward es r) :
    es.bound = ((r.toOption.bind (·.2)).map (·.bound)).toList := by
  have hforward : ∀ {es : Trace} {r : Except TunnelError Tunnel},
      ForwardWalk serial range range.ports es r →
      es.bound = (((r.map (·, (none : Option Listener))).toOption.bind (·.2)).map
        (·.bound)).toList := by
    intro es r h
    rw [h.bound_eq]
    cases r <;> rfl
  cases h with
  | reverse hw => exact hw.bound_eq
  | fallback hw hf =>
      simp only [List.filterMap_append, hw.bound_eq]
      exact hforward hf
  | forward hf => exact hforward hf

/-- Nothing else is done to a socket while ports are tried. -/
theorem Tunnel.Enabling.sockets {serial : Option String} {range : PortRange} {forceForward : Bool}
    {es : Trace} {r : Except TunnelError (Tunnel × Option Listener)}
    (h : Enabling serial range forceForward es r) :
    es.opened = [] ∧ es.closed = [] ∧ es.freed = [] := by
  have hnone := h.forall_mem (P := fun e => e.opened? = none ∧ e.closed? = none ∧ e.freed? = none)
    (fun _ _ _ => ⟨rfl, rfl, rfl⟩) fun _ _ => ⟨rfl, rfl, rfl⟩
  exact ⟨List.filterMap_eq_nil_iff.2 fun e he => (hnone e he).1,
    List.filterMap_eq_nil_iff.2 fun e he => (hnone e he).2.1,
    List.filterMap_eq_nil_iff.2 fun e he => (hnone e he).2.2⟩

theorem Activator.Requests.socketless {a : Activator} {path : String} {es : Trace}
    {v : Except BridgeError Unit} (h : a.Requests path es v) : es.Socketless := by
  cases h <;> exact ⟨rfl, rfl, rfl, rfl⟩

namespace Session

variable {σ : Type} {S : Surroundings σ}

/-- The listener of what was activated. -/
def Activated.listener : Activated → Option Listener
  | .request _ => none
  | .agent _ l _ => l

/-- **The sockets of a start**: it opens no connection, and what it listens on
is given up or kept. -/
theorem Starts.sockets {artifact : String} {serial : Option String} {p : Params} {es : Trace}
    {r : Except SessionError Activated} (h : Starts artifact serial p es r) :
    es.opened = [] ∧ es.closed = [] ∧
      es.bound = es.freed ++ (r.toOption.bind (·.listener)).elim [] Listener.ports := by
  cases h with
  | badUrl _ _ | noArtifact _ | notPushed _ => exact ⟨rfl, rfl, rfl⟩
  | refused _ _ h h' =>
      obtain ⟨h₁, h₂, h₃, h₄⟩ := h.socketless
      obtain ⟨h₁', h₂', h₃', h₄'⟩ := h'.socketless
      simp only [List.filterMap_append, h₁, h₂, h₃, h₄, h₁', h₂', h₃', h₄']
      exact ⟨rfl, rfl, rfl⟩
  | requested _ _ h =>
      obtain ⟨h₁, h₂, h₃, h₄⟩ := h.socketless
      exact ⟨h₁, h₂, by rw [h₃, h₄]; rfl⟩
  | noTunnel _ h =>
      obtain ⟨h₁, h₂, h₃⟩ := h.sockets
      refine ⟨h₁, h₂, h.bound_eq.trans ?_⟩
      exact (List.append_nil _).symm.trans (congrArg (· ++ []) h₃.symm)
  | @notRun u l _ _ es _ h =>
      obtain ⟨h₁, h₂, h₃⟩ := h.sockets
      have hunlistened : ∀ l : Option Listener,
          Trace.opened (l.toList.map (.unlisten ·.bound)) = [] ∧
          Trace.closed (l.toList.map (.unlisten ·.bound)) = [] ∧
          Trace.bound (l.toList.map (.unlisten ·.bound)) = [] ∧
          Trace.freed (l.toList.map (.unlisten ·.bound)) = (l.map (·.bound)).toList := by
        rintro (_ | l) <;> exact ⟨rfl, rfl, rfl, rfl⟩
      obtain ⟨h₄, h₅, h₆, h₇⟩ := hunlistened l
      simp only [List.cons_append, List.filterMap_append, List.filterMap_cons, List.filterMap_nil,
        Event.opened?, Event.closed?, Event.bound?, Event.freed?, h.bound_eq, h₁, h₂, h₃, h₄, h₅,
        h₆, h₇]
      exact ⟨rfl, rfl, by simp [Except.toOption]⟩
  | @run u l _ es _ h =>
      obtain ⟨h₁, h₂, h₃⟩ := h.sockets
      -- The listener is a new one.
      have hports : (l.map (·.bound)).toList = l.elim [] Listener.ports := by
        obtain ⟨-, bound, rfl⟩ | ⟨-, rfl⟩ := h.listener <;> rfl
      simp only [List.cons_append, List.filterMap_append, List.filterMap_cons, List.filterMap_nil,
        Event.opened?, Event.closed?, Event.bound?, Event.freed?, h.bound_eq, h₁, h₂, h₃]
      exact ⟨rfl, rfl, by simpa [Except.toOption, Activated.listener] using hports⟩

/-- What a start shares with the watcher, of a session that shared nothing. -/
theorem Starts.tended {artifact : String} {serial : Option String} {p : Params} {es : Trace}
    {a : Activated} (h : Starts artifact serial p es (.ok a)) {s : Session}
    (hs : s.vigil.listener = none ∧ s.vigil.watcher = none) :
    Vigil.Tended (s.started serial p a).vigil 0 ∧
      (s.started serial p a).vigil.ports = a.listener.elim [] Listener.ports := by
  cases h with
  | requested _ _ _ =>
      refine ⟨.of_new (fun l hl => ?_) (fun x hx => ?_) fun hl => ?_, ?_⟩
      · cases hs.1.symm.trans hl
      · cases hs.2.symm.trans hx
      · cases (congrArg Option.isSome hs.1).symm.trans hl
      · exact congrArg (Option.elim · [] Listener.ports) hs.1
  | run _ hen =>
      refine ⟨.of_new (fun l hl => ?_) (fun x hx => ?_) fun hl => ⟨_, rfl, hl⟩, rfl⟩
      · obtain ⟨-, bound, rfl⟩ | ⟨-, rfl⟩ := hen.listener <;> cases hl
        exact ⟨rfl, rfl⟩
      · cases hx; rfl

/-! ## Sockets -/

namespace Place

/-- How many closes of the owner are on their way. -/
def pending : Place → Nat
  | .within (.calling _ c) => c.isPending.toNat
  | _ => 0

/-- The connection that the owner has at hand, and the session not yet. -/
def carried : Place → List Stream
  | .within (.calling _ c) => c.taken
  | .reading _ _ _ stream => [stream]
  | .found _ stream => [stream]
  | .dialed stream => [stream]
  | _ => []

end Place

/-- **No socket is lost**: what was opened and not closed is held, at hand or
handed over, and what is listened on is what the session's listener says. -/
structure Kept (g : Stage σ) : Prop where
  tended : Vigil.Tended g.session.vigil g.place.pending
  ports : g.world.2.LeavesBound g.session.vigil.ports
  streams : g.world.2.LeavesOpen (g.session.held ++ (g.place.carried ++ g.handed))

theorem kept_new (last : Except (Halt SessionError) Unit) (w : σ) :
    Kept (⟨{}, .free last, (w, []), []⟩ : Stage σ) :=
  ⟨.of_new (fun _ h => (nomatch h)) (fun _ h => (nomatch h)) fun h => (nomatch h), .nil, .nil⟩

/-- A call that leaves the vigil and the sockets as they were. -/
theorem Kept.of_es {s s' : Session} {p p' : Place} {x x' : σ × Trace} {es : Trace}
    {handed handed' : List Stream} (h : Kept (⟨s, p, x, handed⟩ : Stage σ))
    (hx : x'.2 = x.2 ++ es) (hv : s'.vigil = s.vigil) (hp : p'.pending = p.pending)
    (hbound : es.bound = []) (hfreed : es.freed = [])
    (hes : (s.held ++ (p.carried ++ handed) ++ es.opened).Perm
      (es.closed ++ (s'.held ++ (p'.carried ++ handed')))) :
    Kept (⟨s', p', x', handed'⟩ : Stage σ) := by
  refine ⟨?_, ?_, ?_⟩
  · change Vigil.Tended s'.vigil p'.pending
    rw [hv, hp]
    exact h.tended
  · change x'.2.LeavesBound s'.vigil.ports
    rw [hx, hv]
    exact h.ports.append (by rw [hbound, hfreed]; exact List.append_nil _)
  · change x'.2.LeavesOpen (s'.held ++ (p'.carried ++ handed'))
    rw [hx]
    exact h.streams.append hes

theorem Kept.start {s s' : Session} {last r : Except (Halt SessionError) Unit}
    {x x' : σ × Trace} {artifact : String} {serial : Option String} {p : Params}
    {handed : List Stream} (h : Kept (⟨s, .free last, x, handed⟩ : Stage σ))
    (ho : Orderly (⟨s, .free last, x, handed⟩ : Stage σ))
    (hr : Session.start S.traced artifact serial p (s, x) = (r, s', x')) :
    Kept (⟨s', .free r, x', handed⟩ : Stage σ) := by
  by_cases hs : s.phase = .idle
  swap
  · rw [start_refused S.traced _ _ _ hs] at hr
    cases hr
    exact ⟨h.tended, h.ports, h.streams⟩
  obtain ⟨w, t⟩ := x
  obtain ⟨es, w', v, hst, heq⟩ := start_starts S artifact serial p hs w t
  rw [heq] at hr
  obtain ⟨hopened, hclosed, hbound⟩ := hst.sockets
  have hstreams : (t ++ es).LeavesOpen (s.held ++ ([] ++ handed)) :=
    h.streams.append (by rw [hopened, hclosed]; exact .of_eq (List.append_nil _))
  -- Nothing was listened on before.
  have hnone : s.vigil.ports = [] := by rw [Vigil.ports, (ho.idle hs).1]; rfl
  have hbefore : t.LeavesBound s.vigil.ports := h.ports
  rw [hnone] at hbefore
  have hports := hbefore.append hbound
  rcases v with e | a
  · cases hr
    have hnow : (t ++ es).LeavesBound [] := hports
    rw [← hnone] at hnow
    exact ⟨h.tended, hnow, hstreams⟩
  · cases hr
    obtain ⟨htended, hlistens⟩ := hst.tended (ho.idle hs)
    have hnow : (t ++ es).LeavesBound (a.listener.elim [] Listener.ports) := hports
    rw [← hlistens] at hnow
    exact ⟨htended, hnow, by cases a <;> exact hstreams⟩

theorem sockets_closes (x : Option Stream) :
    (closes x).opened = [] ∧ (closes x).closed = x.toList ∧ (closes x).bound = [] ∧
      (closes x).freed = [] := by
  cases x <;> exact ⟨rfl, rfl, rfl, rfl⟩

/-- A new video connection takes its place, and the old one is closed. -/
theorem Kept.video {s s' : Session} {p p' : Place} {x x' : σ × Trace} {stream : Stream}
    {r : Except (Halt SessionError) Unit} {handed : List Stream}
    (h : Kept (⟨s, p, x, handed⟩ : Stage σ)) (hp : p.carried = [stream] ∧ p.pending = 0)
    (hp' : p'.carried = [] ∧ p'.pending = 0)
    (hr : setVideo S.traced stream (s, x) = (r, s', x')) :
    Kept (⟨s', p', x', handed⟩ : Stage σ) := by
  obtain ⟨rfl, hx⟩ := setVideo_gives hr
  obtain ⟨h₁, h₂, h₃, h₄⟩ := sockets_closes s.video
  refine h.of_es hx rfl (hp'.2.trans hp.2.symm) h₃ h₄ (List.perm_iff_count.2 fun y => ?_)
  rw [h₁, h₂, hp.1, hp'.1]
  simp only [held, List.count_append, List.count_nil, Option.toList_some]
  omega

theorem Kept.control {s s' : Session} {p p' : Place} {x x' : σ × Trace} {stream : Stream}
    {r : Except (Halt SessionError) Unit} {handed : List Stream}
    (h : Kept (⟨s, p, x, handed⟩ : Stage σ)) (hp : p.carried = [stream] ∧ p.pending = 0)
    (hp' : p'.carried = [] ∧ p'.pending = 0)
    (hr : setControl S.traced stream (s, x) = (r, s', x')) :
    Kept (⟨s', p', x', handed⟩ : Stage σ) := by
  obtain ⟨rfl, hx⟩ := setControl_gives hr
  obtain ⟨h₁, h₂, h₃, h₄⟩ := sockets_closes s.control
  refine h.of_es hx rfl (hp'.2.trans hp.2.symm) h₃ h₄ (List.perm_iff_count.2 fun y => ?_)
  rw [h₁, h₂, hp.1, hp'.1]
  simp only [held, List.count_append, List.count_nil, Option.toList_some]
  omega

/-- The channels that are held are closed. -/
theorem Kept.released {s s' : Session} {p p' : Place} {x x' : σ × Trace}
    {r : Except (Halt SessionError) Unit} {handed : List Stream}
    (h : Kept (⟨s, p, x, handed⟩ : Stage σ)) (hp : p.carried = [] ∧ p.pending = 0)
    (hp' : p'.carried = [] ∧ p'.pending = 0)
    (hr : closeChannels S.traced (s, x) = (r, s', x')) :
    Kept (⟨s', p', x', handed⟩ : Stage σ) := by
  obtain ⟨rfl, hx⟩ := closeChannels_gives hr
  obtain ⟨h₁, h₂, h₃, h₄⟩ := sockets_closes s.video
  obtain ⟨h₁', h₂', h₃', h₄'⟩ := sockets_closes s.control
  refine h.of_es hx rfl (hp'.2.trans hp.2.symm)
    (by simp only [List.filterMap_append, h₃, h₃']; rfl)
    (by simp only [List.filterMap_append, h₄, h₄']; rfl) (List.perm_iff_count.2 fun y => ?_)
  rw [hp.1, hp'.1]
  simp only [held, List.filterMap_append, h₁, h₂, h₁', h₂', List.count_append, List.count_nil,
    Option.toList_none]
  omega

/-- A call on the listener moves: it may accept a connection, and drop the
listener. -/
theorem Kept.call {s : Session} {e : Errand} {c c' : Listener.Call} {l l' : Listener}
    {x x' : σ × Trace} {handed : List Stream}
    (h : Kept (⟨s, .within (.calling e c), x, handed⟩ : Stage σ))
    (hl : s.vigil.listener = some l)
    (hm : Listener.Call.Does Vigil.ownerId c l x c' l' x') :
    Kept (⟨s.withListener l', .within (.calling e c'), x', handed⟩ : Stage σ) := by
  obtain ⟨w, t⟩ := x
  obtain ⟨w', t'⟩ := x'
  obtain ⟨es, hes, hclosed, htaken, hports⟩ := hm.sockets (h.tended.isClosing_of_owner hl)
  obtain rfl : t' = t ++ es := hes
  refine ⟨h.tended.advance hl hm, ?_, h.streams.append ?_⟩
  · refine h.ports.append ?_
    change s.vigil.ports ++ _ = _
    rw [Vigil.ports, hl]
    exact hports
  · rw [hclosed]
    refine List.perm_iff_count.2 fun y => ?_
    have hcount := congrArg (List.count y) htaken
    simp only [Place.carried, held, withListener, List.count_append, List.count_nil] at hcount ⊢
    omega

/-- **Every step of an owner with a reverse tunnel** keeps count of the
sockets. -/
theorem Kept.own {s s' : Session} {o o' : Owner} {x x' : σ × Trace} {handed : List Stream}
    (h : Kept (⟨s, .within o, x, handed⟩ : Stage σ))
    (ho : Orderly (⟨s, .within o, x, handed⟩ : Stage σ))
    (hs : Step S .owner ⟨s, o, x⟩ ⟨s', o', x'⟩) :
    Kept (⟨s', .within o', x', handed⟩ : Stage σ) := by
  cases hs with
  | start hr _ => exact h.start ho hr
  | connect _ _ | unheard _ _ | refused _ | unstopped _ _ | closed | told _ | connected =>
      exact ⟨h.tended, h.ports, h.streams⟩
  | call hl hm => exact h.call hl (Listener.Call.moves_does hm)
  | video hr => exact h.video ⟨rfl, rfl⟩ ⟨rfl, rfl⟩ hr
  | control hr => exact h.control ⟨rfl, rfl⟩ ⟨rfl, rfl⟩ hr
  | died _ hc =>
      rcases hc with rfl | ⟨cause, rfl⟩ <;> exact ⟨h.tended, h.ports, h.streams⟩
  | stop _ => split <;> exact ⟨h.tended, h.ports, h.streams⟩
  | release hr => exact h.released ⟨rfl, rfl⟩ ⟨rfl, rfl⟩ hr
  | deactivate hr =>
      obtain ⟨rfl, un, hx, hun⟩ := deactivate_gives hr
      obtain ⟨h₁, h₂, h₃, h₄⟩ : un.Socketless := by
        cases hun with
        | requested _ hreq => exact hreq.socketless
        | removed _ _ _ | nothing _ _ => exact ⟨rfl, rfl, rfl, rfl⟩
      split <;>
        exact h.of_es hx rfl rfl h₃ h₄ (by rw [h₁, h₂]; exact .of_eq (List.append_nil _))
  | expired _ => exact ⟨h.tended.askKill, h.ports, h.streams⟩
  | joined hover => exact ⟨h.tended.joined hover, h.ports, h.streams⟩
  | stopped =>
      -- The watcher is over, so there is nothing left to listen on.
      have hx : s.vigil.watcher = none := ho.alone (.inr rfl)
      have hports := h.ports
      rw [h.tended.ports_eq_nil hx] at hports
      refine ⟨.of_new (fun _ h => (nomatch h)) (fun x h => ?_) (fun h => nomatch h), hports,
        h.streams⟩
      cases hx.symm.trans h

/-- A step in search of an agent opens a connection, closes one that is not
served, or does nothing to a socket. -/
theorem Kept.seek {s : Session} {p p' : Place} {x x' : σ × Trace} {handed : List Stream}
    (h : Kept (⟨s, p, x, handed⟩ : Stage σ)) (hs : Seek S p x p' x') :
    Kept (⟨s, p', x', handed⟩ : Stage σ) := by
  cases hs with
  | refused hc | undialed hc =>
      exact h.of_es (Surroundings.connect_gives hc) rfl rfl rfl rfl (.of_eq (List.append_nil _))
  | opened hc | dialed hc =>
      refine h.of_es (Surroundings.connect_gives hc) rfl rfl rfl rfl
        (List.perm_iff_count.2 fun y => ?_)
      simp only [Place.carried, Event.opened?, Event.closed?, List.filterMap_cons,
        List.filterMap_nil, List.count_append, List.count_nil]
      omega
  | silent hb | live hb =>
      exact h.of_es (Surroundings.readByte?_gives hb) rfl rfl rfl rfl (.of_eq (List.append_nil _))
  | @dead _ _ _ stream found x x' hb _ =>
      have hclose : (S.traced.close stream x').2.2 =
          x.2 ++ [.byte stream found, .close stream] := by
        rw [Surroundings.traced_close, Surroundings.readByte?_gives hb, List.append_assoc]
        rfl
      refine h.of_es hclose rfl rfl rfl rfl (List.perm_iff_count.2 fun y => ?_)
      simp only [Place.carried, Event.opened?, Event.closed?, List.filterMap_cons,
        List.filterMap_nil, List.count_append, List.count_nil]
      omega
  | again | exhausted => exact ⟨h.tended, h.ports, h.streams⟩

/-- **Every step keeps count of the sockets.** -/
theorem Kept.step {g g' : Stage σ} (h : Kept g) (ho : Orderly g) {who : Party}
    (hs : Progress S who g g') : Kept g' := by
  cases hs with
  | own hs => exact h.own ho hs
  | start hr => exact h.start ho hr
  | connect _ _ | pathless _ _ _ | connected _ => exact ⟨h.tended, h.ports, h.streams⟩
  | seek hs => exact h.seek hs
  | video hr => exact h.video ⟨rfl, rfl⟩ ⟨rfl, rfl⟩ hr
  | control hr => exact h.control ⟨rfl, rfl⟩ ⟨rfl, rfl⟩ hr
  | @unmapped s u x x' handed _ _ hd =>
      obtain ⟨w, t⟩ := x
      obtain ⟨r, w', heq⟩ := Tunnel.disable_apply S s.serial u w t
      cases heq.symm.trans hd
      exact h.of_es rfl rfl rfl rfl rfl (.of_eq (List.append_nil _))
  | @take s _ x _ _ _ handed hr =>
      rcases takeChannels_gives s x with heq | ⟨a, b, ha, hb, heq⟩
      · cases heq.symm.trans hr
        refine ⟨h.tended, h.ports, ?_⟩
        change x.2.LeavesOpen (s.held ++ ([] ++ (handed ++ [])))
        rw [List.append_nil]
        exact h.streams
      · cases heq.symm.trans hr
        refine ⟨h.tended, h.ports, h.streams.trans
          (List.Perm.append_left _ (List.perm_iff_count.2 fun y => ?_))⟩
        simp only [Place.carried, held, handedOver, ha, hb, List.count_append, List.count_nil,
          List.count_cons, Option.toList_some, Option.toList_none, Option.elim_some]
        omega
  | leave => split <;> exact ⟨h.tended.askKill, h.ports, h.streams⟩
  | left hover => exact ⟨h.tended.joined hover, h.ports, h.streams⟩
  | @part _ s' _ x' _ handed hr =>
      have hreleased : Kept (⟨s', .free (.ok ()), x', handed⟩ : Stage σ) :=
        h.released ⟨rfl, rfl⟩ ⟨rfl, rfl⟩ hr
      exact ⟨hreleased.tended, hreleased.ports, hreleased.streams⟩
  | @watch s p x x' _ handed hm =>
      obtain ⟨y, hy, hdoes⟩ := Vigil.moves_does hm
      obtain ⟨w, t⟩ := x
      obtain ⟨w', t'⟩ := x'
      obtain ⟨es, hes, hopened, hclosed, hports⟩ := h.tended.watch_sockets hy hdoes
      obtain rfl : t' = t ++ es := hes
      refine ⟨h.tended.watch hy hdoes, h.ports.append hports, h.streams.append ?_⟩
      rw [hopened, hclosed]
      exact .of_eq (List.append_nil _)
  | elapse _ times => exact ⟨h.tended, h.ports.pass times, h.streams.pass times⟩

theorem Kept.course {g g' : Stage σ} (h : Kept g) (ho : Orderly g) (hc : Course S g g') :
    Kept g' := by
  induction hc with
  | refl => exact h
  | tail hc hs ih =>
      obtain ⟨who, hs⟩ := hs
      exact ih.step (ho.course hc) hs

/-- Between two calls nothing is at hand. -/
theorem Kept.between {g : Stage σ} (h : Kept g) (hb : g.IsBetween) :
    g.world.2.LeavesOpen (g.session.held ++ g.handed) := by
  obtain ⟨last, hfree⟩ := hb
  have hstreams := h.streams
  rw [hfree] at hstreams
  exact hstreams

/-- A session that is over listens on nothing. -/
theorem Kept.over {g : Stage σ} (h : Kept g) (ho : Orderly g) (hover : g.session.isOver = true) :
    g.world.2.bound.Perm g.world.2.freed := by
  have hports := h.ports
  rw [h.tended.ports_eq_nil (ho.alone (.inl hover)), LeavesBound, Leaves, List.append_nil] at hports
  exact hports

/-- **No socket is lost**, in whatever order the owner, the watcher and
everything else take their steps, and whatever comes of them. Between two calls
every connection that was opened or accepted was closed, is held by the session
or was handed over, each in one of these ways and once. A stop that has begun,
and giving a session up, come back with nothing held and nothing listened on any
more, also where the session's own close lost the gate to the watcher. And every
call of a session that comes to its end is a course of such steps. -/
theorem sockets_accounted {last : Except (Halt SessionError) Unit} {w : σ} {g : Stage σ}
    (h : Course S ⟨{}, .free last, (w, []), []⟩ g) :
    (g.IsBetween →
      g.world.2.opened.Perm (g.world.2.closed ++ (g.session.held ++ g.handed))) ∧
    (g.IsBetween → g.session.phase = .stopped ∨ g.session.phase = .destroyed →
      g.session.held = [] ∧ g.world.2.opened.Perm (g.world.2.closed ++ g.handed) ∧
        g.world.2.bound.Perm g.world.2.freed) ∧
    (g.session.phase = .stopping ∨ g.place = .leaving ∨ g.place = .parting →
      ∀ g', Course S g g' → g'.IsBetween →
        g'.session.phase = .stopped ∨ g'.session.phase = .destroyed) ∧
    ∀ last', g.place = .free last' →
      (∀ (d : Deed) (r : Reply) s' x', d.call S.traced (g.session, g.world) = (r, s', x') →
        r.isStuck = false →
        (∃ last'', Course S g ⟨s', .free last'', x', g.handed ++ r.handedOver⟩) ∧
          (d = .stop → g.session.phase = .started ∨ g.session.phase = .connected →
            s'.phase = .stopped)) ∧
      ∀ r s' x', destroy S.traced (g.session, g.world) = (r, s', x') → r ≠ .error .stuck →
        Course S g ⟨s', .free r, x', g.handed⟩ ∧ s'.phase = .destroyed := by
  have ho : Orderly g := (orderly_new last (w, []) []).course h
  have hk : Kept g := (kept_new last w).course (orderly_new last (w, []) []) h
  have hphase : ∀ {s : Session}, s.isOver = true ↔ s.phase = .stopped ∨ s.phase = .destroyed := by
    intro s
    simp [isOver]
  refine ⟨hk.between, fun hb hover => ?_, fun hend g' hc hb => ?_, fun last' hfree => ⟨?_, ?_⟩⟩
  · have hheld := ho.bare (.inl (hphase.2 hover))
    have hstreams := hk.between hb
    rw [hheld] at hstreams
    exact ⟨hheld, hstreams, hk.over ho (hphase.2 hover)⟩
  · have hend : Ending g := hend.imp_left .inl
    exact hphase.1 ((hend.course ho hc).isOver (ho.course hc) hb)
  · obtain ⟨s, p, x, handed⟩ := g
    obtain rfl : p = .free last' := hfree
    intro d r s' x' hr hstuck
    refine ⟨deed_course d hr hstuck, ?_⟩
    rintro rfl hp
    exact stop_leaves_stopped hp hr hstuck
  · obtain ⟨s, p, x, handed⟩ := g
    obtain rfl : p = .free last' := hfree
    exact fun r s' x' hr hstuck => destroy_course hr hstuck

/-- What is shared with the watcher of an agent that serves, with the listener
as it is and the watcher at a stage. -/
def guarding (terminated : Bool) (l : Listener) (stage : WatchStage) : Vigil where
  terminated := terminated
  listener := some l
  watcher := some { process := { handle := 0, pid := none }, guards := true, stage }

/-- A session with an agent that serves, by a reverse tunnel. -/
def served (phase : Phase) (enabled : Bool) (v : Vigil) (video : Option Stream) : Session where
  phase := phase
  tunnel := some ⟨.reverse, 27183⟩
  tunnelEnabled := enabled
  vigil := v
  video := video

/-- The listener of a new session. -/
def fresh : Listener := { port := 27183, bound := 27183 }

/-- The same once a close has passed the gate and shut it. -/
def gated : Listener := { fresh with gate := true, shut := true }

/-- An agent connects once and exits while the other connection is accepted, and
the watcher passes the gate before a stop does. -/
theorem serving_loses_gate : ∃ w t,
    Course Surroundings.serving ⟨{}, .free (.ok ()), ({}, []), []⟩
      ⟨served .stopping true (guarding true gated (.closing .waiting)) (some 0),
        .within (.calling .stopping (.closed false)), (w, t), []⟩ := by
  let S := Surroundings.serving
  let Run : Stage Surroundings.Serving → Prop := Course S ⟨{}, .free (.ok ()), ({}, []), []⟩
  obtain ⟨t, hrun⟩ : ∃ t : Trace, start S.traced "agent" none {} ({}, {}, []) =
    (.ok (), served .started true (guarding false fresh .watching) none, {}, t) := ⟨_, rfl⟩
  -- The agent connects once, and is gone while the other connection is accepted.
  have hbegun : Run ⟨served .started true (guarding false fresh .watching) none, .free (.ok ()),
      ({}, t), []⟩ := .single ⟨_, .start hrun⟩
  have hqueued : Run ⟨served .started true (guarding false fresh .watching) none,
      .within (.calling .video .queued), ({}, t), []⟩ := hbegun.step (.own (.connect rfl rfl))
  let l : Listener := { fresh with holder := some Vigil.ownerId }
  have haccepting : Run ⟨served .started true (guarding false l .watching) none,
      .within (.calling .video .accepting), ({}, t), []⟩ :=
    hqueued.step (.own (.call (l := fresh) rfl List.mem_cons_self))
  let t₁ := t ++ [.arrival 27183 (.ok 0)]
  have haccepted : Run ⟨served .started true (guarding false fresh .watching) none,
      .within (.calling .video (.accepted (some 0))), ({ connections := 1 }, t₁), []⟩ :=
    haccepting.step (.own (.call (l := l) rfl List.mem_cons_self))
  have hheld : Run ⟨served .started true (guarding false fresh .watching) (some 0),
      .within (.calling .control .queued), ({ connections := 1 }, t₁), []⟩ :=
    haccepted.step (.own (.video rfl))
  let w : Surroundings.Serving := { connections := 1, killed := true }
  let beside (v : Vigil) (t : Trace) : Stage Surroundings.Serving :=
    ⟨served .started true v (some 0), .within (.calling .control .queued), (w, t), []⟩
  have hgone : Run (beside (guarding false fresh .watching) t₁) := hheld.tell w
  let t₂ := t₁ ++ [.ended { handle := 0, pid := none } (.ok ())]
  have htelling : Run (beside (guarding false fresh .telling) t₂) :=
    hgone.step (.watch List.mem_cons_self)
  have htold : Run (beside (guarding true fresh (.closing .closing)) t₂) :=
    htelling.step (.watch List.mem_cons_self)
  have hpassed : Run (beside (guarding true { fresh with gate := true } (.closing .shutting)) t₂) :=
    htold.step (.watch List.mem_cons_self)
  have hshut : Run (beside (guarding true gated (.closing .waiting)) t₂) :=
    hpassed.step (.watch List.mem_cons_self)
  have hrefused : Run ⟨served .started true (guarding true gated (.closing .waiting)) (some 0),
      .within (.calling .control (.accepted none)), (w, t₂), []⟩ :=
    hshut.step (.own (.call (l := gated) rfl List.mem_cons_self))
  have hdied : Run ⟨served .started true (guarding true gated (.closing .waiting)) (some 0),
      .free (.error (.failed .remoteDied)), (w, t₂), []⟩ :=
    hrefused.step (.own (.died rfl (.inl rfl)))
  have hstopping : Run ⟨served .stopping true (guarding true gated (.closing .waiting)) (some 0),
      .within (.calling .stopping .closing), (w, t₂), []⟩ := hdied.step (.own (.stop (.inl rfl)))
  exact ⟨w, t₂, hstopping.step (.own (.call (l := gated) rfl List.mem_cons_self))⟩

/-- The rest of that stop, with the watcher on its way to drop the listener. -/
theorem serving_stops (w : Surroundings.Serving) (t : Trace) : ∃ v w' t',
    Course Surroundings.serving
      ⟨served .stopping true (guarding true gated (.closing .waiting)) (some 0),
        .within (.calling .stopping (.closed false)), (w, t), []⟩
      ⟨served .stopped false v none, .free (.ok ()), (w', t'), []⟩ := by
  let g : Stage Surroundings.Serving :=
    ⟨served .stopping true (guarding true gated (.closing .waiting)) (some 0),
      .within (.calling .stopping (.closed false)), (w, t), []⟩
  have hreleased : Course Surroundings.serving g
      ⟨served .stopping true (guarding true gated (.closing .waiting)) none,
        .within .deactivating, (w, t ++ [.close 0]), []⟩ :=
    Course.step (.single ⟨_, .own .closed⟩) (.own (.release rfl))
  let t₁ := t ++ [.close 0] ++ [.bridge none (.reverseRemove Agent.socketName) (.ok ())]
  have hawaiting : Course Surroundings.serving g
      ⟨served .stopping false (guarding true gated (.closing .waiting)) none,
        .within .awaiting, (w, t₁), []⟩ := hreleased.step (.own (.deactivate rfl))
  have hjoining : Course Surroundings.serving g
      ⟨served .stopping false (guarding true gated (.closing .waiting)) none,
        .within .joining, (w, t₁), []⟩ := hawaiting.step (.own (.told rfl))
  have hdropping : Course Surroundings.serving g
      ⟨served .stopping false (guarding true { gated with holder := some Vigil.watcherId }
        (.closing .dropping)) none, .within .joining, (w, t₁), []⟩ :=
    hjoining.step (.watch List.mem_cons_self)
  let l : Listener := { gated with dropped := true }
  have hdropped : Course Surroundings.serving g
      ⟨served .stopping false (guarding true l (.closing (.closed true))) none, .within .joining,
        (w, t₁ ++ [.unlisten 27183]), []⟩ := hdropping.step (.watch List.mem_cons_self)
  have hfinished : Course Surroundings.serving g
      ⟨served .stopping false (guarding true l .finished) none, .within .joining,
        (w, t₁ ++ [.unlisten 27183]), []⟩ := hdropped.step (.watch List.mem_cons_self)
  have hjoined := hfinished.step (.own (.joined rfl))
  exact ⟨_, _, _, hjoined.step (.own .stopped)⟩

/-- An agent that connects once and exits: a stop closes the listener while the
watcher does, and loses the gate to it with the port still listened on. -/
theorem serving_sockets_accounted :
    ∃ g g' : Stage Surroundings.Serving,
      Course Surroundings.serving ⟨{}, .free (.ok ()), ({}, []), []⟩ g ∧
      g.place = .within (.calling .stopping (.closed false)) ∧ g.session.held = [0] ∧
      g.session.vigil.ports = [27183] ∧
      Course Surroundings.serving g g' ∧ g'.session.phase = .stopped ∧
      g'.world.2.opened.Perm (g'.world.2.closed ++ g'.handed) ∧
      g'.world.2.bound.Perm g'.world.2.freed := by
  obtain ⟨w, t, hlost⟩ := serving_loses_gate
  obtain ⟨v, w', t', hstopped⟩ := serving_stops w t
  obtain ⟨-, hover, -, -⟩ := sockets_accounted (hlost.trans hstopped)
  obtain ⟨-, hstreams, hports⟩ := hover ⟨_, rfl⟩ (.inl rfl)
  exact ⟨_, _, hlost, rfl, rfl, rfl, hstopped, rfl, hstreams, hports⟩

end Session

end DeviceLink
