import DeviceLink.Proofs.Session.Sockets
/-!
# Sessions — every process is waited for

An agent that runs as a process is watched until it has ended, whatever becomes
of the session meanwhile. `Reaps` counts the processes as `Kept` counts the
sockets: each that was run was seen to end, or its watcher still waits for it.
Every step keeps it, so a session that is over, and whose watcher is forgotten,
leaves no process behind (`Reaps.over`).
-/

namespace DeviceLink

/-- The process that was run. -/
def Event.ran? : Event → Option RunningAgent
  | .execute _ _ (.ok process) => some process
  | _ => none

/-- The process that was seen to have ended. -/
def Event.reaped? : Event → Option RunningAgent
  | .ended process _ => some process
  | _ => none

namespace Trace

abbrev ran (t : Trace) : List RunningAgent := t.filterMap Event.ran?
abbrev reaped (t : Trace) : List RunningAgent := t.filterMap Event.reaped?

/-- No process is run, and none is seen to end. -/
structure Processless (es : Trace) : Prop where
  ran : es.ran = []
  reaped : es.reaped = []

theorem Processless.append {es es' : Trace} (h : es.Processless) (h' : es'.Processless) :
    (es ++ es').Processless := by
  refine ⟨?_, ?_⟩
  · simp only [List.filterMap_append, h.ran, h'.ran, List.append_nil]
  · simp only [List.filterMap_append, h.reaped, h'.reaped, List.append_nil]

theorem processless_closes (x : Option Stream) : Processless (Session.closes x) := by
  cases x <;> exact ⟨rfl, rfl⟩

/-- **The processes that are still waited for.** -/
abbrev LeavesRunning (t : Trace) (left : List RunningAgent) : Prop :=
  Leaves Event.ran? Event.reaped? t left

section

variable {t es : Trace} {left left' : List RunningAgent}

theorem LeavesRunning.append (h : t.LeavesRunning left)
    (hes : left ++ es.ran = es.reaped ++ left') : (t ++ es).LeavesRunning left' :=
  Leaves.append h (.of_eq hes)

theorem LeavesRunning.pass (h : t.LeavesRunning left) (times : List Nat) :
    LeavesRunning (t ++ times.map .passed) left :=
  Leaves.pass h (fun _ => rfl) (fun _ => rfl) times

end

end Trace

/-! ## What runs no process -/

theorem Activator.Requests.processless {a : Activator} {path : String} {es : Trace}
    {v : Except BridgeError Unit} (h : a.Requests path es v) : es.Processless := by
  cases h <;> exact ⟨rfl, rfl⟩

theorem Tunnel.Enabling.processless {serial : Option String} {range : PortRange}
    {forceForward : Bool} {es : Trace} {r : Except TunnelError (Tunnel × Option Listener)}
    (h : Enabling serial range forceForward es r) : es.Processless := by
  have hnone := h.forall_mem (P := fun e => e.ran? = none ∧ e.reaped? = none)
    (fun _ _ _ => ⟨rfl, rfl⟩) fun _ _ => ⟨rfl, rfl⟩
  exact ⟨List.filterMap_eq_nil_iff.2 fun e he => (hnone e he).1,
    List.filterMap_eq_nil_iff.2 fun e he => (hnone e he).2⟩

theorem Listener.Call.Does.processless {σ : Type} {id : Nat} {c c' : Call} {l l' : Listener}
    {x x' : σ × Trace} (h : Does id c l x c' l' x') :
    ∃ es, x'.2 = x.2 ++ es ∧ es.Processless := by
  cases h with
  | take _ | refuse _ | drop => exact ⟨_, rfl, rfl, rfl⟩
  | _ => exact ⟨[], (List.append_nil _).symm, rfl, rfl⟩

namespace Session

variable {σ : Type} {S : Surroundings σ}

theorem Undoes.processless {s : Session} {es : Trace} (h : Undoes s es) : es.Processless := by
  cases h with
  | requested _ h => exact h.processless
  | removed _ _ _ | nothing _ _ => exact ⟨rfl, rfl⟩

/-- The process of what was activated. -/
def Activated.process? : Activated → Option RunningAgent
  | .request _ => none
  | .agent _ _ process => some process

/-- **The processes of a start**: the one it runs is the one it keeps. -/
theorem Starts.processes {artifact : String} {serial : Option String} {p : Params} {es : Trace}
    {r : Except SessionError Activated} (h : Starts artifact serial p es r) :
    es.ran = (r.toOption.bind (·.process?)).toList ∧ es.reaped = [] := by
  cases h with
  | badUrl _ _ | noArtifact _ | notPushed _ => exact ⟨rfl, rfl⟩
  | refused _ _ h h' =>
      obtain ⟨h₁, h₂⟩ := h.processless.append h'.processless
      exact ⟨h₁, h₂⟩
  | requested _ _ h => exact ⟨h.processless.ran, h.processless.reaped⟩
  | noTunnel _ h => exact ⟨h.processless.ran, h.processless.reaped⟩
  | @notRun u l _ _ es _ h =>
      have hunlistened : Trace.Processless (l.toList.map (.unlisten ·.bound)) := by
        cases l <;> exact ⟨rfl, rfl⟩
      simp only [List.cons_append, List.filterMap_append, List.filterMap_cons, List.filterMap_nil,
        Event.ran?, Event.reaped?, h.processless.ran, h.processless.reaped, hunlistened.ran,
        hunlistened.reaped]
      exact ⟨rfl, rfl⟩
  | @run u l _ es _ h =>
      simp only [List.cons_append, List.filterMap_append, List.filterMap_cons, List.filterMap_nil,
        Event.ran?, Event.reaped?, h.processless.ran, h.processless.reaped]
      exact ⟨rfl, rfl⟩

end Session

/-! ## Processes that are waited for -/

/-- Whether the process is still waited for. -/
def WatchStage.awaits : WatchStage → Bool
  | .watching => true
  | .killing => true
  | .reaping => true
  | _ => false

namespace Vigil

variable {σ : Type} {v : Vigil}

/-- The process the watcher still waits for. -/
def awaited (v : Vigil) : List RunningAgent :=
  v.watcher.elim [] fun x => if x.stage.awaits then [x.process] else []

theorem awaited_askKill (v : Vigil) : v.askKill.awaited = v.awaited := by
  rcases hx : v.watcher with _ | x <;> rw [awaited, awaited, askKill, hx] <;> rfl

theorem awaited_eq_nil (h : v.watcher.all (·.stage == .finished) = true) : v.awaited = [] := by
  rcases hx : v.watcher with _ | x <;> rw [awaited, hx]
  · rfl
  · rw [hx, Option.all_some, beq_iff_eq] at h
    rw [Option.elim_some, h]
    rfl

/-- **A move of the watcher** sees its process end, or waits for it as before. -/
theorem Does.awaited {x : Watcher} {y y' : σ × Trace} {v' : Vigil} (hx : v.watcher = some x)
    (h : Does v x y v' y') :
    ∃ es, y'.2 = y.2 ++ es ∧ es.ran = [] ∧ v.awaited = es.reaped ++ v'.awaited := by
  have hawaited : v.awaited = if x.stage.awaits then [x.process] else [] := by
    rw [Vigil.awaited, hx]
    rfl
  rw [hawaited]
  cases h with
  | reap hs => exact ⟨_, rfl, rfl, by rcases hs with hs | hs <;> rw [hs] <;> rfl⟩
  | ask hs _ => exact ⟨[], (List.append_nil _).symm, rfl, by rw [hs]; rfl⟩
  | kill hs => exact ⟨_, rfl, rfl, by rw [hs]; rfl⟩
  | tell hs =>
      refine ⟨[], (List.append_nil _).symm, rfl, ?_⟩
      rw [hs]
      cases hg : x.guards <;> rfl
  | call hs _ hc =>
      obtain ⟨es, hes, hnone⟩ := hc.processless
      exact ⟨es, hes, hnone.ran, by rw [hs, hnone.reaped]; rfl⟩
  | finish hs _ => exact ⟨[], (List.append_nil _).symm, rfl, by rw [hs]; rfl⟩

end Vigil

namespace Session

variable {σ : Type} {S : Surroundings σ}

/-- **No process is lost**: what was run has ended, or is waited for. -/
def Reaps (g : Stage σ) : Prop :=
  g.world.2.LeavesRunning g.session.vigil.awaited

theorem reaps_new (last : Except (Halt SessionError) Unit) (w : σ) (handed : List Stream) :
    Reaps (⟨{}, .free last, (w, []), handed⟩ : Stage σ) := .nil

/-- A step that has nothing to do with a process. -/
theorem Reaps.of_es {s s' : Session} {p p' : Place} {x x' : σ × Trace} {es : Trace}
    {handed handed' : List Stream} (h : Reaps (⟨s, p, x, handed⟩ : Stage σ))
    (hx : x'.2 = x.2 ++ es) (hes : es.Processless) (hv : s'.vigil.awaited = s.vigil.awaited) :
    Reaps (⟨s', p', x', handed'⟩ : Stage σ) := by
  change x'.2.LeavesRunning s'.vigil.awaited
  rw [hx, hv]
  exact Trace.LeavesRunning.append h (by rw [hes.ran, hes.reaped]; exact List.append_nil _)

/-- A step that is not written down, and has nothing to do with a process. -/
theorem Reaps.of_awaited {s s' : Session} {p p' : Place} {x : σ × Trace}
    {handed handed' : List Stream} (h : Reaps (⟨s, p, x, handed⟩ : Stage σ))
    (hv : s'.vigil.awaited = s.vigil.awaited) : Reaps (⟨s', p', x, handed'⟩ : Stage σ) :=
  h.of_es (List.append_nil _).symm ⟨rfl, rfl⟩ hv

theorem Reaps.start {s s' : Session} {last r : Except (Halt SessionError) Unit}
    {x x' : σ × Trace} {artifact : String} {serial : Option String} {p : Params}
    {handed : List Stream} (h : Reaps (⟨s, .free last, x, handed⟩ : Stage σ))
    (ho : Orderly (⟨s, .free last, x, handed⟩ : Stage σ))
    (hr : Session.start S.traced artifact serial p (s, x) = (r, s', x')) :
    Reaps (⟨s', .free r, x', handed⟩ : Stage σ) := by
  by_cases hs : s.phase = .idle
  swap
  · rw [start_refused S.traced _ _ _ hs] at hr
    cases hr
    exact h
  obtain ⟨w, t⟩ := x
  obtain ⟨es, w', v, hst, heq⟩ := start_starts S artifact serial p hs w t
  rw [heq] at hr
  obtain ⟨hran, hreaped⟩ := hst.processes
  -- Nobody was waited for before.
  have hnone : s.vigil.awaited = [] := by rw [Vigil.awaited, (ho.idle hs).2]; rfl
  have hnow : ∀ {left : List RunningAgent}, es.ran = left →
      (t ++ es).LeavesRunning left := fun {left} hleft =>
    Trace.LeavesRunning.append h (by
      change s.vigil.awaited ++ es.ran = es.reaped ++ left
      rw [hleft, hreaped, hnone])
  rcases v with e | a
  · cases hr
    change (t ++ es).LeavesRunning s.vigil.awaited
    rw [hnone]
    exact hnow hran
  · cases hr
    change (t ++ es).LeavesRunning (s.started serial p a).vigil.awaited
    refine hnow (hran.trans ?_)
    cases a with
    | request a =>
        change [] = s.vigil.awaited
        rw [hnone]
    | agent _ _ _ => rfl

/-- **Every step of an owner with a reverse tunnel** keeps count of the
processes. -/
theorem Reaps.own {s s' : Session} {o o' : Owner} {x x' : σ × Trace} {handed : List Stream}
    (h : Reaps (⟨s, .within o, x, handed⟩ : Stage σ))
    (ho : Orderly (⟨s, .within o, x, handed⟩ : Stage σ))
    (hs : Step S .owner ⟨s, o, x⟩ ⟨s', o', x'⟩) :
    Reaps (⟨s', .within o', x', handed⟩ : Stage σ) := by
  cases hs with
  | start hr _ => exact h.start ho hr
  | connect _ _ | unheard _ _ | refused _ | unstopped _ _ | closed | told _ | connected
  | died _ _ | stop _ | stopped => exact h.of_awaited rfl
  | call _ hm =>
      obtain ⟨es, hx, hes⟩ := (Listener.Call.moves_does hm).processless
      exact h.of_es hx hes rfl
  | video hr =>
      obtain ⟨rfl, hx⟩ := setVideo_gives hr
      exact h.of_es hx (Trace.processless_closes _) rfl
  | control hr =>
      obtain ⟨rfl, hx⟩ := setControl_gives hr
      exact h.of_es hx (Trace.processless_closes _) rfl
  | release hr =>
      obtain ⟨rfl, hx⟩ := closeChannels_gives hr
      exact h.of_es hx ((Trace.processless_closes _).append (Trace.processless_closes _)) rfl
  | deactivate hr =>
      obtain ⟨rfl, un, hx, hun⟩ := deactivate_gives hr
      exact h.of_es hx hun.processless rfl
  | expired _ => exact h.of_awaited (Vigil.awaited_askKill _)
  | joined hover => exact h.of_awaited (Vigil.awaited_eq_nil hover).symm

/-- A search for an agent runs no process. -/
theorem Seek.processless {p p' : Place} {x x' : σ × Trace} (h : Seek S p x p' x') :
    ∃ es, x'.2 = x.2 ++ es ∧ es.Processless := by
  cases h with
  | refused hc | opened hc | undialed hc | dialed hc =>
      exact ⟨_, Surroundings.connect_gives hc, rfl, rfl⟩
  | silent hb | live hb => exact ⟨_, Surroundings.readByte?_gives hb, rfl, rfl⟩
  | @dead _ _ _ stream found _ y hb _ =>
      refine ⟨[.byte stream found, .close stream], ?_, rfl, rfl⟩
      rw [Surroundings.traced_close, Surroundings.readByte?_gives hb, List.append_assoc]
      rfl
  | again | exhausted => exact ⟨[], (List.append_nil _).symm, rfl, rfl⟩

/-- **Every step keeps count of the processes.** -/
theorem Reaps.step {g g' : Stage σ} (h : Reaps g) (ho : Orderly g) {who : Party}
    (hs : Progress S who g g') : Reaps g' := by
  cases hs with
  | own hs => exact h.own ho hs
  | start hr => exact h.start ho hr
  | connect _ _ | pathless _ _ _ | connected _ => exact h.of_awaited rfl
  | seek hs =>
      obtain ⟨es, hx, hes⟩ := hs.processless
      exact h.of_es hx hes rfl
  | video hr =>
      obtain ⟨rfl, hx⟩ := setVideo_gives hr
      exact h.of_es hx (Trace.processless_closes _) rfl
  | control hr =>
      obtain ⟨rfl, hx⟩ := setControl_gives hr
      exact h.of_es hx (Trace.processless_closes _) rfl
  | @unmapped s u x x' handed _ _ hd =>
      obtain ⟨w, t⟩ := x
      obtain ⟨r, w', heq⟩ := Tunnel.disable_apply S s.serial u w t
      cases heq.symm.trans hd
      exact h.of_es rfl ⟨rfl, rfl⟩ rfl
  | @take s _ x _ _ _ _ hr =>
      rcases takeChannels_gives s x with heq | ⟨a, b, -, -, heq⟩ <;>
      · cases heq.symm.trans hr
        exact h.of_awaited rfl
  | leave => exact h.of_awaited (Vigil.awaited_askKill _)
  | left hover => exact h.of_awaited (Vigil.awaited_eq_nil hover).symm
  | part hr =>
      obtain ⟨rfl, hx⟩ := closeChannels_gives hr
      exact h.of_es hx ((Trace.processless_closes _).append (Trace.processless_closes _)) rfl
  | @watch s p x x' v handed hm =>
      obtain ⟨y, hy, hdoes⟩ := Vigil.moves_does hm
      obtain ⟨es, hx, hran, hawaited⟩ := hdoes.awaited hy
      change x'.2.LeavesRunning v.awaited
      rw [show x'.2 = x.2 ++ es from hx]
      exact Trace.LeavesRunning.append h (by rw [hran, List.append_nil]; exact hawaited)
  | elapse _ times => exact Trace.LeavesRunning.pass h times

theorem Reaps.course {g g' : Stage σ} (h : Reaps g) (ho : Orderly g) (hc : Course S g g') :
    Reaps g' := by
  induction hc with
  | refl => exact h
  | tail hc hs ih =>
      obtain ⟨who, hs⟩ := hs
      exact ih.step (ho.course hc) hs

/-- A session that is over leaves no process behind. -/
theorem Reaps.over {g : Stage σ} (h : Reaps g) (ho : Orderly g) (hover : g.session.isOver = true) :
    g.world.2.ran.Perm g.world.2.reaped := by
  have hnone : g.session.vigil.awaited = [] := by
    rw [Vigil.awaited, ho.alone (.inl hover)]
    rfl
  rw [Reaps, hnone, Trace.LeavesRunning, Trace.Leaves, List.append_nil] at h
  exact h

end Session

end DeviceLink
