import DeviceLink.Proofs.Session.Tracking
/-!
# Sessions — what giving one up leaves behind

A session that is given up has waited for every process it ran. An agent that was
activated by a request is another matter: it is asked to stop by a stop, in one
place, and by nothing else. `Owed` follows the requests of a session from such an
activation on, step by step. So an agent whose session was stopped had its request
before the session was given up, and an agent whose session still runs when it is
given up is never asked to stop (`destroy_leaves`).
-/

namespace DeviceLink

/-! ## Requests on the way from one trace to another -/

namespace Trace

/-- A trace that grew, with these requests among the events. -/
def Asks (t : Trace) (urls : List Url) (t' : Trace) : Prop :=
  ∃ es, t' = t ++ es ∧ es.asked = urls

variable {t t' t'' : Trace} {urls urls' : List Url}

theorem Asks.refl (t : Trace) : t.Asks [] t := ⟨[], (List.append_nil t).symm, rfl⟩

theorem Asks.trans (h : t.Asks urls t') (h' : t'.Asks urls' t'') :
    t.Asks (urls ++ urls') t'' := by
  obtain ⟨es, rfl, rfl⟩ := h
  obtain ⟨es', rfl, rfl⟩ := h'
  exact ⟨es ++ es', List.append_assoc t es es', asked_append es es'⟩

/-- Nothing more is asked. -/
theorem Asks.silent (h : t.Asks urls t') (h' : t'.Asks [] t'') : t.Asks urls t'' := by
  have hboth := h.trans h'
  rwa [List.append_nil] at hboth

theorem Asks.of_quiet {es : Trace} (hx : t' = t ++ es) (hq : es.Quiet) : t.Asks [] t' :=
  ⟨es, hx, asked_of_quiet hq⟩

theorem Quietly.asks (h : Quietly t t') : t.Asks [] t' := by
  obtain ⟨es, hx, hq⟩ := h
  exact .of_quiet hx hq

end Trace

/-- A request that succeeds was sent, and its response accepted. -/
theorem Activator.Requests.accepted {a : Activator} {path : String} {es : Trace}
    (h : a.Requests path es (.ok ())) :
    ∃ u response, a.target? path = some u ∧ es = [.get u response] ∧
      verdict (a.requestText path) response = .ok () := by
  have hall : ∀ {v : Except BridgeError Unit}, a.Requests path es v → v = .ok () →
      ∃ u response, a.target? path = some u ∧ es = [.get u response] ∧
        verdict (a.requestText path) response = .ok () := by
    intro v h hv
    cases h with
    | unsent fault _ => cases hv
    | sent response hu => exact ⟨_, response, hu, rfl, hv⟩
  exact hall h rfl

namespace Session

variable {σ : Type} {S : Surroundings σ}

/-! ## What an activated agent is owed -/

/-- Whether a stop has asked the endpoint by the time its owner is here. -/
def Place.isPast : Place → Bool
  | .within .awaiting => true
  | .within .joining => true
  | .within .ending => true
  | _ => false

/-- No stop has come to ask the endpoint. -/
structure Stage.Unasked (g : Stage σ) : Prop where
  place : g.place.isPast = false
  phase : g.session.phase ≠ .stopped

/-- A stop has asked the endpoint, if there was a stop at all. -/
def Stage.Asked (g : Stage σ) : Prop := g.place.isPast = true ∨ g.session.isOver = true

/-- **What an agent is owed** that an endpoint activated at a trace: one request to
stop it, which is made where a stop comes to it. -/
structure Owed (a : Activator) (t : Trace) (g : Stage σ) : Prop where
  activator : g.session.activator = some a
  begun : g.session.phase ≠ .idle ∧ g.session.phase ≠ .starting
  requests : t.Asks [] g.world.2 ∧ g.Unasked ∨
    t.Asks (a.target? Agent.stopPath).toList g.world.2 ∧ g.Asked

section

variable {a : Activator} {t : Trace} {g g' : Stage σ}

/-- A step that asks nothing, within one phase and on one side of the request. -/
theorem Owed.of_asks (h : Owed a t g) (hx : g.world.2.Asks [] g'.world.2)
    (ha : g'.session.activator = g.session.activator) (hp : g'.session.phase = g.session.phase)
    (hq : g'.place.isPast = g.place.isPast) : Owed a t g' := by
  refine ⟨ha.trans h.activator, hp ▸ h.begun, ?_⟩
  rcases h.requests with ⟨hnone, hplace, hphase⟩ | ⟨hone, hasked⟩
  · exact .inl ⟨hnone.trans hx, hq.trans hplace, hp ▸ hphase⟩
  · refine .inr ⟨hone.silent hx, ?_⟩
    rw [Stage.Asked, hq, isOver, hp]
    exact hasked

/-- Nothing was asked while the session runs, or a stop is not past the request. -/
theorem Owed.unasked (h : Owed a t g) (hq : g.place.isPast = false)
    (hover : g.session.isOver = false) : t.Asks [] g.world.2 := by
  rcases h.requests with ⟨hnone, -⟩ | ⟨-, hpast | hpast⟩
  · exact hnone
  · rw [hq] at hpast
    cases hpast
  · rw [hover] at hpast
    cases hpast

/-- The agent was asked to stop once a stop is past the request. -/
theorem Owed.asked (h : Owed a t g) (hpast : g.place.isPast = true ∨ g.session.phase = .stopped) :
    t.Asks (a.target? Agent.stopPath).toList g.world.2 := by
  rcases h.requests with ⟨-, hplace, hphase⟩ | ⟨hone, -⟩
  · rcases hpast with hpast | hpast
    · rw [hplace] at hpast
      cases hpast
    · exact absurd hpast hphase
  · exact hone

end

/-- A step in search of an agent is quiet, and no part of a stop. -/
theorem Seek.quietly {p p' : Place} {x x' : σ × Trace} (h : Seek S p x p' x') :
    Trace.Quietly x.2 x'.2 ∧ p.isPast = false ∧ p'.isPast = false := by
  have hread : ∀ {stream : Stream} {found : Option (Except IoError (Option UInt8))}
      {y y' : σ × Trace}, S.traced.readByte? stream y = (found, y') → Trace.Quietly y.2 y'.2 := by
    rintro stream found y y' hb
    have hq : Trace.Quietly y.2 (S.traced.readByte? stream y).2.2 :=
      Surroundings.quietly_readByte? stream
    rwa [hb] at hq
  have hconnect : ∀ {e : Endpoint} {r : Except IoError Stream} {y y' : σ × Trace},
      S.traced.connect e y = (r, y') → Trace.Quietly y.2 y'.2 := by
    rintro e r y y' hc
    have hq : Trace.Quietly y.2 (S.traced.connect e y).2.2 := Surroundings.quietly_connect e
    rwa [hc] at hq
  cases h with
  | refused hc | opened hc | undialed hc | dialed hc => exact ⟨hconnect hc, rfl, rfl⟩
  | silent hb | live hb => exact ⟨hread hb, rfl, rfl⟩
  | dead hb _ => exact ⟨(hread hb).trans (Surroundings.quietly_close _), rfl, rfl⟩
  | again | exhausted => exact ⟨.refl _, rfl, rfl⟩

theorem isOver_of_phase {s : Session} {q : Phase} (hs : s.phase = q)
    (hq : q ≠ .stopped ∧ q ≠ .destroyed) : s.isOver = false := by
  rw [isOver, hs, Bool.or_eq_false_iff, beq_eq_false_iff_ne, beq_eq_false_iff_ne]
  exact hq

section

variable {a : Activator} {t : Trace}

/-- A connect that is done leaves the agent owed what it was. -/
theorem Owed.connected {s s' : Session} {p p' : Place} {x x' : σ × Trace} {handed : List Stream}
    (h : Owed a t ⟨s, p, x, handed⟩) (hs : s.phase = .started) (hp : p.isPast = false)
    (hx : x.2.Asks [] x'.2) (ha : s'.activator = s.activator) (hs' : s'.phase = .connected)
    (hp' : p'.isPast = false) : Owed a t ⟨s', p', x', handed⟩ := by
  have hnone := h.unasked hp (isOver_of_phase hs ⟨by decide, by decide⟩)
  refine ⟨ha.trans h.activator, ?_, .inl ⟨hnone.trans hx, hp', ?_⟩⟩
  · exact ⟨by rw [hs']; decide, by rw [hs']; decide⟩
  · rw [hs']
    decide

/-- **Every step of an owner with a reverse tunnel** keeps count of the requests. -/
theorem Owed.own {s s' : Session} {o o' : Owner} {x x' : σ × Trace} {handed : List Stream}
    (h : Owed a t ⟨s, .within o, x, handed⟩)
    (ho : Orderly (⟨s, .within o, x, handed⟩ : Stage σ))
    (hs : Step S .owner ⟨s, o, x⟩ ⟨s', o', x'⟩) : Owed a t ⟨s', .within o', x', handed⟩ := by
  cases hs with
  | start hr _ =>
      rw [start_refused S.traced _ _ _ h.begun.1] at hr
      cases hr
      exact h.of_asks (.refl _) rfl rfl rfl
  | connect _ _ | unheard _ _ | refused _ | unstopped _ _ | died _ _ | closed | told _
  | expired _ | joined _ => exact h.of_asks (.refl _) rfl rfl rfl
  | call _ hm =>
      have hx : Trace.Quietly x.2 x'.2 := Listener.Call.quietly_of_mem_moves hm
      exact h.of_asks hx.asks rfl rfl rfl
  | video hr =>
      obtain ⟨rfl, hx⟩ := setVideo_gives hr
      exact h.of_asks (.of_quiet hx (quiet_closes _)) rfl rfl rfl
  | control hr =>
      obtain ⟨rfl, hx⟩ := setControl_gives hr
      exact h.of_asks (.of_quiet hx (quiet_closes _)) rfl rfl rfl
  | connected => exact h.connected (ho.during _ rfl) rfl (.refl _) rfl rfl rfl
  | stop hrun =>
      have hover : s.isOver = false := by
        rcases hrun with hs | hs <;> exact isOver_of_phase hs ⟨by decide, by decide⟩
      have hnone := h.unasked rfl hover
      refine ⟨h.activator, ⟨by simp, by simp⟩, .inl ⟨hnone, ?_, by simp⟩⟩
      dsimp only
      split <;> rfl
  | release hr =>
      obtain ⟨rfl, hx⟩ := closeChannels_gives hr
      exact h.of_asks (.of_quiet hx (quiet_channels s)) rfl rfl rfl
  | deactivate hr =>
      obtain ⟨rfl, un, hx, hun⟩ := deactivate_gives hr
      have hstopping : s.phase = .stopping := ho.during _ rfl
      have hnone := h.unasked rfl (isOver_of_phase hstopping ⟨by decide, by decide⟩)
      -- Here alone is the endpoint asked.
      have hactivator : s.activator = some a := h.activator
      have hasked : un.asked = (a.target? Agent.stopPath).toList := by
        rw [hun.asked, hactivator, Option.bind_some]
      have hone : t.Asks ([] ++ un.asked) x'.2 := hnone.trans ⟨un, hx, rfl⟩
      rw [List.nil_append, hasked] at hone
      refine ⟨h.activator, h.begun, .inr ⟨hone, .inl ?_⟩⟩
      dsimp only
      split <;> rfl
  | stopped =>
      have hone := h.asked (.inl rfl)
      exact ⟨h.activator, ⟨by simp, by simp⟩, .inr ⟨hone, .inr rfl⟩⟩

/-- **Every step keeps count of the requests.** -/
theorem Owed.step {g g' : Stage σ} (h : Owed a t g) (ho : Orderly g) {who : Party}
    (hs : Progress S who g g') : Owed a t g' := by
  cases hs with
  | own hs => exact h.own ho hs
  | start hr =>
      rw [start_refused S.traced _ _ _ h.begun.1] at hr
      cases hr
      exact h.of_asks (.refl _) rfl rfl rfl
  | connect _ _ | pathless _ _ _ | left _ => exact h.of_asks (.refl _) rfl rfl rfl
  | seek hs =>
      obtain ⟨hq, hp, hp'⟩ := hs.quietly
      exact h.of_asks hq.asks rfl rfl (hp'.trans hp.symm)
  | video hr =>
      obtain ⟨rfl, hx⟩ := setVideo_gives hr
      exact h.of_asks (.of_quiet hx (quiet_closes _)) rfl rfl rfl
  | control hr =>
      obtain ⟨rfl, hx⟩ := setControl_gives hr
      exact h.of_asks (.of_quiet hx (quiet_closes _)) rfl rfl rfl
  | connected _ => exact h.connected (ho.during _ rfl) rfl (.refl _) rfl rfl rfl
  | @unmapped s u x x' handed _ _ hd =>
      obtain ⟨w, t'⟩ := x
      obtain ⟨r, w', heq⟩ := Tunnel.disable_apply S s.serial u w t'
      cases heq.symm.trans hd
      exact h.connected (ho.during _ rfl) rfl ⟨_, rfl, rfl⟩ rfl rfl rfl
  | @take s _ x _ _ _ _ hr =>
      rcases takeChannels_gives s x with heq | ⟨_, _, -, -, heq⟩ <;>
      · cases heq.symm.trans hr
        exact h.of_asks (.refl _) rfl rfl rfl
  | leave =>
      refine h.of_asks (.refl _) rfl rfl ?_
      dsimp only
      split <;> rfl
  | @part s _ x x' _ _ hr =>
      obtain ⟨rfl, hx⟩ := closeChannels_gives hr
      have hx : x.2.Asks [] x'.2 := .of_quiet hx (quiet_channels s)
      refine ⟨h.activator, ⟨by simp, by simp⟩, ?_⟩
      rcases h.requests with ⟨hnone, -⟩ | ⟨hone, -⟩
      · exact .inl ⟨hnone.trans hx, rfl, by simp⟩
      · exact .inr ⟨hone.silent hx, .inr rfl⟩
  | @watch s p x x' v handed hm =>
      have hx : Trace.Quietly x.2 x'.2 := Vigil.quietly_of_mem_moves hm
      exact h.of_asks hx.asks rfl rfl rfl
  | elapse _ times =>
      exact h.of_asks (.of_quiet rfl (Trace.quiet_passed times)) rfl rfl rfl

theorem Owed.course {g g' : Stage σ} (h : Owed a t g) (ho : Orderly g) (hc : Course S g g') :
    Owed a t g' := by
  induction hc with
  | refl => exact h
  | tail hc hs ih =>
      obtain ⟨who, hs⟩ := hs
      exact ih.step (ho.course hc) hs

end

/-! ## Activations by a request -/

/-- **A start at an endpoint that succeeds** sends one request, which succeeds, and
what can be asked to start can be asked to stop. -/
theorem start_activates {artifact : String} {serial : Option String} {p : Params} {url : String}
    {s s' : Session} {x x' : σ × Trace} (hurl : p.remoteUrl = some url)
    (hr : start S.traced artifact serial p (s, x) = (.ok (), s', x')) :
    ∃ a u v response, Activator.ofText url = .ok a ∧ a.target? (Agent.startPath p) = some u ∧
      a.target? Agent.stopPath = some v ∧ x'.2 = x.2 ++ [.get u response] ∧
      Activator.verdict (a.requestText (Agent.startPath p)) response = .ok () ∧
      s'.activator = some a ∧ s'.phase = .started := by
  by_cases hs : s.phase = .idle
  swap
  · rw [start_refused S.traced _ _ _ hs] at hr
    cases hr
  obtain ⟨w, t⟩ := x
  obtain ⟨es, w', r, hst, heq⟩ := start_starts S artifact serial p hs w t
  rw [heq] at hr
  rcases r with e | activated
  · cases hr
  cases hr
  cases hst with
  | @requested url' a es hurl' ha hreq =>
      obtain rfl := Option.some.inj (hurl.symm.trans hurl')
      obtain ⟨u, response, hu, rfl, hv⟩ := hreq.accepted
      have hstop := a.isSome_target?_eq p
      rw [hu, Option.isSome_some] at hstop
      obtain ⟨v, hstop⟩ := Option.isSome_iff_exists.1 hstop.symm
      exact ⟨a, u, v, response, ha, hu, hstop, rfl, hv, rfl, rfl⟩
  | run hnone _ =>
      rw [hurl] at hnone
      cases hnone

/-- The agent of such a start is owed its request from there on. -/
theorem owed_started {a : Activator} {s : Session} {x : σ × Trace} {handed : List Stream}
    (ha : s.activator = some a) (hs : s.phase = .started) :
    Owed a x.2 (⟨s, .free (.ok ()), x, handed⟩ : Stage σ) := by
  refine ⟨ha, ⟨by rw [hs]; decide, by rw [hs]; decide⟩, .inl ⟨.refl _, rfl, ?_⟩⟩
  rw [hs]
  decide

/-- **What a session that is given up leaves behind**, after any calls and whatever
failed in them. Every process that was run has ended and there is no watcher any
more. An agent that was activated by a request has been asked to stop, once, if the
session was stopped; if the session still ran, its agent is never asked. -/
theorem destroy_leaves {last : Except (Halt SessionError) Unit} {w : σ} {g : Stage σ}
    (h : Course S ⟨{}, .free last, (w, []), []⟩ g) (hb : g.IsBetween)
    (hfirst : g.session.phase ≠ .destroyed) {r : Except (Halt SessionError) Unit} {s' : Session}
    {x' : σ × Trace} (hr : destroy S.traced (g.session, g.world) = (r, s', x'))
    (hstuck : r ≠ .error .stuck) :
    s'.phase = .destroyed ∧ s'.vigil.watcher = none ∧ x'.2.ran.Perm x'.2.reaped ∧
      ∀ {artifact serial p url s₀ x₀ handed s₁ x₁},
        p.remoteUrl = some url →
        start S.traced artifact serial p (s₀, x₀) = (.ok (), s₁, x₁) →
        Course S ⟨s₁, .free (.ok ()), x₁, handed⟩ g →
        ∃ a v, Activator.ofText url = .ok a ∧ a.target? Agent.stopPath = some v ∧
          (g.session.phase = .stopped ∧ x₁.2.Asks [v] x'.2 ∨
            (g.session.phase = .started ∨ g.session.phase = .connected) ∧
              x₁.2.Asks [] x'.2) := by
  have ho : Orderly g := (orderly_new last (w, []) []).course h
  have hreaps : Reaps g := (reaps_new last w []).course (orderly_new last (w, []) []) h
  obtain ⟨s, p, x, handed⟩ := g
  obtain ⟨last', rfl⟩ : ∃ last', p = .free last' := hb
  have hcourse : Course S ⟨s, .free last', x, handed⟩ ⟨s', .free r, x', handed⟩ ∧
    s'.phase = .destroyed := destroy_course hr hstuck
  obtain ⟨hc, hphase⟩ := hcourse
  have hover : s'.isOver = true := by
    rw [isOver, hphase]
    rfl
  have ho' := ho.course hc
  refine ⟨hphase, ho'.alone (.inl hover), (hreaps.course ho hc).over ho' hover, ?_⟩
  intro artifact serial p url s₀ x₀ handed₀ s₁ x₁ hurl hstart hafter
  obtain ⟨a, -, v, -, ha, -, hv, -, -, hactivator, hstarted⟩ := start_activates hurl hstart
  have howed : Owed a x₁.2 ⟨s, .free last', x, handed⟩ :=
    (owed_started hactivator hstarted).course (.of_running (.inl hstarted)) hafter
  have hquiet : x.2.Asks [] x'.2 := (destroy_quietly hr hstuck).1.asks
  refine ⟨a, v, ha, hv, ?_⟩
  by_cases hs : s.phase = .stopped
  · have hone := howed.asked (.inr hs)
    rw [hv] at hone
    exact .inl ⟨hs, hone.silent hquiet⟩
  · have hruns : s.phase = .started ∨ s.phase = .connected := by
      cases hp : s.phase with
      | idle => exact absurd hp howed.begun.1
      | starting => exact absurd hp howed.begun.2
      | started => exact .inl rfl
      | connected => exact .inr rfl
      | stopping => exact absurd hp (ho.between rfl)
      | stopped => exact absurd hp hs
      | destroyed => exact absurd hp hfirst
    have hover : s.isOver = false := by
      rcases hruns with hp | hp <;> exact isOver_of_phase hp ⟨by decide, by decide⟩
    exact .inr ⟨hruns, (howed.unasked rfl hover).silent hquiet⟩

/-- Surroundings in which every request is answered as by a running agent. -/
def answering : Surroundings Unit :=
  { Surroundings.barren with
    get := fun _ => pure (.ok { chunks := ["success".toUTF8.toList], complete := true }) }

/-- The parameters of an agent that an endpoint activates. -/
def remotely : Params := { remoteUrl := some "http://host/" }

/-- An agent that an endpoint activated is asked to stop once, where its session is
stopped before it is given up. -/
theorem answering_destroy_leaves :
    let y := start answering.traced "agent" none remotely ({}, (), [])
    let z := stop answering.traced y.2
    let d := destroy answering.traced z.2
    y.1 = .ok () ∧ z.1 = .ok () ∧ d.1 = .ok () ∧ d.2.1.vigil.watcher = none ∧
      ∃ a v, Activator.ofText "http://host/" = .ok a ∧ a.target? Agent.stopPath = some v ∧
        y.2.2.2.Asks [v] d.2.2.2 := by
  intro y z d
  obtain ⟨hstart, hstop, hphase, hdestroy⟩ : y.1 = .ok () ∧ z.1 = .ok () ∧
      z.2.1.phase = .stopped ∧ d.1 = .ok () := by decide +kernel
  have hy : start answering.traced "agent" none remotely ({}, (), []) = y := rfl
  have hz : stop answering.traced y.2 = z := rfl
  have hd : destroy answering.traced z.2 = d := rfl
  -- From here on only what was evaluated is known of the calls.
  clear_value d z y
  obtain ⟨_, s₁, x₁⟩ := y
  obtain ⟨_, s₂, x₂⟩ := z
  obtain ⟨_, s₃, x₃⟩ := d
  dsimp only at hstart hstop hphase hdestroy
  subst hstart hstop hdestroy
  have hbegun : Course answering ⟨{}, .free (.ok ()), ((), []), []⟩ ⟨s₁, .free (.ok ()), x₁, []⟩ :=
    .single ⟨_, .start hy⟩
  have hsteps : Steps answering ⟨s₁, .free (.ok ()), x₁⟩ ⟨s₂, .free (.ok ()), x₂⟩ :=
    stop_steps hz (by simp)
  have hcourse := hsteps.course []
  obtain ⟨-, hwatcher, -, hasked⟩ := destroy_leaves (hbegun.trans hcourse) ⟨_, rfl⟩
    (by rw [Scene.stage, hphase]; decide) hd (by simp)
  obtain ⟨a, v, ha, hv, ⟨-, hone⟩ | ⟨hruns, -⟩⟩ := hasked rfl hy hcourse
  · exact ⟨rfl, rfl, rfl, hwatcher, a, v, ha, hv, hone⟩
  · rw [Scene.stage, hphase] at hruns
    rcases hruns with hruns | hruns <;> cases hruns

/-- An agent that an endpoint activated is never asked to stop, where its session is
given up as it runs. -/
theorem answering_destroy_asks_nothing :
    let y := start answering.traced "agent" none remotely ({}, (), [])
    let d := destroy answering.traced y.2
    y.1 = .ok () ∧ d.1 = .ok () ∧ d.2.1.phase = .destroyed ∧
      ∃ a v, Activator.ofText "http://host/" = .ok a ∧ a.target? Agent.stopPath = some v ∧
        y.2.2.2.Asks [] d.2.2.2 := by
  intro y d
  obtain ⟨hstart, hdestroy, hphase⟩ : y.1 = .ok () ∧ d.1 = .ok () ∧
      d.2.1.phase = .destroyed := by decide +kernel
  have hy : start answering.traced "agent" none remotely ({}, (), []) = y := rfl
  have hd : destroy answering.traced y.2 = d := rfl
  clear_value d y
  obtain ⟨_, s₁, x₁⟩ := y
  obtain ⟨_, s₂, x₂⟩ := d
  dsimp only at hstart hdestroy hphase
  subst hstart hdestroy
  obtain ⟨a, -, v, -, ha, -, hv, -⟩ := start_activates rfl hy
  exact ⟨rfl, rfl, hphase, a, v, ha, hv, (destroy_quietly hd (by simp)).1.asks⟩

end Session

end DeviceLink
