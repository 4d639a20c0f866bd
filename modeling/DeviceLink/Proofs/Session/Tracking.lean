import DeviceLink.Proofs.Activation.Target
import DeviceLink.Proofs.Session.Accounting
import DeviceLink.Proofs.Session.Reaping
/-!
# Sessions — what is known of a session between two calls

The books of a session are kept one kind at a time: its mappings (`Balanced`),
its sockets (`Kept`) and its processes (`Reaps`). `Tracked` is all of them
together for a session between two calls, with the channels that were handed
over, and every call that comes to its end keeps it. The requests to an endpoint
are followed beside it: as long as the agent of an endpoint is not stopped, it
is owed a request to stop (`Owes`).
-/

namespace DeviceLink

open Trace

/-! ## Requests -/

/-- The URL that was requested. -/
def Event.asked? : Event → Option Url
  | .get url _ => some url
  | _ => none

namespace Trace

/-- The URLs that were requested, in order. -/
abbrev asked (t : Trace) : List Url := t.filterMap Event.asked?

theorem asked_append (t t' : Trace) : (t ++ t').asked = t.asked ++ t'.asked :=
  List.filterMap_append

theorem asked_of_quiet {es : Trace} (h : Quiet es) : es.asked = [] :=
  List.filterMap_eq_nil_iff.2 fun e he => by
    have hq := h e he
    cases e with
    | get _ _ => cases hq
    | _ => rfl

theorem Quietly.asked {t t' : Trace} (h : Quietly t t') : t'.asked = t.asked := by
  obtain ⟨es, rfl, hq⟩ := h
  rw [asked_append, asked_of_quiet hq, List.append_nil]

end Trace

theorem Activator.Requests.asked {a : Activator} {path : String} {es : Trace}
    {v : Except BridgeError Unit} (h : a.Requests path es v) :
    es.asked = (a.target? path).toList := by
  cases h with
  | unsent _ hu | sent _ hu => rw [hu]; rfl

theorem Tunnel.Enabling.asked {serial : Option String} {range : PortRange}
    {forceForward : Bool} {es : Trace} {r : Except TunnelError (Tunnel × Option Listener)}
    (h : Enabling serial range forceForward es r) : es.asked = [] :=
  List.filterMap_eq_nil_iff.2 <| h.forall_mem (P := fun e => e.asked? = none)
    (fun _ _ _ => rfl) fun _ _ => rfl

/-- The endpoint that the parameters name. -/
def Params.Names (p : Params) (a : Activator) : Prop :=
  ∃ url, p.remoteUrl = some url ∧ Activator.ofText url = .ok a

/-- **Every request to start was followed by one to stop**, and there was at
most one. -/
def Params.Settles (p : Params) (asked : List Url) : Prop :=
  asked = [] ∨ ∃ a u v, p.Names a ∧ a.target? (Agent.startPath p) = some u ∧
    a.target? Agent.stopPath = some v ∧ asked = [u, v]

/-- What is asked to start at an endpoint and then to stop is settled: where the
one can be sent, so can the other. -/
theorem Params.Names.settles {p : Params} {a : Activator} (h : p.Names a) :
    p.Settles ((a.target? (Agent.startPath p)).toList ++ (a.target? Agent.stopPath).toList) := by
  have hsome := a.isSome_target?_eq p
  rcases hu : a.target? (Agent.startPath p) with _ | u <;>
    rcases hv : a.target? Agent.stopPath with _ | v <;> rw [hu, hv] at hsome
  · exact .inl rfl
  · cases hsome
  · cases hsome
  · exact .inr ⟨a, u, v, h, hu, hv, rfl⟩

namespace Session

variable {σ : Type} {S : Surroundings σ}

/-- **What a session owes its endpoint**: its agent was asked to start and still
has to be asked to stop. Without an endpoint all is settled. -/
def Owes (p : Params) (activator : Option Activator) (asked : List Url) : Prop :=
  match activator with
  | some a => p.Names a ∧ asked = (a.target? (Agent.startPath p)).toList
  | none => p.Settles asked

/-- The endpoint of what was activated. -/
def Activated.endpoint? : Activated → Option Activator
  | .request a => some a
  | .agent _ _ _ => none

/-- **The requests of a start.** -/
theorem Starts.owes {artifact : String} {serial : Option String} {p : Params} {es : Trace}
    {r : Except SessionError Activated} (h : Starts artifact serial p es r) :
    Owes p (r.toOption.bind (·.endpoint?)) es.asked := by
  cases h with
  | badUrl _ _ | noArtifact _ | notPushed _ => exact .inl rfl
  | refused hurl ha h h' =>
      have hsettles : p.Settles _ := Params.Names.settles ⟨_, hurl, ha⟩
      change p.Settles (Trace.asked (_ ++ _))
      rwa [asked_append, h.asked, h'.asked]
  | requested hurl ha h => exact ⟨⟨_, hurl, ha⟩, h.asked⟩
  | noTunnel _ h => exact .inl h.asked
  | @notRun u l _ _ es _ h =>
      refine .inl ?_
      have hunlistened : Trace.asked (l.toList.map (.unlisten ·.bound)) = [] := by cases l <;> rfl
      simp only [List.cons_append, List.filterMap_append, List.filterMap_cons, List.filterMap_nil,
        Event.asked?, h.asked, hunlistened]
      rfl
  | @run u l _ es _ h =>
      refine .inl ?_
      simp only [List.cons_append, List.filterMap_append, List.filterMap_cons, List.filterMap_nil,
        Event.asked?, h.asked]
      rfl

/-- Undoing the activation asks the endpoint, where there is one, to stop. -/
theorem Undoes.asked {s : Session} {un : Trace} (h : Undoes s un) :
    un.asked = (s.activator.bind (·.target? Agent.stopPath)).toList := by
  cases h with
  | requested ha hreq =>
      rw [ha, Option.bind_some, hreq.asked]
  | removed ha _ _ | nothing ha _ =>
      rw [ha]
      rfl

/-- Undoing the activation settles what was owed. -/
theorem Undoes.settles {p : Params} {s : Session} {t un : Trace} (h : Undoes s un)
    (howes : Owes p s.activator t.asked) : p.Settles (t ++ un).asked := by
  rw [asked_append, h.asked]
  rcases ha : s.activator with _ | a <;> rw [ha] at howes
  · rw [Option.bind_none, Option.toList_none, List.append_nil]
    exact howes
  · rw [Option.bind_some, howes.2]
    exact howes.1.settles

section

variable {p : Params} {s s' : Session} {x x' : σ × Trace} {r : Except (Halt SessionError) Unit}

/-- A start of a new session fails with all settled, or leaves what it owes. -/
theorem start_owes {artifact : String} {serial : Option String} {w : σ}
    (hr : start S.traced artifact serial p ({}, w, []) = (r, s', x')) :
    (∃ e, r = .error (.failed e) ∧ s'.phase = .idle ∧ s'.tunnelEnabled = false ∧
      p.Settles x'.2.asked) ∨
    (r = .ok () ∧ s'.phase = .started ∧ Owes p s'.activator x'.2.asked) := by
  obtain ⟨es, w', v, hst, heq⟩ := start_starts S artifact serial p (s := {}) rfl w []
  rw [heq] at hr
  have howes := hst.owes
  rcases v with e | a
  · cases hr
    exact .inl ⟨e, rfl, rfl, rfl, howes⟩
  · cases hr
    exact .inr ⟨rfl, rfl, by cases a <;> exact howes⟩

/-- A connect asks nothing of an endpoint, and leaves the session running. -/
theorem connect_owes (hs : s.phase = .started) (howes : Owes p s.activator x.2.asked)
    (hr : connect S.traced (s, x) = (r, s', x')) (hstuck : r ≠ .error .stuck) :
    (s'.phase = .started ∨ s'.phase = .connected) ∧ Owes p s'.activator x'.2.asked := by
  obtain ⟨w, t⟩ := x
  obtain ⟨es, hes, hc⟩ := connect_connects S hs w t
  rw [hr] at hes hc
  obtain ⟨w', t'⟩ := x'
  obtain rfl : t' = t ++ es := hes
  rw [asked_append]
  cases hc with
  | failed hl =>
      obtain ⟨hq, hphase, -, hactivator, -, -⟩ := hl.same
      rw [hphase, hactivator, asked_of_quiet hq, List.append_nil]
      exact ⟨.inl hs, howes⟩
  | @kept _ s₁ _ hl =>
      obtain ⟨hq, -, -, hactivator, -, -⟩ := hl.same
      rw [asked_of_quiet hq, List.append_nil]
      exact ⟨.inr rfl, (show s₁.activator = s.activator from hactivator) ▸ howes⟩
  | @unmapped es s₁ u q _ _ _ hl =>
      obtain ⟨hq, -, -, hactivator, -, -⟩ := hl.same
      rw [asked_append, asked_of_quiet hq, List.nil_append]
      refine ⟨.inr rfl, ?_⟩
      change Owes p s₁.activator (t.asked ++ [])
      rw [hactivator, List.append_nil]
      exact howes

/-- A stop of a session that runs settles what it owes. -/
theorem stop_settles (hs : s.phase = .started ∨ s.phase = .connected) (hplaced : s.Placed)
    (howes : Owes p s.activator x.2.asked)
    (hr : stop S.traced (s, x) = (r, s', x')) (hstuck : r ≠ .error .stuck) :
    s'.phase = .stopped ∧ s'.tunnelEnabled = false ∧ p.Settles x'.2.asked := by
  obtain ⟨w, t⟩ := x
  obtain ⟨es, hes, hst⟩ := stop_stops S hs w t
  rw [hr] at hes hst
  obtain ⟨w', t'⟩ := x'
  obtain rfl : t' = t ++ es := hes
  cases hst with
  | stuckClosing | stuckWaiting => exact absurd rfl hstuck
  | stopped hq hun hq' =>
      refine ⟨rfl, hplaced.dismantled _ _, ?_⟩
      have hbefore : Owes p s.activator (t ++ _).asked := (quietly_append hq).asked.symm ▸ howes
      rw [← List.append_assoc, ← List.append_assoc, asked_append, asked_of_quiet hq',
        List.append_nil]
      exact hun.settles hbefore

end

/-! ## All the books -/

/-- **What is known of a session between two calls.** -/
structure Tracked (s : Session) (x : σ × Trace) (handed : List Stream) : Prop where
  orderly : Orderly (⟨s, .free (.ok ()), x, handed⟩ : Stage σ)
  kept : Kept (⟨s, .free (.ok ()), x, handed⟩ : Stage σ)
  reaps : Reaps (⟨s, .free (.ok ()), x, handed⟩ : Stage σ)
  balanced : Balanced s x.2

theorem tracked_new (w : σ) : Tracked {} (w, []) [] :=
  ⟨orderly_new _ _ _, kept_new _ _, reaps_new _ _ _, balanced_new⟩

section

variable {s s' : Session} {x x' : σ × Trace} {handed handed' : List Stream}
variable {r : Except (Halt SessionError) Unit}

/-- What is told changes nothing but what surrounds the session. -/
theorem Tracked.tell {w : σ} {t : Trace} (h : Tracked s (w, t) handed) (w' : σ) :
    Tracked s (w', t) handed :=
  ⟨h.orderly.unchanged, ⟨h.kept.tended, h.kept.ports, h.kept.streams⟩, h.reaps, h.balanced⟩

/-- A course between two calls keeps all the books. -/
theorem Tracked.course (h : Tracked s x handed)
    (hc : Course S ⟨s, .free (.ok ()), x, handed⟩ ⟨s', .free r, x', handed'⟩)
    (hb : Balanced s' x'.2) : Tracked s' x' handed' := by
  have ho : Orderly (⟨s', .free r, x', handed'⟩ : Stage σ) := h.orderly.course hc
  have hk : Kept (⟨s', .free r, x', handed'⟩ : Stage σ) := h.kept.course h.orderly hc
  have hp : Reaps (⟨s', .free r, x', handed'⟩ : Stage σ) := h.reaps.course h.orderly hc
  exact ⟨ho.unchanged, ⟨hk.tended, hk.ports, hk.streams⟩, hp, hb⟩

theorem Tracked.start (h : Tracked s x handed) {artifact : String} {serial : Option String}
    {p : Params} (hr : Session.start S.traced artifact serial p (s, x) = (r, s', x')) :
    Tracked s' x' handed := by
  refine h.course (.single ⟨_, .start hr⟩) ?_
  have hb := balanced_start (S := S) (w := x.1) h.balanced artifact serial p
  rwa [show (s, x.1, x.2) = (s, x) from rfl, hr] at hb

theorem Tracked.connect (h : Tracked s x handed)
    (hr : Session.connect S.traced (s, x) = (r, s', x')) (hstuck : r ≠ .error .stuck) :
    Tracked s' x' handed := by
  refine h.course (connect_course hr hstuck) ?_
  have hb := balanced_connect (S := S) (w := x.1) h.balanced
  rwa [show (s, x.1, x.2) = (s, x) from rfl, hr] at hb

theorem Tracked.take (S : Surroundings σ) (h : Tracked s x handed) {r : Option (Stream × Stream)}
    (hr : takeChannels (s, x) = (.ok r, s', x')) : Tracked s' x' (handed ++ handedOver r) := by
  refine h.course (S := S) (.single ⟨_, .take hr⟩) ?_
  obtain ⟨_, video, control, heq⟩ := takeChannels_apply s x
  cases heq.symm.trans hr
  exact ⟨h.balanced.books, h.balanced.placed.enabled, h.balanced.placed.idle,
    h.balanced.placed.started⟩

theorem Tracked.stop (h : Tracked s x handed)
    (hr : Session.stop S.traced (s, x) = (r, s', x')) (hstuck : r ≠ .error .stuck) :
    Tracked s' x' handed := by
  have hsteps : Steps S ⟨s, .free (.ok ()), x⟩ ⟨s', .free r, x'⟩ := stop_steps hr hstuck
  refine h.course (hsteps.course handed) ?_
  have hb := balanced_stop (S := S) (w := x.1) h.balanced
  rwa [show (s, x.1, x.2) = (s, x) from rfl, hr] at hb

/-- Events that have nothing to do with what is booked, but for connections that
were handed over and are closed. -/
theorem Tracked.quietly (h : Tracked s x handed) {es : Trace} (hx : x'.2 = x.2 ++ es)
    (hq : es.Quiet) (hnone : es.Processless ∧ es.bound = [] ∧ es.freed = [] ∧ es.opened = [])
    (hes : handed.Perm (es.closed ++ handed')) : Tracked s x' handed' := by
  obtain ⟨hprocess, hbound, hfreed, hopened⟩ := hnone
  refine ⟨h.orderly.unchanged, h.kept.of_es hx rfl rfl hbound hfreed ?_,
    h.reaps.of_es hx hprocess rfl, ?_⟩
  · rw [hopened, List.append_nil]
    refine (hes.append_left s.held).trans (List.perm_iff_count.2 fun y => ?_)
    simp only [List.count_append, Place.carried, List.count_nil]
    omega
  · rw [hx]
    exact h.balanced.append (books_quiet hq) h.balanced.placed

/-- The watcher moves while nothing is called. -/
theorem Tracked.watch (h : Tracked s x handed) {m : Vigil × σ × Trace}
    (hm : m ∈ s.vigil.moves S.traced x) : Tracked { s with vigil := m.1 } m.2 handed := by
  refine h.course (.single ⟨_, .watch (S := S) hm⟩) ?_
  obtain ⟨es, hes, hq⟩ : Quietly x.2 m.2.2 := Vigil.quietly_of_mem_moves hm
  rw [hes]
  exact h.balanced.append (books_quiet hq) ⟨h.balanced.placed.enabled, h.balanced.placed.idle,
    h.balanced.placed.started⟩

/-- Time passes while nothing is called. -/
theorem Tracked.pass (S : Surroundings σ) (h : Tracked s x handed) (w' : σ) (times : List Nat) :
    Tracked s (w', x.2 ++ times.map .passed) handed := by
  refine h.course (S := S) (.single ⟨_, .elapse w' times⟩) ?_
  exact h.balanced.append (books_quiet (quiet_passed times)) h.balanced.placed

/-- **Giving a session up** is quiet. -/
theorem destroy_quietly (hr : destroy S.traced (s, x) = (r, s', x')) (hstuck : r ≠ .error .stuck) :
    Quietly x.2 x'.2 ∧ s'.tunnelEnabled = s.tunnelEnabled ∧ s'.activator = s.activator ∧
      s'.tunnel = s.tunnel ∧ s'.serial = s.serial := by
  -- What is left to do after what is told of the phase.
  have hrest : ∀ {w : σ} {t : Trace}, (do
        if s.vigil.watcher.isSome then endWatch S.traced true
        closeChannels S.traced
        update fun s => { s with phase := .destroyed } : Call (σ × Trace) Unit) (s, w, t) =
        (r, s', x') → Quietly t x'.2 ∧ s'.tunnelEnabled = s.tunnelEnabled ∧
      s'.activator = s.activator ∧ s'.tunnel = s.tunnel ∧ s'.serial = s.serial := by
    intro w t hr
    have hclosed : ∀ {v : Vigil} {w₁ : σ} {t₁ : Trace}, Quietly t t₁ → (do
        closeChannels S.traced
        update fun s => { s with phase := .destroyed } : Call (σ × Trace) Unit)
          ({ s with vigil := v }, w₁, t₁) = (r, s', x') →
        Quietly t x'.2 ∧ s'.tunnelEnabled = s.tunnelEnabled ∧ s'.activator = s.activator ∧
          s'.tunnel = s.tunnel ∧ s'.serial = s.serial := by
      intro v w₁ t₁ hq hr
      obtain ⟨w₂, hc⟩ := closeChannels_apply S { s with vigil := v } w₁ t₁
      simp only [Trial.bind_apply, hc, update_apply] at hr
      cases hr
      exact ⟨hq.trans (quietly_append (quiet_channels s)), rfl, rfl, rfl, rfl⟩
    split at hr
    · obtain ⟨q, v, w₁, t₁, he, hq, -, rfl | rfl⟩ := endWatch_apply S true s w t
      · rw [Trial.bind_apply, he] at hr
        exact hclosed hq hr
      · rw [Trial.bind_apply, he] at hr
        cases hr
        exact absurd rfl hstuck
    · exact hclosed (Quietly.refl t) hr
  obtain ⟨w, t⟩ := x
  simp only [destroy, Trial.bind_apply, current_apply] at hr
  split at hr
  · rw [Trial.bind_apply, outside_apply, Surroundings.traced_warn] at hr
    exact hrest hr
  · exact hrest hr

theorem Tracked.destroy (h : Tracked s x handed)
    (hr : Session.destroy S.traced (s, x) = (r, s', x')) (hstuck : r ≠ .error .stuck) :
    Tracked s' x' handed := by
  have hgone : Course S ⟨s, .free (.ok ()), x, handed⟩ ⟨s', .free r, x', handed⟩ ∧
    s'.phase = .destroyed := destroy_course hr hstuck
  obtain ⟨hc, hphase⟩ := hgone
  refine h.course hc ?_
  obtain ⟨⟨es, hes, hq⟩, henabled, hactivator, htunnel, hserial⟩ := destroy_quietly hr hstuck
  have hdue : s'.due? = s.due? := by rw [due?, due?, henabled, htunnel, hserial]
  rw [hes]
  refine h.balanced.append (by rw [books_quiet hq, hdue]) ⟨?_, ?_, ?_⟩
  · rw [henabled, htunnel, hactivator]
    exact h.balanced.placed.enabled
  · intro hearly
    rw [hphase] at hearly
    cases hearly
  · intro hidle
    rw [hphase] at hidle
    cases hidle

/-- **A session that is over, with nothing handed over, leaves nothing behind.** -/
theorem Tracked.over (h : Tracked s x []) (hover : s.isOver = true)
    (hoff : s.tunnelEnabled = false) :
    x.2.Accounted false ∧ x.2.ran.Perm x.2.reaped ∧ x.2.opened.Perm x.2.closed ∧
      x.2.bound.Perm x.2.freed := by
  refine ⟨?_, h.reaps.over h.orderly hover, ?_, h.kept.over h.orderly hover⟩
  · have haccounted := accounted_of_books h.balanced.books
    rwa [isSome_due? h.balanced.placed, hoff] at haccounted
  · have hstreams := h.kept.between ⟨_, rfl⟩
    have hheld : s.held = [] := h.orderly.bare (.inl hover)
    rw [hheld, Trace.LeavesOpen, Trace.Leaves, List.append_nil, List.append_nil] at hstreams
    exact hstreams

end

end Session

end DeviceLink
