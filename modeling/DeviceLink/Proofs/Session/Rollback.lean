import DeviceLink.Proofs.Session.Accounting
/-!
# Sessions — a start that fails leaves nothing behind

A start may fail at any of its stages, after a mapping was made and a port was
listened on. What it did is undone then, so that a session on which starts
were tried in vain is a new one but for the port range, which the next start
sets anew. Two sessions that differ in nothing else cannot be told apart by
anything that is done with them (`play_twin`), so the starts that failed
cannot be noticed later on (`failed_starts_roll_back`).
-/

namespace DeviceLink

/-! ## Ports that are listened on -/

namespace Trace

/-- **Every port that was listened on was given up later on.** -/
def Unlistened : Trace → Prop
  | [] => True
  | e :: es => (∀ port bound, e = .listen port (.ok bound) → .unlisten bound ∈ es) ∧ Unlistened es

/-- What was listened on in a first part may be given up in a second. -/
theorem unlistened_append {es es' : Trace}
    (h : ∀ port bound, .listen port (.ok bound) ∈ es → .unlisten bound ∈ es')
    (h' : Unlistened es') : Unlistened (es ++ es') := by
  induction es with
  | nil => exact h'
  | cons e es ih =>
      refine ⟨fun port bound he => ?_, ih fun port bound he => h port bound (.tail e he)⟩
      subst he
      exact List.mem_append_right es (h port bound List.mem_cons_self)

theorem Unlistened.append {es es' : Trace} (h : Unlistened es) (h' : Unlistened es') :
    Unlistened (es ++ es') := by
  induction es with
  | nil => exact h'
  | cons e es ih =>
      exact ⟨fun port bound he => List.mem_append_left es' (h.1 port bound he), ih h.2⟩

/-- A trace in which nothing is listened on. -/
theorem unlistened_of_not_mem {es : Trace}
    (h : ∀ port bound, .listen port (.ok bound) ∉ es) : Unlistened es := by
  have hnil : Unlistened (es ++ []) :=
    unlistened_append (fun port bound he => absurd he (h port bound)) trivial
  rwa [List.append_nil] at hnil

end Trace

open Trace

/-- A walk that finds a port has listened on that port and on no other. -/
theorem Tunnel.ReverseWalk.listens {serial : Option String} {range : PortRange}
    {ports : List Port} {es : Trace} {r : Except TunnelError (Tunnel × Listener)}
    (h : ReverseWalk serial range ports es r) {port bound : Port}
    (he : .listen port (.ok bound) ∈ es) : ∃ u l, r = .ok (u, l) ∧ l.bound = bound := by
  induction h with
  | exhausted => cases he
  | refused => simp at he
  | bound =>
      simp only [List.mem_cons, reduceCtorEq, List.not_mem_nil, or_false, false_or,
        Event.listen.injEq, Except.ok.injEq] at he
      exact ⟨_, _, rfl, he.2.symm⟩
  | busy _ ih => exact ih (by simpa using he)

theorem Tunnel.ForwardWalk.not_listens {serial : Option String} {range : PortRange}
    {ports : List Port} {es : Trace} {r : Except TunnelError Tunnel}
    (h : ForwardWalk serial range ports es r) (port bound : Port) :
    .listen port (.ok bound) ∉ es := by
  induction h with
  | exhausted => simp
  | mapped => simp
  | refused _ ih => simpa using ih

theorem Tunnel.Enabling.listens {serial : Option String} {range : PortRange} {forceForward : Bool}
    {es : Trace} {r : Except TunnelError (Tunnel × Option Listener)}
    (h : Enabling serial range forceForward es r) {port bound : Port}
    (he : .listen port (.ok bound) ∈ es) : ∃ u l, r = .ok (u, some l) ∧ l.bound = bound := by
  cases h with
  | reverse hw =>
      obtain ⟨u, l, hr, hl⟩ := hw.listens he
      cases hr
      exact ⟨_, _, rfl, hl⟩
  | fallback hw hf =>
      rcases List.mem_append.1 he with he | he
      · obtain ⟨u, l, hr, -⟩ := hw.listens he
        cases hr
      · exact absurd he (hf.not_listens port bound)
  | forward hf => exact absurd he (hf.not_listens port bound)

theorem Activator.Requests.not_listens {a : Activator} {path : String} {es : Trace}
    {v : Except BridgeError Unit} (h : a.Requests path es v) (port bound : Port) :
    .listen port (.ok bound) ∉ es := by
  cases h <;> simp

namespace Session

variable {σ : Type} (S : Surroundings σ)

/-- A start that fails gives up every port it listened on. -/
theorem Starts.unlistened {artifact : String} {serial : Option String} {p : Params} {es : Trace}
    {e : SessionError} (h : Starts artifact serial p es (.error e)) : es.Unlistened := by
  cases h with
  | badUrl _ _ => trivial
  | refused _ _ h h' =>
      exact (unlistened_of_not_mem h.not_listens).append (unlistened_of_not_mem h'.not_listens)
  | noArtifact _ => trivial
  | notPushed _ => exact unlistened_of_not_mem fun port bound => by simp
  | noTunnel _ h =>
      refine unlistened_of_not_mem fun port bound he => ?_
      obtain ⟨_, _, hr, -⟩ := h.listens (List.mem_of_ne_of_mem (by simp) he)
      cases hr
  | @notRun u l e r es _ h =>
      rw [List.append_assoc, List.append_assoc]
      refine unlistened_append (fun port bound he => ?_) (unlistened_of_not_mem ?_)
      · obtain ⟨u', l', hr, rfl⟩ := h.listens (List.mem_of_ne_of_mem (by simp) he)
        cases hr
        simp
      · intro port bound
        simp

/-! ## Sessions that cannot be told apart -/

/-- Sessions that agree, but for a port range that the next start sets. -/
def Twin (a b : Session) : Prop :=
  a = b ∨ b.phase = .idle ∧ a = { b with portRange := a.portRange }

/-- Twins give the same and do the same, and stay twins. -/
theorem twin_deed (d : Deed) {a b : Session} (h : Twin a b) (x : σ) :
    (d.call S (a, x)).1 = (d.call S (b, x)).1 ∧
      Twin (d.call S (a, x)).2.1 (d.call S (b, x)).2.1 ∧
      (d.call S (a, x)).2.2 = (d.call S (b, x)).2.2 := by
  rcases h with rfl | ⟨hb, ha⟩
  · exact ⟨rfl, .inl rfl, rfl⟩
  generalize a.portRange = range at ha
  subst ha
  cases d with
  | start artifact serial p =>
      have heq : start S artifact serial p ({ b with portRange := range }, x) =
          start S artifact serial p (b, x) := by
        simp only [start, expect, Trial.bind_apply, current_apply, hb, ne_eq, not_true, if_false,
          Trial.pure_apply, update_apply]
      rw [Deed.call, Trial.map_apply, Trial.map_apply, heq]
      exact ⟨rfl, .inl rfl, rfl⟩
  | connect =>
      have hphase : b.phase ≠ .started := by rw [hb]; decide
      rw [Deed.call, Trial.map_apply, Trial.map_apply, connect_refused S hphase,
        connect_refused S (s := { b with portRange := range }) hphase]
      exact ⟨rfl, .inr ⟨hb, rfl⟩, rfl⟩
  | take =>
      obtain ⟨phase, serial, range', activator, tunnel, enabled, vigil, video, control⟩ := b
      rcases video with _ | v <;> rcases control with _ | c <;> exact ⟨rfl, .inr ⟨hb, rfl⟩, rfl⟩
  | stop =>
      rw [Deed.call, Trial.map_apply, Trial.map_apply, stop_idle S hb,
        stop_idle S (s := { b with portRange := range }) hb]
      exact ⟨rfl, .inr ⟨hb, rfl⟩, rfl⟩

theorem Twin.phase {a b : Session} (h : Twin a b) : a.phase = b.phase := by
  rcases h with rfl | ⟨-, h⟩
  · rfl
  · rw [h]

/-- **Twins cannot be told apart** by any number of deeds. -/
theorem play_twin (ds : List Deed) {a b : Session} (h : Twin a b) (x : σ) :
    (play S ds (a, x)).1 = (play S ds (b, x)).1 ∧
      Twin (play S ds (a, x)).2.1 (play S ds (b, x)).2.1 ∧
      (play S ds (a, x)).2.2 = (play S ds (b, x)).2.2 := by
  induction ds generalizing a b x with
  | nil => exact ⟨rfl, h, rfl⟩
  | cons d ds ih =>
      obtain ⟨hr, htwin, hx⟩ := twin_deed S d h x
      simp only [play_cons]
      generalize d.call S (a, x) = y at hr htwin hx ⊢
      generalize d.call S (b, x) = z at hr htwin hx ⊢
      obtain ⟨r, a', x'⟩ := y
      obtain ⟨r', b', x''⟩ := z
      dsimp only at hr htwin hx
      subst hr hx
      obtain ⟨hrs, htwin', hx'⟩ := ih htwin x'
      exact ⟨by rw [hrs, htwin.phase], htwin', hx'⟩

/-! ## Starts that fail -/

/-- What a start is called with. -/
structure Request where
  artifact : String
  serial : Option String
  params : Params

/-- The start. -/
def Request.deed (r : Request) : Deed := .start r.artifact r.serial r.params

/-- Every call failed. -/
def Failed (replies : List (Reply × Phase)) : Prop := ∀ y ∈ replies, y.1.isOk = false

instance (replies : List (Reply × Phase)) : Decidable (Failed replies) :=
  inferInstanceAs (Decidable (∀ y ∈ replies, y.1.isOk = false))

/-- What holds after starts that failed, one after the other. -/
theorem failed_starts_keep (rs : List Request) {s : Session} (hs : s = { portRange := s.portRange })
    {w : σ} {t : Trace} (ht : t.Unlistened)
    (h : Failed (play S.traced (rs.map Request.deed) (s, w, t)).1) :
    ∃ range, (play S.traced (rs.map Request.deed) (s, w, t)).2.1 = { portRange := range } ∧
      (play S.traced (rs.map Request.deed) (s, w, t)).2.2.2.Unlistened := by
  induction rs generalizing s w t with
  | nil => exact ⟨s.portRange, hs, ht⟩
  | cons r rs ih =>
      have hidle : s.phase = .idle := by rw [hs]
      obtain ⟨es, w', v, hst, heq⟩ := start_starts S r.artifact r.serial r.params hidle w t
      have hcall : r.deed.call S.traced (s, w, t) = _ :=
        Trial.map_apply (fun _ => none) (start S.traced r.artifact r.serial r.params) (s, w, t)
      rw [heq] at hcall
      rw [List.map_cons, play_cons, hcall] at h
      rw [List.map_cons, play_cons, hcall]
      obtain ⟨hfail, hrest⟩ := List.forall_mem_cons.1 h
      rcases v with cause | a
      · exact ih (s := s.unstarted r.params) (by rw [hs]; rfl) (ht.append hst.unlistened) hrest
      · cases hfail

/-- **Starts that failed leave nothing behind.** However many were tried on a
new session, by whatever way and failing at whatever stage: the session is a
new one but for its port range, every port that was listened on was given up
and every mapping that was made had its removal, and whatever is done from now
on gives and does what it would with a new session. -/
theorem failed_starts_roll_back (w : σ) (rs : List Request)
    (h : Failed (play S.traced (rs.map Request.deed) ({}, w, [])).1) :
    ∃ range w' t, (play S.traced (rs.map Request.deed) ({}, w, [])).2 =
        ({ portRange := range }, w', t) ∧
      t.Unlistened ∧
      (∀ i, t.MadeAt i → ∃! j, t.RemovedAt i j) ∧
      ∀ ds, (play S.traced ds ({ portRange := range }, w', t)).1 =
          (play S.traced ds ({}, w', t)).1 ∧
        Twin (play S.traced ds ({ portRange := range }, w', t)).2.1
          (play S.traced ds ({}, w', t)).2.1 ∧
        (play S.traced ds ({ portRange := range }, w', t)).2.2 =
          (play S.traced ds ({}, w', t)).2.2 := by
  obtain ⟨range, hs, ht⟩ := failed_starts_keep S rs (s := {}) rfl (t := []) trivial h
  have hb := balanced_play S w (rs.map Request.deed)
  generalize (play S.traced (rs.map Request.deed) ({}, w, [])).2 = x at hs ht hb ⊢
  obtain ⟨s, w', t⟩ := x
  obtain rfl : s = { portRange := range } := hs
  refine ⟨range, w', t, rfl, ht, fun i hi => ?_, fun ds => ?_⟩
  · -- No mapping is in place, for a new session has no tunnel enabled.
    have hacc := accounted_of_books hb.books
    exact hacc.once i hi fun hin => absurd (hacc.held_iff.2 ⟨i, hin⟩) Bool.false_ne_true
  · exact play_twin S.traced ds (.inr ⟨rfl, rfl⟩) (w', t)

/-- A start whose agent is not run, and one whose endpoint is no URL. -/
def vain : List Request :=
  [⟨"agent", none, {}⟩, ⟨"agent", some "serial", { remoteUrl := some "none" }⟩]

theorem vain_starts_roll_back :
    Failed (play Surroundings.barren.traced (vain.map Request.deed) ({}, (), [])).1 ∧
      ∃ range w' t, (play Surroundings.barren.traced (vain.map Request.deed) ({}, (), [])).2 =
        ({ portRange := range }, w', t) ∧ t.Unlistened := by
  have h : Failed (play Surroundings.barren.traced (vain.map Request.deed) ({}, (), [])).1 := by
    decide
  obtain ⟨range, w', t, hx, ht, -, -⟩ := failed_starts_roll_back Surroundings.barren () vain h
  exact ⟨h, range, w', t, hx, ht⟩

end Session

end DeviceLink
