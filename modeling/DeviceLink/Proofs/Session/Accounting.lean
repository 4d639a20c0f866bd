import DeviceLink.Proofs.Session.Deed
import DeviceLink.Proofs.Tunnel.Ledger
/-!
# Sessions — every mapping is accounted for

Mappings are removed in four places: where a port of the walk is busy, where
the agent is not run, once a forward tunnel has served, and at a stop. A flag
of the session keeps them from removing a mapping twice or never. `Balanced`
ties the flag to the books kept of the trace; every deed keeps it, whatever
fails and however often, so that after any number of deeds every mapping is
accounted for (`mappings_accounted`).
-/

namespace DeviceLink

open Trace

variable {σ : Type}

/-- A request maps and removes nothing. -/
theorem Activator.Requests.books {a : Activator} {path : String} {es : Trace}
    {v : Except BridgeError Unit} (h : a.Requests path es v) (o : Option Due) :
    Trace.books o es = some o := by
  cases h with
  | unsent => rfl
  | sent _ => rw [books_cons, book_eq_self rfl rfl]; rfl

namespace Session

/-- What is owed for the session's tunnel. -/
def due? (s : Session) : Option Due :=
  if s.tunnelEnabled then s.tunnel.map (Tunnel.due s.serial) else none

/-- When a session's tunnel can be enabled, and when it has to be. -/
structure Placed (s : Session) : Prop where
  enabled : s.tunnelEnabled = true → s.tunnel.isSome ∧ s.activator = none
  idle : s.phase = .idle → s.tunnelEnabled = false ∧ s.activator = none
  started : s.phase = .started → s.activator = none → s.tunnelEnabled = true

/-- **The session's flag and the books agree**: what is owed is the removal of
the session's tunnel while it is enabled, and nothing else. -/
structure Balanced (s : Session) (t : Trace) : Prop where
  books : books none t = some s.due?
  placed : s.Placed

theorem balanced_new : Balanced {} [] :=
  ⟨rfl, fun h => (nomatch h), fun _ => ⟨rfl, rfl⟩, fun h => (nomatch h)⟩

/-- What is owed after more events is what the session then says is owed. -/
theorem Balanced.append {s s' : Session} {t es : Trace} (h : Balanced s t)
    (hes : Trace.books s.due? es = some s'.due?) (hs' : s'.Placed) : Balanced s' (t ++ es) :=
  ⟨by rw [books_append, h.books, Option.bind_some, hes], hs'⟩

theorem due?_eq_none {s : Session} (h : s.tunnelEnabled = false) : s.due? = none := by
  rw [due?, h]; rfl

/-! ## Starts -/

/-- What a start leaves owed. -/
def Activated.due? (serial : Option String) : Except SessionError Activated → Option Due
  | .ok (.agent u _ _) => some (u.due serial)
  | _ => none

theorem Starts.books {artifact : String} {serial : Option String} {p : Params} {es : Trace}
    {r : Except SessionError Activated} (h : Starts artifact serial p es r) :
    Trace.books none es = some (Activated.due? serial r) := by
  cases h with
  | badUrl _ _ => rfl
  | refused _ _ h h' => rw [books_append, h.books]; exact h'.books none
  | requested _ _ h => exact h.books none
  | noArtifact _ => rfl
  | notPushed _ => rfl
  | noTunnel _ h => exact h.books
  | @notRun u l _ _ es _ h =>
      have hl : ∀ o, Trace.books o (l.toList.map (.unlisten ·.bound)) = some o := fun o =>
        books_quiet fun e he => by
          obtain ⟨l', -, rfl⟩ := List.mem_map.1 he
          rfl
      have hes : Trace.books none (pushed artifact serial (.ok ()) :: es) = _ := h.books
      rw [books_append, books_append, books_append, hes]
      simp only [Except.toOption, Option.map_some, Option.bind_some, hl, books_cons, books_nil,
        book_eq_self (e := ran serial p u _) rfl rfl]
      exact Tunnel.books_removal u _
  | @run u _ process es _ h =>
      have hes : Trace.books none (pushed artifact serial (.ok ()) :: es) = _ := h.books
      rw [books_append, hes, Option.bind_some, books_cons,
        book_eq_self (e := ran serial p u (.ok process)) rfl rfl]
      rfl

theorem balanced_start {S : Surroundings σ} {s : Session} {w : σ} {t : Trace}
    (h : Balanced s t) (artifact : String) (serial : Option String) (p : Params) :
    Balanced (start S.traced artifact serial p (s, w, t)).2.1
      (start S.traced artifact serial p (s, w, t)).2.2.2 := by
  by_cases hs : s.phase = .idle
  · obtain ⟨henabled, hactivator⟩ := h.placed.idle hs
    have hoff : s.tunnelEnabled ≠ true := by rw [henabled]; exact Bool.false_ne_true
    obtain ⟨es, w', r, hst, heq⟩ := start_starts S artifact serial p hs w t
    have hes := hst.books
    rw [heq]
    rw [← due?_eq_none henabled] at hes
    rcases r with e | a | ⟨u, l, process⟩
    · have hdue : (s.unstarted p).due? = none := due?_eq_none henabled
      exact h.append (by rw [hdue]; exact hes)
        ⟨fun hon => absurd hon hoff, fun _ => ⟨henabled, hactivator⟩, fun hp => (nomatch hp)⟩
    · have hdue : (s.started serial p (.request a)).due? = none := due?_eq_none henabled
      exact h.append (by rw [hdue]; exact hes)
        ⟨fun hon => absurd hon hoff, fun hp => (nomatch hp), fun _ ha => (nomatch ha)⟩
    · -- Only here is a removal owed: the session keeps the tunnel for it.
      exact h.append hes ⟨fun _ => ⟨rfl, hactivator⟩, fun hp => (nomatch hp), fun _ _ => rfl⟩
  · rw [start_refused S.traced artifact serial p hs]
    exact h

/-! ## Connects -/

theorem balanced_connect {S : Surroundings σ} {s : Session} {w : σ} {t : Trace}
    (h : Balanced s t) :
    Balanced (connect S.traced (s, w, t)).2.1 (connect S.traced (s, w, t)).2.2.2 := by
  by_cases hs : s.phase = .started
  · obtain ⟨es, hes, hc⟩ := connect_connects S hs w t
    rw [hes]
    generalize (connect S.traced (s, w, t)).1 = r at hc
    generalize (connect S.traced (s, w, t)).2.1 = s' at hc
    cases hc with
    | failed hl =>
        obtain ⟨hq, hphase, hserial, hactivator, htunnel, henabled⟩ := hl.same
        have hdue : s'.due? = s.due? := by rw [due?, due?, henabled, htunnel, hserial]
        refine h.append (by rw [books_quiet hq, hdue]) ⟨?_, ?_, ?_⟩
        · rw [henabled, htunnel, hactivator]; exact h.placed.enabled
        · rw [hphase, henabled, hactivator]; exact h.placed.idle
        · rw [hphase, henabled, hactivator]; exact h.placed.started
    | @kept _ s₁ _ hl =>
        obtain ⟨hq, -, hserial, hactivator, htunnel, henabled⟩ := hl.same
        have hdue : s₁.due? = s.due? := by rw [due?, due?, henabled, htunnel, hserial]
        refine h.append (by rw [books_quiet hq, ← hdue]; rfl)
          ⟨?_, fun hp => (nomatch hp), fun hp => (nomatch hp)⟩
        change s₁.tunnelEnabled = true → s₁.tunnel.isSome ∧ s₁.activator = none
        rw [henabled, htunnel, hactivator]; exact h.placed.enabled
    | @unmapped es s₁ u r ha hu hd hl =>
        have hon := h.placed.started hs ha
        have hdue : s.due? = some (u.due s.serial) := by rw [due?, hon, hu]; rfl
        refine h.append ?_
          ⟨fun hon => (nomatch hon), fun hp => (nomatch hp), fun hp => (nomatch hp)⟩
        rw [hdue, books_append, books_quiet hl.same.1]
        exact Tunnel.books_removal u r
  · rw [connect_refused S.traced hs]
    exact h

/-! ## Stops -/

/-- Undoing an activation settles what was owed for it. -/
theorem Undoes.books {s : Session} {es : Trace} (h : Undoes s es) (hs : s.Placed) :
    Trace.books s.due? es = some none := by
  have hoff : ∀ {a}, s.activator = some a → s.due? = none := fun {a} ha => by
    refine due?_eq_none ?_
    by_contra hon
    rw [(hs.enabled (by simpa using hon)).2] at ha
    cases ha
  cases h with
  | requested ha hreq => rw [hoff ha]; exact hreq.books none
  | @removed u r ha hon hu =>
      have hdue : s.due? = some (u.due s.serial) := by rw [due?, hon, hu]; rfl
      rw [hdue]
      exact Tunnel.books_removal u r
  | nothing ha hu =>
      have hdue : s.due? = none := by
        refine due?_eq_none ?_
        by_contra hon
        have hsome := (hs.enabled (by simpa using hon)).1
        rw [hu (by simpa using hon)] at hsome
        cases hsome
      rw [hdue]
      rfl

/-- A session that was dismantled has no tunnel enabled. -/
theorem Placed.dismantled {s : Session} (h : s.Placed) (phase : Phase) (vigil : Vigil) :
    (s.dismantled phase vigil).tunnelEnabled = false := by
  change (s.tunnelEnabled && s.activator.isSome) = false
  cases hon : s.tunnelEnabled with
  | false => rfl
  | true => rw [(h.enabled hon).2]; rfl

theorem Balanced.dismantled {s : Session} {t es un es' : Trace} (h : Balanced s t)
    (hq : Quiet es) (hun : Undoes s un) (hq' : Quiet es') {phase : Phase} (vigil : Vigil)
    (hidle : phase ≠ .idle) (hstarted : phase ≠ .started) :
    Balanced (s.dismantled phase vigil) (t ++ (es ++ un ++ es')) := by
  have hoff := h.placed.dismantled phase vigil
  refine h.append ?_ ⟨fun hon => ?_, fun hp => absurd hp hidle, fun hp => absurd hp hstarted⟩
  · rw [books_append, books_append, books_quiet hq, Option.bind_some, hun.books h.placed,
      Option.bind_some, books_quiet hq', due?_eq_none hoff]
  · rw [hoff] at hon
    cases hon

theorem balanced_stop {S : Surroundings σ} {s : Session} {w : σ} {t : Trace} (h : Balanced s t) :
    Balanced (stop S.traced (s, w, t)).2.1 (stop S.traced (s, w, t)).2.2.2 := by
  by_cases hs : s.phase = .started ∨ s.phase = .connected
  · obtain ⟨es, hes, hst⟩ := stop_stops S hs w t
    rw [hes]
    generalize (stop S.traced (s, w, t)).1 = r at hst
    generalize (stop S.traced (s, w, t)).2.1 = s' at hst
    cases hst with
    | stuckClosing hq =>
        exact h.append (books_quiet hq)
          ⟨h.placed.enabled, fun hp => (nomatch hp), fun hp => (nomatch hp)⟩
    | stuckWaiting hq hun hq' =>
        exact h.dismantled hq hun hq' _ (fun hp => (nomatch hp)) fun hp => (nomatch hp)
    | stopped hq hun hq' _ _ =>
        exact h.dismantled hq hun hq' _ (fun hp => (nomatch hp)) fun hp => (nomatch hp)
  · obtain ⟨w', heq⟩ := stop_other S (fun h => hs (.inl h)) (fun h => hs (.inr h)) w t
    rw [heq]
    exact h

/-! ## Any number of deeds -/

/-- **Every deed keeps the balance.** -/
theorem balanced_deed {S : Surroundings σ} (d : Deed) {x : Session × σ × Trace}
    (h : Balanced x.1 x.2.2) :
    Balanced (d.call S.traced x).2.1 (d.call S.traced x).2.2.2 := by
  obtain ⟨s, w, t⟩ := x
  cases d with
  | start artifact serial p =>
      rw [Deed.call, Trial.map_apply]
      exact balanced_start h artifact serial p
  | connect => rw [Deed.call, Trial.map_apply]; exact balanced_connect h
  | take =>
      obtain ⟨r, video, control, heq⟩ := takeChannels_apply s (w, t)
      rw [Deed.call, heq]
      exact ⟨h.books, h.placed.enabled, h.placed.idle, h.placed.started⟩
  | stop => rw [Deed.call, Trial.map_apply]; exact balanced_stop h

theorem balanced_play (S : Surroundings σ) (w : σ) (ds : List Deed) :
    Balanced (play S.traced ds ({}, w, [])).2.1 (play S.traced ds ({}, w, [])).2.2.2 :=
  play_keeps (P := fun x : Session × σ × Trace => Balanced x.1 x.2.2)
    (fun d _ h => balanced_deed d h) ds balanced_new

theorem isSome_due? {s : Session} (h : s.Placed) : s.due?.isSome = s.tunnelEnabled := by
  rw [due?]
  cases hon : s.tunnelEnabled with
  | false => rfl
  | true => rw [if_pos rfl, Option.isSome_map]; exact (h.enabled hon).1

/-- **Every mapping is accounted for**, whatever is done with a session in
whatever order and whatever fails: the session says of a mapping that it is
still in place exactly when one is, and every other mapping had its removal,
once, before the next was asked for. Once a session that ran was stopped, none
is left. -/
theorem mappings_accounted (S : Surroundings σ) (w : σ) (ds : List Deed) :
    (play S.traced ds ({}, w, [])).2.2.2.Accounted
        (play S.traced ds ({}, w, [])).2.1.tunnelEnabled ∧
      (((play S.traced ds ({}, w, [])).2.1.phase = .started ∨
          (play S.traced ds ({}, w, [])).2.1.phase = .connected) →
        (stop S.traced (play S.traced ds ({}, w, [])).2).1 = .ok () →
        ∀ i, (stop S.traced (play S.traced ds ({}, w, [])).2).2.2.2.MadeAt i →
          ∃! j, (stop S.traced (play S.traced ds ({}, w, [])).2).2.2.2.RemovedAt i j) := by
  have h := balanced_play S w ds
  generalize (play S.traced ds ({}, w, [])).2 = x at h ⊢
  obtain ⟨s, w', t⟩ := x
  have haccounted : ∀ {s : Session} {t : Trace}, Balanced s t → t.Accounted s.tunnelEnabled :=
    fun h => by rw [← isSome_due? h.placed]; exact accounted_of_books h.books
  refine ⟨haccounted h, fun hs hr i hi => ?_⟩
  have hafter := haccounted (balanced_stop (S := S) (w := w') h)
  obtain ⟨es, hes, hst⟩ := stop_stops S hs w' t
  refine hafter.once i hi fun hin => ?_
  have hon := hafter.held_iff.2 ⟨i, hin⟩
  rw [hr] at hst
  generalize (stop S.traced (s, w', t)).2.1 = s' at hst hon
  cases hst with
  | stopped =>
      rw [h.placed.dismantled] at hon
      cases hon

end Session

end DeviceLink
