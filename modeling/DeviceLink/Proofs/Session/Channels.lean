import DeviceLink.Proofs.Session.Standing
/-!
# Sessions — the order of the channels and what is read of them

A connect that goes well has opened the video connection before the control
connection. An agent that connects is given both as it opened them; of an agent
that listens, the video connection is the first that gave a byte, and that byte
is all that was read of either. `Opens` is the traffic of such a connect, and
`channels_in_order` says that there is no other, so that whoever is handed the
channels reads all the rest of them.
-/

namespace DeviceLink

/-- The bytes that a connection gave. -/
def Trace.bytesOf (x : Stream) (t : Trace) : List UInt8 :=
  t.filterMap fun
    | .byte y (.ok (some b)) => if y = x then some b else none
    | _ => none

namespace Trace

@[simp] theorem bytesOf_append (x : Stream) (t t' : Trace) :
    (t ++ t').bytesOf x = t.bytesOf x ++ t'.bytesOf x := List.filterMap_append

/-- Bytes are traffic. -/
theorem bytesOf_traffic (x : Stream) (t : Trace) : t.traffic.bytesOf x = t.bytesOf x := by
  rw [traffic, bytesOf, List.filterMap_filter]
  refine List.filterMap_congr fun e _ => ?_
  cases e <;> rfl

/-- Traffic at an event is cut where the trace is. -/
theorem cut_traffic {es pre post : Trace} {e : Event} (h : es.traffic = pre ++ e :: post) :
    ∃ before after : Trace, es = before ++ e :: after ∧ after.traffic = post := by
  obtain ⟨left, right, rfl, hleft, hright⟩ := List.filter_eq_append_iff.1 h
  obtain ⟨gap, rest, rfl, -, -, hrest⟩ := List.filter_eq_cons_iff.1 hright
  exact ⟨left ++ gap, rest, (List.append_assoc ..).symm, hrest⟩

/-- What a connection gave since the event that opened it. -/
def GivesSince (t : Trace) (opened : Event) (x : Stream) (bytes : List UInt8) : Prop :=
  ∃ before after : Trace, t = before ++ opened :: after ∧ after.bytesOf x = bytes

/-- What is read later is added to it. -/
theorem GivesSince.append {t : Trace} {opened : Event} {x : Stream} {bytes : List UInt8}
    (h : t.GivesSince opened x bytes) (later : Trace) :
    (t ++ later).GivesSince opened x (bytes ++ later.bytesOf x) := by
  obtain ⟨before, after, rfl, rfl⟩ := h
  exact ⟨before, after ++ later, by simp, bytesOf_append x after later⟩

theorem GivesSince.of_traffic {t pre post : Trace} {opened : Event}
    (h : t.traffic = pre ++ opened :: post) (x : Stream) :
    t.GivesSince opened x (post.bytesOf x) := by
  obtain ⟨before, after, rfl, rfl⟩ := cut_traffic h
  exact ⟨before, after, rfl, (bytesOf_traffic x after).symm⟩

end Trace

namespace Connection

/-- **Probes in vain**: nothing was there, or nobody served and the connection
was closed. -/
inductive Vain (e : Endpoint) : Trace → Prop
  | none : Vain e []
  | probe {es es' : Trace} : Probed e es (.ok none) → Vain e es' → Vain e (es ++ es')

/-- A probe in vain gives no byte. -/
theorem Vain.bytesOf {e : Endpoint} {es : Trace} (h : Vain e es) (x : Stream) :
    es.bytesOf x = [] := by
  induction h with
  | none => rfl
  | probe hp _ ih =>
      rw [Trace.bytesOf_append, ih]
      cases hp <;> rfl

/-- **The first live agent**: all probes before it were in vain, and one byte
was read of it. -/
theorem Tried.live_first {e : Endpoint} {n : Nat} {es : Trace} {x : Stream}
    (h : Tried e n es (.ok x)) :
    ∃ vain b, Vain e vain ∧ es = vain ++ [.connect e (.ok x), .byte x (.ok (some b))] := by
  generalize hr : (Except.ok x : Except (Halt SessionError) Stream) = r at h
  induction h with
  | exhausted | silent _ => cases hr
  | live hp =>
      cases hr
      cases hp with
      | @live x b => exact ⟨[], b, .none, rfl⟩
  | vain hp _ ih =>
      obtain ⟨vain, b, hvain, rfl⟩ := ih hr
      exact ⟨_, b, .probe hp hvain, (List.append_assoc ..).symm⟩

end Connection

namespace Session

open Connection Trace Vigil

/-- Where the session's agent listens, if it does. -/
def endpoint? (s : Session) : Option Endpoint :=
  match s.activator, s.tunnel with
  | some a, _ => some ⟨a.hostName, s.portRange.first⟩
  | none, some ⟨.forward, port⟩ => some (.loopback port)
  | none, _ => none

/-- **The traffic of a connect that goes well**, with the event that opens a
channel, the two channels and the bytes that were read of the first. A video
connection left of an earlier connect is closed once there is a new one. -/
inductive Opens (s : Session) :
    Trace → (Stream → Event) → Stream → Stream → List UInt8 → Prop
  /-- The agent connects, and nothing is read. -/
  | accepted {l : Listener} {x y : Stream} :
      s.direction = some .reverse → s.vigil.listener = some l →
      Opens s ([.arrival l.bound (.ok x)] ++ closes s.video ++ [.arrival l.bound (.ok y)])
        (fun x => .arrival l.bound (.ok x)) x y []
  /-- The agent listens. -/
  | probed {e : Endpoint} {vain : Trace} {x y : Stream} {b : UInt8} :
      s.endpoint? = some e → Vain e vain →
      Opens s (vain ++ [.connect e (.ok x), .byte x (.ok (some b))] ++ closes s.video ++
          [.connect e (.ok y)])
        (fun x => .connect e (.ok x)) x y [b]

variable {σ : Type} {S : Surroundings σ} {s : Session} {w : σ} {t : Trace}

theorem bytesOf_closes (x : Option Stream) (y : Stream) : Trace.bytesOf y (closes x) = [] := by
  cases x <;> rfl

/-- **What is read of the channels** since they were opened: of the first what
the connect had to, and of the second nothing. -/
theorem Opens.gives {es : Trace} {opened : Stream → Event} {x y : Stream} {head : List UInt8}
    (h : Opens s es.traffic opened x y head) :
    es.GivesSince (opened x) x head ∧ es.GivesSince (opened y) y [] := by
  generalize htr : es.traffic = tr at h
  cases h with
  | @accepted l _ _ _ _ =>
      refine ⟨?_, .of_traffic (htr.trans rfl) y⟩
      have hcut : es.traffic = [] ++ .arrival l.bound (.ok x) ::
          (closes s.video ++ [.arrival l.bound (.ok y)]) := htr.trans (List.append_assoc ..)
      have hgives := GivesSince.of_traffic hcut x
      rwa [bytesOf_append, bytesOf_closes] at hgives
  | @probed e vain _ _ b _ _ =>
      refine ⟨?_, .of_traffic (htr.trans rfl) y⟩
      have hcut : es.traffic = vain ++ .connect e (.ok x) ::
          ([.byte x (.ok (some b))] ++ closes s.video ++ [.connect e (.ok y)]) := by
        rw [htr]
        simp only [List.append_assoc, List.cons_append, List.nil_append]
      have hgives := GivesSince.of_traffic hcut x
      rw [bytesOf_append, bytesOf_append, bytesOf_closes] at hgives
      simpa [bytesOf] using hgives

theorem Linking.opens {es : Trace} {x y : Option Stream} (hcontrol : s.control = none)
    (h : Linking s es (.ok ()) x y) :
    ∃ opened a b head, x = some a ∧ y = some b ∧ Opens s es opened a b head := by
  have hprobed : ∀ {e : Endpoint} {n : Nat}, s.endpoint? = some e →
      Pairs (Tried e n) (Dialed e) s.video s.control es (.ok ()) x y →
      ∃ opened a b head, x = some a ∧ y = some b ∧ Opens s es opened a b head := by
    intro e n he hp
    rw [hcontrol] at hp
    cases hp with
    | @both _ _ x y _ ht hd _ =>
        obtain ⟨vain, b, hvain, rfl⟩ := ht.live_first
        cases hd with
        | dialed =>
            refine ⟨fun x => .connect e (.ok x), x, y, [b], rfl, rfl, ?_⟩
            rw [show closes none = [] from rfl, List.append_nil]
            exact .probed he hvain
  cases h with
  | direct ha hp => exact hprobed (by rw [endpoint?, ha]) hp
  | @forward u _ _ _ _ ha hu hd hp =>
      refine hprobed ?_ hp
      obtain ⟨d, port⟩ := u
      obtain rfl : d = .forward := hd
      rw [endpoint?, ha, hu]
  | @reverse u l _ _ _ _ ha hu hd hl hp =>
      rw [hcontrol] at hp
      cases hp with
      | @both _ _ x y _ hx hy _ =>
          cases hx with
          | taken =>
              cases hy with
              | taken =>
                  refine ⟨fun x => .arrival l.bound (.ok x), x, y, [], rfl, rfl, ?_⟩
                  rw [show closes none = [] from rfl, List.append_nil]
                  exact .accepted (by rw [direction, hu, ← hd]; rfl) hl

/-- **Both channels are opened in their order, and nothing of them is lost**, in
every mode and however many probes were in vain. A connect that goes well leaves
a video and a control connection; its traffic is what opens the one and then the
other, nothing is ever written, and no byte was read but one of the video
connection of an agent that listens. Whatever is read later is all that follows. -/
theorem channels_in_order {ds : List Deed} {replies : List (Reply × Phase)} {x : σ × Trace}
    (h : play S.traced ds ({}, w, []) = (replies, s, x)) (hc : Completed replies)
    (hok : (connect S.traced (s, x)).1 = .ok ()) :
    ∃ es opened video control head, (connect S.traced (s, x)).2.2.2 = x.2 ++ es ∧
      (connect S.traced (s, x)).2.1.video = some video ∧
      (connect S.traced (s, x)).2.1.control = some control ∧
      Opens s es.traffic opened video control head ∧
      ∀ later : Trace,
        (es ++ later).GivesSince (opened video) video (head ++ later.bytesOf video) ∧
        (es ++ later).GivesSince (opened control) control (later.bytesOf control) := by
  have hup := (goings_play (S := S) (w := w) (t := []) ds (upright_new .standard)
    (by rw [h]; exact hc)).upright
  rw [h] at hup
  obtain ⟨w', t'⟩ := x
  have hp : s.phase = .started := by
    by_contra hp
    rw [connect_refused S.traced hp] at hok
    cases hok
  have hcontrol : s.control = none := by
    by_contra hne
    have hphase := (hup.control (Option.isSome_iff_ne_none.2 hne)).1
    rw [hp] at hphase
    cases hphase
  obtain ⟨_, ⟨es, hes, -, rfl⟩, hl⟩ := connect_conveys S hup.sound hp w' t'
  rw [hok] at hl
  obtain ⟨opened, video, control, head, hx, hy, hopens⟩ := hl.opens hcontrol
  exact ⟨es, opened, video, control, head, hes, hx, hy, hopens, fun later =>
    ⟨hopens.gives.1.append later, hopens.gives.2.append later⟩⟩

/-- Of an agent that serves behind a forward tunnel one byte is read. -/
theorem serving_channels_in_order :
    let x := (play Surroundings.serving.traced
      [.start "agent" none { forceForward := true }] ({}, {}, [])).2
    (connect Surroundings.serving.traced x).1 = .ok () ∧
      ∃ es opened video control head,
        Opens x.1 (Trace.traffic es) opened video control head ∧ head.length = 1 ∧
        es.GivesSince (opened video) video head ∧ es.GivesSince (opened control) control [] := by
  intro x
  have hcompleted : Completed (play Surroundings.serving.traced
      [.start "agent" none { forceForward := true }] ({}, {}, [])).1 := by decide +kernel
  have hok : (connect Surroundings.serving.traced x).1 = .ok () := by decide +kernel
  obtain ⟨es, opened, video, control, head, -, -, -, hopens, hgives⟩ :=
    channels_in_order (S := Surroundings.serving) (w := {}) rfl hcompleted hok
  refine ⟨hok, es, opened, video, control, head, hopens, ?_, ?_⟩
  · have hd : x.1.direction = some .forward := by decide +kernel
    generalize es.traffic = traffic at hopens
    cases hopens with
    | accepted hr _ => rw [hd] at hr; cases hr
    | probed _ _ => rfl
  · simpa [bytesOf] using hgives []

end Session

end DeviceLink
