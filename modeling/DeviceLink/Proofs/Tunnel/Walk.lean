import DeviceLink.Proofs.Surroundings.Acts
import DeviceLink.Proofs.Surroundings.Trace
/-!
# Tunnels — what a walk over ports does

The whole of what enabling a tunnel tells the bridge and listens on, with what
comes of it, as relations between the ports tried, the events written down and
the outcome. `enable_walks` says that these are all the ways there are; what
is asked of a tunnel is answered from them by induction.
-/

namespace DeviceLink

/-! ## The ports that are tried -/

namespace PortRange

variable {range : PortRange} {port : Port}

/-- The ports that are tried are those of the range. -/
theorem mem_ports : port ∈ range.ports ↔ range.contains port = true := by
  have hle : range.first.toNat ≤ range.last.toNat := UInt16.le_iff_toNat_le.1 range.first_le_last
  rw [contains_iff, UInt16.le_iff_toNat_le, UInt16.le_iff_toNat_le]
  constructor
  · intro h
    obtain ⟨n, hn, rfl⟩ := List.mem_map.1 h
    have hlast : range.last.toNat < UInt16.size := range.last.toNat_lt
    rw [List.mem_range'_1] at hn
    rw [UInt16.toNat_ofNat_of_lt' (by omega)]
    omega
  · rintro ⟨hfirst, hlast⟩
    exact List.mem_map.2 ⟨port.toNat, List.mem_range'_1.2 (by omega), UInt16.ofNat_toNat⟩

/-- Each port is tried before those above it, also where the range ends with the
last port there is. -/
theorem pairwise_ports (range : PortRange) : range.ports.Pairwise (· < ·) := by
  have hle : range.first.toNat ≤ range.last.toNat := UInt16.le_iff_toNat_le.1 range.first_le_last
  have hlast : range.last.toNat < UInt16.size := range.last.toNat_lt
  refine List.pairwise_map.2 (List.Pairwise.imp_of_mem (fun {a b} ha hb hab => ?_)
    List.pairwise_lt_range')
  rw [List.mem_range'_1] at ha hb
  rw [UInt16.lt_iff_toNat_lt, UInt16.toNat_ofNat_of_lt' (by omega),
    UInt16.toNat_ofNat_of_lt' (by omega)]
  exact hab

end PortRange

/-- The surroundings give, in some state, what an event tells of a command or of
a port to listen on. Removals are left out, for nothing depends on them. -/
def Surroundings.Yields {σ : Type} (S : Surroundings σ) : Event → Prop
  | .bridge serial c r => c.isRemoval = false → ∃ w, (S.bridge serial c w).1 = r
  | .listen port r => ∃ w, (S.listen port w).1 = r
  | _ => True

namespace Tunnel

/-! ## Walks -/

/-- The event of a reverse mapping asked for. -/
abbrev mapped (serial : Option String) (port : Port) (r : Except BridgeError Unit) : Event :=
  .bridge serial (.reverse Agent.socketName port) r

/-- **A walk in search of a reverse tunnel.** -/
inductive ReverseWalk (serial : Option String) (range : PortRange) :
    List Port → Trace → Except TunnelError (Tunnel × Listener) → Prop
  /-- No port is left. -/
  | exhausted : ReverseWalk serial range [] [] (.error (.exhausted .listen range))
  /-- The bridge does not map the port, and no other is tried. -/
  | refused {port : Port} {rest : List Port} {e : BridgeError} :
      ReverseWalk serial range (port :: rest) [mapped serial port (.error e)]
        (.error (.command "adb reverse" e))
  /-- The port is mapped and listened on. -/
  | bound {port at' : Port} {rest : List Port} :
      ReverseWalk serial range (port :: rest) [mapped serial port (.ok ()), .listen port (.ok at')]
        (.ok (⟨.reverse, port⟩, { port, bound := at' }))
  /-- The port is busy: its mapping is removed, and the walk goes on. -/
  | busy {port : Port} {rest : List Port} {e : IoError} {removed : Except BridgeError Unit}
      {es : Trace} {r : Except TunnelError (Tunnel × Listener)} :
      ReverseWalk serial range rest es r →
      ReverseWalk serial range (port :: rest)
        ([mapped serial port (.ok ()), .listen port (.error e),
          .bridge serial (.reverseRemove Agent.socketName) removed] ++ es) r

/-- **A walk in search of a forward tunnel.** -/
inductive ForwardWalk (serial : Option String) (range : PortRange) :
    List Port → Trace → Except TunnelError Tunnel → Prop
  /-- No port is left. -/
  | exhausted : ForwardWalk serial range [] [] (.error (.exhausted .forward range))
  /-- The port is mapped. -/
  | mapped {port : Port} {rest : List Port} :
      ForwardWalk serial range (port :: rest)
        [.bridge serial (.forward port Agent.socketName) (.ok ())] (.ok ⟨.forward, port⟩)
  /-- The port cannot be mapped, and the walk goes on. -/
  | refused {port : Port} {rest : List Port} {e : BridgeError} {es : Trace}
      {r : Except TunnelError Tunnel} :
      ForwardWalk serial range rest es r →
      ForwardWalk serial range (port :: rest)
        (.bridge serial (.forward port Agent.socketName) (.error e) :: es) r

/-- **Enabling a tunnel**: a reverse one, else a forward one. -/
inductive Enabling (serial : Option String) (range : PortRange) :
    Bool → Trace → Except TunnelError (Tunnel × Option Listener) → Prop
  | reverse {es : Trace} {t : Tunnel} {l : Listener} :
      ReverseWalk serial range range.ports es (.ok (t, l)) →
      Enabling serial range false es (.ok (t, some l))
  | fallback {es es' : Trace} {e : TunnelError} {r : Except TunnelError Tunnel} :
      ReverseWalk serial range range.ports es (.error e) →
      ForwardWalk serial range range.ports es' r →
      Enabling serial range false (es ++ es') (r.map (·, none))
  | forward {es : Trace} {r : Except TunnelError Tunnel} :
      ForwardWalk serial range range.ports es r →
      Enabling serial range true es (r.map (·, none))

/-- A tunnel that is enabled comes from one of the two walks: a reverse one
with its listener, a forward one with none. -/
theorem Enabling.found {serial : Option String} {range : PortRange} {forceForward : Bool}
    {es : Trace} {t : Tunnel} {l : Option Listener}
    (h : Enabling serial range forceForward es (.ok (t, l))) :
    (∃ k, l = some k ∧ ReverseWalk serial range range.ports es (.ok (t, k))) ∨
      ∃ pre es', l = none ∧ es = pre ++ es' ∧
        ForwardWalk serial range range.ports es' (.ok t) := by
  generalize hr : (Except.ok (t, l) : Except TunnelError (Tunnel × Option Listener)) = r at h
  cases h with
  | reverse hw => cases hr; exact .inl ⟨_, rfl, hw⟩
  | @fallback es es' _ r _ hf =>
      rcases r with e | u <;> cases hr
      exact .inr ⟨es, es', rfl, rfl, hf⟩
  | @forward es r hf =>
      rcases r with e | u <;> cases hr
      exact .inr ⟨[], es, rfl, rfl, hf⟩

/-- A walk in search of a reverse tunnel finds one, with a new listener on its
port. -/
theorem ReverseWalk.listener {serial : Option String} {range : PortRange} {ports : List Port}
    {es : Trace} {t : Tunnel} {l : Listener} (h : ReverseWalk serial range ports es (.ok (t, l))) :
    t.direction = .reverse ∧ l = { port := t.localPort, bound := l.bound } := by
  generalize hr : (Except.ok (t, l) : Except TunnelError (Tunnel × Listener)) = r at h
  induction h with
  | exhausted | refused => cases hr
  | bound => cases hr; exact ⟨rfl, rfl⟩
  | busy _ ih => exact ih hr

theorem ForwardWalk.direction {serial : Option String} {range : PortRange} {ports : List Port}
    {es : Trace} {t : Tunnel} (h : ForwardWalk serial range ports es (.ok t)) :
    t.direction = .forward := by
  generalize hr : (Except.ok t : Except TunnelError Tunnel) = r at h
  induction h with
  | exhausted => cases hr
  | mapped => cases hr; rfl
  | refused _ ih => exact ih hr

/-- A reverse tunnel comes with a new listener on its port, a forward one with
none. -/
theorem Enabling.listener {serial : Option String} {range : PortRange}
    {forceForward : Bool} {es : Trace} {t : Tunnel} {l : Option Listener}
    (h : Enabling serial range forceForward es (.ok (t, l))) :
    (t.direction = .reverse ∧ ∃ bound, l = some { port := t.localPort, bound }) ∨
      (t.direction = .forward ∧ l = none) := by
  obtain ⟨k, rfl, hw⟩ | ⟨pre, es', rfl, -, hw⟩ := h.found
  · exact .inl ⟨hw.listener.1, k.bound, congrArg some hw.listener.2⟩
  · exact .inr ⟨hw.direction, rfl⟩

/-- While ports are tried the bridge is told commands and ports are listened on,
and nothing else is done. -/
theorem Enabling.forall_mem {P : Event → Prop} {serial : Option String} {range : PortRange}
    {forceForward : Bool} {es : Trace} {r : Except TunnelError (Tunnel × Option Listener)}
    (h : Enabling serial range forceForward es r)
    (hbridge : ∀ serial c result, P (.bridge serial c result))
    (hlisten : ∀ port result, P (.listen port result)) : ∀ e ∈ es, P e := by
  have hreverse : ∀ {ports : List Port} {es : Trace} {r : Except TunnelError (Tunnel × Listener)},
      ReverseWalk serial range ports es r → ∀ e ∈ es, P e := by
    intro ports es r h
    induction h with
    | exhausted => simp
    | refused => simp [hbridge]
    | bound => simp [hbridge, hlisten]
    | busy _ ih => simpa [hbridge, hlisten] using ih
  have hforward : ∀ {ports : List Port} {es : Trace} {r : Except TunnelError Tunnel},
      ForwardWalk serial range ports es r → ∀ e ∈ es, P e := by
    intro ports es r h
    induction h with
    | exhausted => simp
    | mapped => simp [hbridge]
    | refused _ ih => simpa [hbridge] using ih
  cases h with
  | reverse hw => exact hreverse hw
  | fallback hw hf => exact List.forall_mem_append.2 ⟨hreverse hw, hforward hf⟩
  | forward hf => exact hforward hf

variable {σ : Type} (S : Surroundings σ) (serial : Option String) (range : PortRange)

/-! ## The walks that there are -/

theorem disable_apply (t : Tunnel) (w : σ) (tr : Trace) :
    ∃ r w', t.disable S.traced serial (w, tr) =
      ((), w', tr ++ [.bridge serial t.removal r]) := by
  refine ⟨(S.bridge serial t.removal w).1, ?_⟩
  simp only [disable, Act.bind_apply, Surroundings.traced_bridge]
  rcases (S.bridge serial t.removal w).1 with e | _
  · exact ⟨_, Surroundings.traced_warn S _ _ _⟩
  · exact ⟨_, rfl⟩

theorem noteRetry_apply (purpose : PortUse) (port : Port) (rest : List Port) (w : σ) (tr : Trace) :
    ∃ w', noteRetry S.traced purpose port rest (w, tr) = ((), w', tr) := by
  cases rest with
  | nil => exact ⟨w, rfl⟩
  | cons next _ => exact ⟨_, Surroundings.traced_warn S _ _ _⟩

/-- **All there is to a walk in search of a reverse tunnel.** -/
theorem reverseFrom_walks : ∀ (ports : List Port) (w : σ) (tr : Trace),
    tr.Adds (fun es r => ReverseWalk serial range ports es r ∧ ∀ e ∈ es, S.Yields e)
      (reverseFrom S.traced serial range ports (w, tr)) := by
  intro ports
  induction ports with
  | nil =>
      intro w tr
      exact ⟨[], by simp [reverseFrom, exhausted], ReverseWalk.exhausted, by simp⟩
  | cons port rest ih =>
      intro w tr
      simp only [reverseFrom, Trial.bind_apply, Trial.lift_apply, Surroundings.traced_bridge]
      have hmapped : S.Yields (mapped serial port _) := fun _ => ⟨w, rfl⟩
      rcases hb : (S.bridge serial (.reverse Agent.socketName port) w).1 with e | ⟨⟩ <;>
        rw [hb] at hmapped
      · exact ⟨_, rfl, ReverseWalk.refused, by simpa using hmapped⟩
      simp only [Trial.bind_apply, Trial.lift_apply, Trial.run_apply, Listener.bind_apply,
        Surroundings.traced_listen]
      generalize hl : S.listen port _ = y
      rcases y with ⟨e | at', w'⟩
      · have hlisten : S.Yields (.listen port (.error e)) := ⟨_, congrArg Prod.fst hl⟩
        simp only [Except.map, Trial.bind_apply, Trial.monadLift_apply]
        obtain ⟨r, w₁, hd⟩ := disable_apply S serial ⟨.reverse, port⟩ w'
          (tr ++ [mapped serial port (.ok ())] ++ [.listen port (.error e)])
        rw [hd]
        obtain ⟨w₂, hn⟩ := noteRetry_apply S .listen port rest w₁ _
        rw [hn]
        simp only [List.append_assoc]
        refine (ih w₂ _).before fun {es} ⟨hw, hes⟩ => ⟨ReverseWalk.busy hw, ?_⟩
        have hremoved : S.Yields (.bridge serial (.reverseRemove Agent.socketName) r) :=
          fun h => (nomatch h)
        simpa [hmapped, hlisten, Tunnel.removal, hremoved] using hes
      · have hlisten : S.Yields (.listen port (.ok at')) := ⟨_, congrArg Prod.fst hl⟩
        simp only [Except.map, Trial.bind_apply, Trial.monadLift_apply, Surroundings.traced_info,
          Trial.pure_apply, List.append_assoc]
        exact ⟨_, rfl, ReverseWalk.bound, by simpa using ⟨hmapped, hlisten⟩⟩

/-- **All there is to a walk in search of a forward tunnel.** -/
theorem forwardFrom_walks : ∀ (ports : List Port) (w : σ) (tr : Trace),
    tr.Adds (fun es r => ForwardWalk serial range ports es r ∧ ∀ e ∈ es, S.Yields e)
      (forwardFrom S.traced serial range ports (w, tr)) := by
  intro ports
  induction ports with
  | nil =>
      intro w tr
      exact ⟨[], by simp [forwardFrom, exhausted], ForwardWalk.exhausted, by simp⟩
  | cons port rest ih =>
      intro w tr
      simp only [forwardFrom, Trial.bind_apply, Trial.lift_apply, Surroundings.traced_bridge]
      have hmapped : S.Yields (.bridge serial (.forward port Agent.socketName) _) :=
        fun _ => ⟨w, rfl⟩
      rcases hb : (S.bridge serial (.forward port Agent.socketName) w).1 with e | ⟨⟩ <;>
        rw [hb] at hmapped
      · simp only [Trial.bind_apply, Trial.monadLift_apply]
        obtain ⟨w₂, hn⟩ := noteRetry_apply S .forward port rest _ _
        rw [hn]
        exact (ih w₂ _).before fun ⟨hw, hes⟩ => ⟨ForwardWalk.refused hw, by simpa [hmapped] using hes⟩
      · simp only [Trial.bind_apply, Trial.monadLift_apply, Surroundings.traced_info,
          Trial.pure_apply]
        exact ⟨_, rfl, ForwardWalk.mapped, by simpa using hmapped⟩

theorem enableForward_walks (w : σ) (tr : Trace) :
    tr.Adds (fun es r => (∃ r', ForwardWalk serial range range.ports es r' ∧ r = r'.map (·, none)) ∧
        ∀ e ∈ es, S.Yields e)
      (enableForward S.traced serial range (w, tr)) := by
  obtain ⟨es, hes, hf, hyields⟩ := forwardFrom_walks S serial range range.ports w tr
  simp only [enableForward, Trial.bind_apply, Trial.pure_apply]
  generalize forwardFrom S.traced serial range range.ports (w, tr) = y at hes hf
  rcases y with ⟨e | t, x⟩ <;> exact ⟨es, hes, ⟨_, hf, rfl⟩, hyields⟩

/-- **All there is to enabling a tunnel**, with outcomes that the surroundings
give. -/
theorem enable_yields (forceForward : Bool) (w : σ) (tr : Trace) :
    tr.Adds (fun es r => Enabling serial range forceForward es r ∧ ∀ e ∈ es, S.Yields e)
      (enable S.traced serial range forceForward (w, tr)) := by
  cases forceForward with
  | true =>
      obtain ⟨es, hes, ⟨r, hf, hr⟩, hyields⟩ := enableForward_walks S serial range w tr
      exact ⟨es, hes, hr ▸ Enabling.forward hf, hyields⟩
  | false =>
      obtain ⟨es, hes, hw, hyields⟩ := reverseFrom_walks S serial range range.ports w tr
      simp only [enable, Bool.not_false, if_true, Trial.bind_apply, Trial.lift_apply,
        Trial.run_apply]
      generalize reverseFrom S.traced serial range range.ports (w, tr) = y at hes hw
      rcases y with ⟨e | ⟨t, l⟩, w', tr'⟩
      · -- What the walk in vain did comes before what the other walk does.
        obtain rfl : tr' = tr ++ es := hes
        simp only [Trial.bind_apply, Trial.monadLift_apply, Surroundings.traced_warn]
        obtain ⟨es', hes', ⟨r, hf, hr⟩, hyields'⟩ :=
          enableForward_walks S serial range (S.warn _ w').2 (tr ++ es)
        exact ⟨es ++ es', hes'.trans (List.append_assoc ..), hr ▸ Enabling.fallback hw hf,
          List.forall_mem_append.2 ⟨hyields, hyields'⟩⟩
      · exact ⟨es, hes, Enabling.reverse hw, hyields⟩

/-- **All there is to enabling a tunnel.** -/
theorem enable_walks (forceForward : Bool) (w : σ) (tr : Trace) :
    tr.Adds (Enabling serial range forceForward)
      (enable S.traced serial range forceForward (w, tr)) := by
  obtain ⟨es, hes, hen, -⟩ := enable_yields S serial range forceForward w tr
  exact ⟨es, hes, hen⟩

end Tunnel

end DeviceLink
