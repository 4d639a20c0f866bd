import DeviceLink.Agent
import DeviceLink.Proofs.Surroundings.Demands
/-!
# The bridge — what its arguments stand for

The bridge tool is told each demand as a list of arguments, the device's
serial first where one is chosen. From the list of a session's demand the
demand can be read back: the serial, the operation, its paths, port and socket,
or what is run on the device (`Demand.vector_injective`).
-/

namespace DeviceLink

namespace BridgeCommand

theorem portArgument_eq (p : Port) :
    portArgument p = "tcp:" ++ String.ofList (Nat.toDigits 10 p.toNat) := by
  rw [← Nat.repr_eq_ofList_toDigits]
  rfl

theorem socketArgument_eq (x : String) : socketArgument x = "localabstract:" ++ x := rfl

theorem portArgument_injective : Function.Injective portArgument := by
  intro p q h
  rw [portArgument_eq, portArgument_eq] at h
  have hdigits : Nat.toDigits 10 p.toNat = Nat.toDigits 10 q.toNat := by
    simpa using congrArg String.toList h
  refine UInt16.toNat_inj.1 ?_
  calc p.toNat = Nat.ofDigitChars 10 (Nat.toDigits 10 p.toNat) 0 :=
        Nat.ofDigitChars_ten_toDigits.symm
    _ = q.toNat := by rw [hdigits, Nat.ofDigitChars_ten_toDigits]

theorem socketArgument_injective : Function.Injective socketArgument := by
  intro x y h
  rw [socketArgument_eq, socketArgument_eq] at h
  exact String.toList_inj.1 (by simpa using congrArg String.toList h)

theorem portArgument_ne_remove (p : Port) : portArgument p ≠ "--remove" := by
  intro h
  rw [portArgument_eq] at h
  simpa using congrArg String.toList h

theorem socketArgument_ne_remove (x : String) : socketArgument x ≠ "--remove" := by
  intro h
  rw [socketArgument_eq] at h
  simpa using congrArg String.toList h

/-- The operation is the first argument. -/
theorem arguments_head (c : BridgeCommand) :
    ∃ rest, c.arguments = "push" :: rest ∨ c.arguments = "reverse" :: rest ∨
      c.arguments = "forward" :: rest := by
  cases c with
  | push _ _ => exact ⟨_, .inl rfl⟩
  | reverse _ _ | reverseRemove _ => exact ⟨_, .inr (.inl rfl)⟩
  | forward _ _ | forwardRemove _ => exact ⟨_, .inr (.inr rfl)⟩

/-- A command can be read off its arguments. -/
theorem arguments_injective : Function.Injective arguments := by
  intro c c' h
  cases c <;> cases c' <;>
    simp_all [arguments, Function.Injective.eq_iff portArgument_injective,
      Function.Injective.eq_iff socketArgument_injective,
      portArgument_ne_remove, socketArgument_ne_remove, (portArgument_ne_remove _).symm,
      (socketArgument_ne_remove _).symm]

/-- The serial and what follows it can be read off the arguments of an operation
that is none of the tool's own options. -/
theorem forDevice_injective {serial serial' : Option String} {x x' : String}
    {rest rest' : List String} (hx : x ≠ "-s") (hx' : x' ≠ "-s")
    (h : forDevice serial (x :: rest) = forDevice serial' (x' :: rest')) :
    serial = serial' ∧ x :: rest = x' :: rest' := by
  rcases serial with _ | serial <;> rcases serial' with _ | serial'
  · exact ⟨rfl, h⟩
  · cases h
    exact absurd rfl hx
  · cases h
    exact absurd rfl hx'
  · cases h
    exact ⟨rfl, rfl⟩

end BridgeCommand

namespace Demand

open BridgeCommand

/-- The tool's arguments for a demand of the bridge. -/
def vector? : Demand → Option (List String)
  | .command serial c => some (forDevice serial c.arguments)
  | .execute serial args => some (forDevice serial args)
  | .request _ => none

/-- A demand that a session makes: a command, an agent to run, or a request. -/
inductive OfSession : Demand → Prop
  | command (serial : Option String) (c : BridgeCommand) : OfSession (.command serial c)
  | agent (serial : Option String) (p : Params) (forward : Bool) :
      OfSession (.execute serial (Agent.shellCommand p forward))
  | request (u : Url) : OfSession (.request u)

/-- The arguments for a demand start, after the serial, with an operation that
is none of the tool's own options and tells commands from agents. -/
theorem OfSession.vector {d : Demand} (h : d.OfSession) {v : List String}
    (hv : d.vector? = some v) :
    ∃ serial x rest, x ≠ "-s" ∧ v = forDevice serial (x :: rest) ∧
      (x ≠ "shell" ∧ (∃ c, d = .command serial c ∧ c.arguments = x :: rest) ∨
        x = "shell" ∧ d = .execute serial (x :: rest)) := by
  cases h with
  | command serial c =>
    cases hv
    obtain ⟨rest, h | h | h⟩ := c.arguments_head
    · exact ⟨serial, "push", rest, by decide, by rw [h], .inl ⟨by decide, c, rfl, h⟩⟩
    · exact ⟨serial, "reverse", rest, by decide, by rw [h], .inl ⟨by decide, c, rfl, h⟩⟩
    · exact ⟨serial, "forward", rest, by decide, by rw [h], .inl ⟨by decide, c, rfl, h⟩⟩
  | agent serial p forward =>
    cases hv
    exact ⟨serial, "shell", _, by decide, rfl, .inr ⟨rfl, rfl⟩⟩
  | request u => cases hv

/-- **A session's demand can be read off its arguments.** -/
theorem vector_injective {d d' : Demand} (h : d.OfSession) (h' : d'.OfSession) {v : List String}
    (hv : d.vector? = some v) (hv' : d'.vector? = some v) : d = d' := by
  obtain ⟨serial, x, rest, hx, rfl, hkind⟩ := h.vector hv
  obtain ⟨serial', x', rest', hx', hsame, hkind'⟩ := h'.vector hv'
  obtain ⟨rfl, hargs⟩ := forDevice_injective hx hx' hsame
  cases hargs
  rcases hkind with ⟨hs, c, rfl, hc⟩ | ⟨hs, rfl⟩ <;>
    rcases hkind' with ⟨hs', c', rfl, hc'⟩ | ⟨hs', rfl⟩
  · rw [arguments_injective (hc.trans hc'.symm)]
  · exact absurd hs' hs
  · exact absurd hs hs'
  · rfl

end Demand

end DeviceLink
