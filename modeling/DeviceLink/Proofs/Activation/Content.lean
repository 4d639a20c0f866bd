import DeviceLink.Proofs.Activation.Answer
import DeviceLink.Proofs.Surroundings.Trace
import DeviceLink.Proofs.Text.Lossy
import Mathlib.Data.List.Infix
/-!
# Activation — what a body comes to

A request that is answered comes to what the bytes of the answer come to, and
to nothing else (`judged_by_content`): not to the pieces they came in, and not
to what stands beside the marker. The marker is looked for in the body as it is
told of, with everything replaced that is no text; it is found there exactly
where its bytes stand in a row (`isMarked_iff`).
-/

namespace DeviceLink

namespace Activator

/-- The bytes of the marker. -/
def markerBytes : List UInt8 := [0x73, 0x75, 0x63, 0x63, 0x65, 0x73, 0x73]

theorem encode_successMarker : Utf8.encode Agent.successMarker.toList = markerBytes := by
  decide

theorem successMarker_ascii : ∀ c ∈ Agent.successMarker.toList, c.toNat < 0x80 := by
  have hall : (Agent.successMarker.toList.all fun c => c.toNat < 0x80) = true := by
    decide
  intro c hc
  exact of_decide_eq_true (List.all_eq_true.1 hall c hc)

theorem occursIn_iff (part cs : List Char) : occursIn part cs = true ↔ part <:+: cs := by
  induction cs with
  | nil => simp [occursIn]
  | cons c cs ih =>
      rw [occursIn, Bool.or_eq_true, List.isPrefixOf_iff_prefix, ih, List.infix_cons_iff]

/-- **A body has the marker** where it has the marker's bytes in a row. -/
theorem isMarked_iff (body : List UInt8) : isMarked body = true ↔ markerBytes <:+: body := by
  rw [isMarked, occursIn_iff, Utf8.infix_decodeLossy body successMarker_ascii, encode_successMarker]

/-- **What a request comes to, by the bytes of its answer** and whether they came
to their end. -/
def comesTo (url : String) (complete : Bool) (body : List UInt8) : Except BridgeError Unit :=
  if 1024 ≤ body.length then .error (.unexpectedResponse url "response exceeds 1023 bytes")
  else if !complete then .error (.transport url .brokenOff)
  else if markerBytes <:+: body then .ok ()
  else .error (.unexpectedResponse url "missing success marker")

theorem verdict_eq_comesTo (url : String) (r : Response) :
    verdict url (.ok r) = comesTo url r.complete r.chunks.flatten := by
  rw [verdict, judge_eq, comesTo, bodyLimit]
  generalize r.chunks.flatten = body
  by_cases hlong : 1024 ≤ body.length
  · rw [if_pos hlong, if_pos hlong]
    rfl
  · rw [if_neg hlong, if_neg hlong]
    cases r.complete with
    | false => rfl
    | true =>
      simp only [if_true, isMarked_iff]
      rfl

variable {σ : Type} (S : Surroundings σ)

theorem receive_fst (url : String) (r : Except TransportFault Response) (w : σ) :
    (receive S url r w).1 = verdict url r := by
  rcases receive_apply S url r w with h | ⟨_, h⟩ <;> rw [h]

/-- **A request is judged by the content of its answer.** Whatever it was cut
into, the bytes that came decide: too many of them, then whether they came to
their end, then whether the marker is among them. The same bytes, cut and sent
in any other way, come to the same. Replacing what is no text neither makes nor
hides a marker. -/
theorem judged_by_content (a : Activator) (path : String) (w w₁ : σ) (r : Response)
    (hr : send S (a.requestText path) (S.info (a.requestText path) w).2 = (.ok r, w₁)) :
    (a.request S path w).1 = comesTo (a.requestText path) r.complete r.chunks.flatten ∧
      (∀ (S' : Surroundings σ) (w' w₁' : σ) (r' : Response),
        send S' (a.requestText path) (S'.info (a.requestText path) w').2 = (.ok r', w₁') →
        r'.chunks.flatten = r.chunks.flatten → r'.complete = r.complete →
        (a.request S' path w').1 = (a.request S path w).1) ∧
      ∀ body : List UInt8,
        occursIn Agent.successMarker.toList (Utf8.decodeLossy body) = true ↔
          markerBytes <:+: body := by
  have hcomes : ∀ (S : Surroundings σ) (w w₁ : σ) (r : Response),
      send S (a.requestText path) (S.info (a.requestText path) w).2 = (.ok r, w₁) →
      (a.request S path w).1 = comesTo (a.requestText path) r.complete r.chunks.flatten := by
    intro S w w₁ r hr
    rw [request_apply, hr, receive_fst, verdict_eq_comesTo]
  refine ⟨hcomes S w w₁ r hr, fun S' w' w₁' r' hr' hbytes hcomplete => ?_, isMarked_iff⟩
  rw [hcomes S' w' w₁' r' hr', hcomes S w w₁ r hr, hbytes, hcomplete]

/-- Surroundings in which every request is answered with one response. -/
def answering (r : Response) : Surroundings Unit :=
  { Surroundings.barren with get := fun _ => pure (.ok r) }

/-- The endpoint `http://host`. -/
def plainEndpoint : Activator where
  base := { scheme := "http".toList, host := some (.domain "host".toList), path := .segments [[]] }
  host := .domain "host".toList
  base_host := rfl

/-- A marker between a character that breaks off and a byte that starts none, in
pieces of which one is empty. -/
def ragged : Response :=
  ⟨[[0xe2, 0x82, 0x73, 0x75], [], [0x63, 0x63, 0x65], [0x73, 0x73, 0xff]], true⟩

theorem ragged_judged_by_content :
    send (answering ragged) (plainEndpoint.requestText Agent.stopPath) () = (.ok ragged, ()) ∧
      (plainEndpoint.request (answering ragged) Agent.stopPath ()).1 = .ok () := by
  have htarget : plainEndpoint.target? Agent.stopPath =
      some { plainEndpoint.base with path := .segments ["stopScrcpy".toList, []] } := by
    decide +kernel
  have hsend : send (answering ragged) (plainEndpoint.requestText Agent.stopPath) () =
      (.ok ragged, ()) := send_of_target (answering ragged) htarget ()
  have hjudged := (judged_by_content (answering ragged) plainEndpoint Agent.stopPath () () ragged
    hsend).1
  rw [comesTo, if_neg (by decide), if_neg (by decide), if_pos (by decide +kernel)] at hjudged
  exact ⟨hsend, hjudged⟩

end Activator

end DeviceLink
