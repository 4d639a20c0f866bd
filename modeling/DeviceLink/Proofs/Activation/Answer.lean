import DeviceLink.Activation
import DeviceLink.Proofs.Surroundings.Acts
/-!
# Activation — what an answer comes to

A request is judged by what comes of it and by nothing else (`verdict`), and of
that only three things matter: the body came whole and is accepted, it came and
is not, or it did not come (`answer`). A body is judged as a whole, however it
was cut into pieces (`judge_eq`); it is accepted if it is short enough, complete
and has the marker (`answer_accepted_iff`).
-/

namespace DeviceLink

namespace Activator

/-! ## Bodies -/

/-- A body that fits so far is judged together with what comes. -/
theorem collect_eq (complete : Bool) (chunks : List (List UInt8)) (body : List UInt8)
    (h : body.length < bodyLimit) :
    collect complete body chunks =
      if bodyLimit ≤ (body ++ chunks.flatten).length then .oversized
      else if complete then .whole (body ++ chunks.flatten) else .brokenOff := by
  induction chunks generalizing body with
  | nil =>
      rw [collect, List.flatten_nil, List.append_nil, if_neg (Nat.not_le_of_lt h)]
  | cons chunk rest ih =>
      rw [collect, List.flatten_cons, ← List.append_assoc]
      by_cases hlong : bodyLimit ≤ (body ++ chunk).length
      · have hall : bodyLimit ≤ (body ++ chunk ++ rest.flatten).length := by
          rw [List.length_append]
          exact Nat.le_add_right_of_le hlong
        rw [if_pos hlong, if_pos hall]
      · rw [if_neg hlong, ih (body ++ chunk) (Nat.lt_of_not_le hlong)]

/-- **A body is judged as a whole.** -/
theorem judge_eq (r : Response) :
    judge r =
      if bodyLimit ≤ r.chunks.flatten.length then .oversized
      else if r.complete then .whole r.chunks.flatten else .brokenOff := by
  rw [judge, collect_eq r.complete r.chunks [] (by decide)]
  rfl

/-- Whether a body has the marker. -/
def isMarked (body : List UInt8) : Bool :=
  occursIn Agent.successMarker.toList (Utf8.decodeLossy body)

/-! ## Verdicts -/

/-- What comes of a request, as far as it matters. -/
inductive Answer
  /-- A whole body with the marker. -/
  | accepted
  /-- A body that is too long, or a whole one without the marker. -/
  | unacceptable
  /-- No whole body. -/
  | missing
  deriving DecidableEq, Repr

/-- How an exchange reads. -/
def answer : Except TransportFault Response → Answer
  | .error _ => .missing
  | .ok r =>
    match judge r with
    | .oversized => .unacceptable
    | .brokenOff => .missing
    | .whole body => if isMarked body then .accepted else .unacceptable

/-- What a request gives, by what came of it. -/
def verdict (url : String) : Except TransportFault Response → Except BridgeError Unit
  | .error fault => .error (.transport url fault)
  | .ok r =>
    match judge r with
    | .oversized => .error (.unexpectedResponse url s!"response exceeds {bodyLimit - 1} bytes")
    | .brokenOff => .error (.transport url .brokenOff)
    | .whole body =>
      if isMarked body then .ok () else .error (.unexpectedResponse url "missing success marker")

/-- What a request gives for an answer. -/
inductive Answer.Gives : Answer → Except BridgeError Unit → Prop
  | accepted : Gives .accepted (.ok ())
  | unacceptable {e : BridgeError} : e.isProtocolViolation = true → Gives .unacceptable (.error e)
  | missing {e : BridgeError} : e.isProtocolViolation = false → Gives .missing (.error e)

theorem verdict_gives (url : String) (r : Except TransportFault Response) :
    (answer r).Gives (verdict url r) := by
  rcases r with fault | r
  · exact .missing rfl
  rw [verdict, answer]
  rcases judge r with _ | _ | body
  · exact .unacceptable rfl
  · exact .missing rfl
  · cases hm : isMarked body with
    | false => simpa only [hm] using .unacceptable rfl
    | true => simpa only [hm, if_true] using .accepted

/-- **Which responses are accepted**: short, complete and marked ones. -/
theorem answer_accepted_iff (r : Response) :
    answer (.ok r) = .accepted ↔
      r.chunks.flatten.length < bodyLimit ∧ r.complete = true ∧
        isMarked r.chunks.flatten = true := by
  rw [answer, judge_eq]
  generalize r.chunks.flatten = body
  by_cases hlong : bodyLimit ≤ body.length
  · simp [hlong, Nat.not_lt_of_le hlong]
  · cases r.complete
    · simp [hlong]
    · cases hm : isMarked body <;> simp [hlong, hm, Nat.lt_of_not_le hlong]

/-! ## Requests -/

variable {σ : Type} (S : Surroundings σ)

/-- The URL that a request is sent to, if one can be sent. -/
def target? (a : Activator) (path : String) : Option Url :=
  match Url.parse (a.requestText path).toList with
  | .error _ => none
  | .ok u => if u.scheme = "http".toList ∨ u.scheme = "https".toList then some u else none

/-- **A request gives its verdict**, and all it does besides is to tell of the
body. -/
theorem receive_apply (url : String) (r : Except TransportFault Response) (w : σ) :
    receive S url r w = (verdict url r, w) ∨
      ∃ report, receive S url r w = (verdict url r, (S.report report w).2) := by
  rcases r with fault | r
  · exact .inl rfl
  rw [receive, verdict]
  rcases judge r with _ | _ | body
  · exact .inl rfl
  · exact .inl rfl
  · simp only [Trial.bind_apply, Trial.monadLift_apply, isMarked]
    refine .inr ⟨⟨.info, String.ofList (Utf8.decodeLossy body)⟩, ?_⟩
    by_cases hm : occursIn Agent.successMarker.toList (Utf8.decodeLossy body) = true
    · simp only [hm, if_true]
      rfl
    · simp only [hm]
      rfl

/-- A request: its URL is told of, it is sent, and what comes of it is judged. -/
theorem request_apply (a : Activator) (path : String) (w : σ) :
    a.request S path w =
      receive S (a.requestText path)
        (send S (a.requestText path) (S.info (a.requestText path) w).2).1
        (send S (a.requestText path) (S.info (a.requestText path) w).2).2 := by
  simp only [request, Trial.bind_apply, Trial.monadLift_apply]

/-- A request goes to its target, and without one there is a fault. -/
theorem send_cases (a : Activator) (path : String) (w : σ) :
    (∃ u, a.target? path = some u ∧ send S (a.requestText path) w = S.get u w) ∨
      (a.target? path = none ∧ ∃ fault, send S (a.requestText path) w = (.error fault, w)) := by
  rw [target?, send]
  rcases Url.parse (a.requestText path).toList with fault | u
  · exact .inr ⟨rfl, _, rfl⟩
  · dsimp only
    by_cases hscheme : u.scheme = "http".toList ∨ u.scheme = "https".toList
    · rw [if_pos hscheme, if_pos hscheme]
      exact .inl ⟨u, rfl, rfl⟩
    · rw [if_neg hscheme, if_neg hscheme]
      exact .inr ⟨rfl, _, rfl⟩

theorem send_of_target {a : Activator} {path : String} {u : Url} (h : a.target? path = some u)
    (w : σ) : send S (a.requestText path) w = S.get u w := by
  rcases send_cases S a path w with ⟨u', hu, hsend⟩ | ⟨hnone, -⟩
  · rw [h] at hu
    cases hu
    exact hsend
  · rw [h] at hnone
    cases hnone

theorem send_of_no_target {a : Activator} {path : String} (h : a.target? path = none) (w : σ) :
    ∃ fault, send S (a.requestText path) w = (.error fault, w) := by
  rcases send_cases S a path w with ⟨u, hu, -⟩ | ⟨-, hfault⟩
  · rw [h] at hu
    cases hu
  · exact hfault

end Activator

end DeviceLink
