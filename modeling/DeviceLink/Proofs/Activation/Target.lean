import DeviceLink.Proofs.Activation.Answer
import DeviceLink.Proofs.Text.Stops
/-!
# Activation — where requests are sent

The URL of an operation is its endpoint's text with the operation's path below
it. A URL is read from left to right, and what was read before a slash is not
changed by what follows it (`afterSlashes_stop`); so whether a request can be
sent is a matter of the endpoint alone (`any_parse_below`). One endpoint is
special: where its text has a scheme and slashes only, the first segment of the
path is read as the host. The operations' first segments would all do as one.
So an agent that can be asked to start can be asked to stop.
-/

namespace DeviceLink

open Text

namespace Url

/-- A text up to where nothing but edges follows, with what counts of it. -/
def trailing (cs : List Char) : List Char :=
  (cs.reverse.dropWhile isEdge).reverse.filter (!isSkipped ·)

theorem trailing_stop (h y : List Char) :
    trailing (h ++ '/' :: y) = h.filter (!isSkipped ·) ++ '/' :: trailing y := by
  simp only [trailing, List.reverse_append, List.reverse_cons, List.append_assoc,
    List.singleton_append]
  rw [dropWhile_stop (by decide)]
  simp [isSkipped]

theorem clean_eq_trailing (cs : List Char) : clean cs = trailing (cs.dropWhile isEdge) := rfl

theorem clean_stop (a y : List Char) :
    clean (a ++ '/' :: y) = (a.dropWhile isEdge).filter (!isSkipped ·) ++ '/' :: trailing y := by
  rw [clean_eq_trailing, dropWhile_stop (by decide), trailing_stop]

/-- A scheme ends before the first slash. -/
theorem scheme?_stop (b z : List Char) :
    scheme? (b ++ '/' :: z) = (scheme? b).map fun y => (y.1, y.2 ++ '/' :: z) := by
  simp only [scheme?]
  rw [takeWhile_stop (by decide), dropWhile_stop (by decide)]
  generalize b.takeWhile _ = name
  generalize b.dropWhile _ = rest
  rcases name with _ | ⟨c, name⟩
  · rfl
  · rcases rest with _ | ⟨d, rest⟩
    · rfl
    · by_cases hd : d = ':'
      · subst hd
        simp only [List.cons_append]
        split <;> rfl
      · simp [hd]

/-- So does a host. -/
theorem hostText_stop (special : Bool) (z : List Char) : ∀ (inside : Bool) (y : List Char),
    hostText special inside (y ++ '/' :: z) =
      ((hostText special inside y).1, (hostText special inside y).2 ++ '/' :: z) := by
  intro inside y
  induction y generalizing inside with
  | nil => simp [hostText, endsAuthority]
  | cons c y ih =>
      simp only [List.cons_append, hostText]
      split
      · rfl
      · rw [ih]

theorem head?_stop (y z : List Char) : (y ++ '/' :: z).head? = some (y.headD '/') := by
  cases y <;> rfl

/-- And a port. -/
theorem readPort_stop (implied : Option Port) (y : List Char) :
    ∃ r : Except Fault (Option Port × List Char), ∀ z,
      readPort implied (y ++ '/' :: z) = r.map fun x => (x.1, x.2 ++ '/' :: z) := by
  rcases y with _ | ⟨c, y⟩
  · exact ⟨.ok (none, []), fun z => rfl⟩
  · by_cases hc : c = ':'
    · subst hc
      have hslash : Char.isDigit '/' = false := by decide
      simp only [List.cons_append, readPort, takeWhile_stop hslash, dropWhile_stop hslash,
        head?_stop]
      split
      · exact ⟨.error .port, fun z => rfl⟩
      · split
        · exact ⟨.error .port, fun z => rfl⟩
        · exact ⟨.ok (_, _), fun z => rfl⟩
    · exact ⟨.ok (none, c :: y), fun z => by simp [readPort, hc, Except.map]⟩

/-- **What is read before a slash** is not changed by what follows it. -/
theorem afterSlashes_stop (scheme : List Char) (family : Family) (y : List Char) :
    ∃ r : Except Fault (Url × List Char), ∀ z,
      afterSlashes scheme family (y ++ '/' :: z) =
        r.map fun x => withTails family x.1 (x.2 ++ '/' :: z) := by
  -- The user's part ends before the slash.
  obtain ⟨user, rest, hrest⟩ : ∃ user rest, ∀ z,
      (splitUser ((y ++ '/' :: z).takeWhile fun c => !endsAuthority family.isSpecial c)).elim
        (none, y ++ '/' :: z) (fun x => (some x.1, x.2 ++
          (y ++ '/' :: z).dropWhile fun c => !endsAuthority family.isSpecial c)) =
        (user, rest ++ '/' :: z) := by
    have htake := takeWhile_stop (p := fun c => !endsAuthority family.isSpecial c) (x := '/') rfl y
    have hdrop := dropWhile_stop (p := fun c => !endsAuthority family.isSpecial c) (x := '/') rfl y
    simp only [htake, hdrop]
    rcases splitUser (y.takeWhile _) with _ | ⟨user, rest⟩
    · exact ⟨none, y, fun _ => rfl⟩
    · exact ⟨some user, rest ++ y.dropWhile fun c => !endsAuthority family.isSpecial c,
        fun _ => by simp⟩
  obtain ⟨port, hport⟩ := readPort_stop (impliedPort scheme)
    (hostText family.isSpecial false rest).2
  unfold afterSlashes
  simp only [hrest, head?_stop, hostText_stop, hport]
  generalize hostText family.isSpecial false rest = found
  by_cases huser :
    (decide (user = some []) && (some (rest.headD '/')).any (endsAuthority family.isSpecial)) = true
  · exact ⟨.error .emptyHost, fun z => by simp only [huser, if_true]; rfl⟩
  by_cases htext :
    (found.1.isEmpty && (family.isSpecial || some (found.2.headD '/') == some ':')) = true
  · exact ⟨.error .emptyHost, fun z => by simp only [huser, htext, if_true]; rfl⟩
  simp only [huser, htext, Bool.false_eq_true, if_false]
  generalize (user.getD []).takeWhile (· != ':') = username
  generalize ((user.getD []).dropWhile (· != ':')).drop 1 = password
  let url (host : Option Host) (port : Option Port) : Url :=
    { scheme, host, port, path := .segments [],
      username := Percent.encode Percent.inUserInfo username,
      password := Percent.encode Percent.inUserInfo password }
  by_cases hempty : found.1.isEmpty = true
  · simp only [hempty, if_true, pure_bind, Option.isNone_none, Bool.true_and]
    rcases port with e | port
    · exact ⟨.error e, fun z => rfl⟩
    -- Without a host there must be no user.
    by_cases hfit : (!(username.isEmpty && password.isEmpty)) = true
    · exact ⟨.error .emptyHost, fun z => by simp only [hfit, if_true]; rfl⟩
    · exact ⟨.ok (url none port.1, port.2), fun z => by
        simp only [hfit, Bool.false_eq_true, if_false]
        rfl⟩
  · simp only [hempty, Bool.false_eq_true, if_false]
    rcases readHost family.isSpecial found.1 with e | host
    · exact ⟨.error e, fun z => rfl⟩
    · rcases port with e | port
      · exact ⟨.error e, fun z => rfl⟩
      · exact ⟨.ok (url (some host) port.1, port.2), fun z => rfl⟩

/-! ## Schemes -/

/-! A URL has the scheme it was read with, in each family. -/

theorem afterSlashes_scheme {scheme : List Char} {family : Family} {cs : List Char} {u : Url}
    (h : afterSlashes scheme family cs = .ok u) : u.scheme = scheme := by
  simp only [afterSlashes, bind, Except.bind, pure, Except.pure] at h
  repeat' split at h
  all_goals first | (cases h; done) | (cases h; rfl)

theorem file_scheme {scheme cs : List Char} {u : Url} (h : file scheme cs = .ok u) :
    u.scheme = scheme := by
  simp only [file, bind, Except.bind, pure, Except.pure] at h
  repeat' split at h
  all_goals first | (cases h; done) | (cases h; rfl)

theorem other_scheme {scheme cs : List Char} {u : Url} (h : other scheme cs = .ok u) :
    u.scheme = scheme := by
  unfold other at h
  split at h
  · exact afterSlashes_scheme h
  · cases h; rfl
  · cases h; rfl

/-- The URLs a request can be sent to. -/
def isSendable (u : Url) : Bool := u.scheme == "http".toList || u.scheme == "https".toList

/-- A request can be sent to a URL of one of two schemes, if its authority can be
read. -/
theorem any_parse (text : List Char) :
    (parse text).toOption.any isSendable = (scheme? (clean text)).any fun y =>
      (y.1 == "http".toList || y.1 == "https".toList) &&
        (afterSlashes y.1 .web (y.2.dropWhile fun c => c == '/' || c == '\\')).isOk := by
  rw [parse]
  rcases scheme? (clean text) with _ | ⟨scheme, rest⟩
  · rfl
  simp only [Option.any_some]
  by_cases hs : (scheme == "http".toList || scheme == "https".toList) = true
  · have hweb : Family.ofScheme scheme = .web := by
      rcases Bool.or_eq_true _ _ ▸ hs with h | h <;> (rw [beq_iff_eq] at h; subst h; decide)
    rw [hweb, hs]
    dsimp only
    rcases h : afterSlashes scheme .web _ with e | u
    · rfl
    · simpa [Except.toOption, Except.isOk, Except.toBool, isSendable, afterSlashes_scheme h]
        using hs
  · have hnot : ∀ {r : Except Fault Url}, (∀ u, r = .ok u → u.scheme = scheme) →
        r.toOption.any isSendable = false := by
      rintro (e | u) h
      · rfl
      · simpa [Except.toOption, isSendable, h u rfl] using hs
    rw [Bool.not_eq_true] at hs
    rw [hs, Bool.false_and]
    split
    · exact hnot fun _ => afterSlashes_scheme
    · exact hnot fun _ => file_scheme
    · exact hnot fun _ => other_scheme

/-- Whether an authority can be read does not depend on what follows it. -/
theorem isOk_afterSlashes_stop (scheme : List Char) (family : Family) (y z z' : List Char) :
    (afterSlashes scheme family (y ++ '/' :: z)).isOk =
      (afterSlashes scheme family (y ++ '/' :: z')).isOk := by
  obtain ⟨r, hr⟩ := afterSlashes_stop scheme family y
  rw [hr, hr]
  cases r <;> rfl

/-- **A segment that would also do as a host.** -/
structure IsHostlike (h : List Char) : Prop where
  kept : h.filter (!isSkipped ·) = h
  unslashed : ∀ z, (h ++ '/' :: z).dropWhile (fun c => c == '/' || c == '\\') = h ++ '/' :: z
  host : ∀ scheme ∈ ["http".toList, "https".toList],
    (afterSlashes scheme .web (h ++ ['/'])).isOk = true

/-- Whether a request can be sent to what is below a text. -/
def isBase (cs : List Char) : Bool :=
  (scheme? ((cs.dropWhile isEdge).filter (!isSkipped ·))).any fun y =>
    let rest := y.2.dropWhile fun c => c == '/' || c == '\\'
    (y.1 == "http".toList || y.1 == "https".toList) &&
      (rest.isEmpty || (afterSlashes y.1 .web (rest ++ ['/'])).isOk)

/-- **Whether a request can be sent** to what is below a text does not depend on
what that is. -/
theorem any_parse_below (a : List Char) {h : List Char} (hh : IsHostlike h) (z : List Char) :
    (parse (a ++ '/' :: (h ++ '/' :: z))).toOption.any isSendable = isBase a := by
  rw [any_parse, clean_stop, trailing_stop, hh.kept, scheme?_stop, isBase, Option.any_map]
  rcases scheme? ((a.dropWhile isEdge).filter (!isSkipped ·)) with _ | ⟨scheme, r⟩
  · rfl
  simp only [Option.any_some, List.dropWhile_append]
  by_cases hs : (scheme == "http".toList || scheme == "https".toList) = true
  · congr 1
    cases hr : (r.dropWhile fun c => c == '/' || c == '\\').isEmpty with
    | true =>
        rw [if_pos rfl, Bool.true_or]
        change (afterSlashes scheme .web ((h ++ '/' :: trailing z).dropWhile _)).isOk = true
        rw [hh.unslashed, isOk_afterSlashes_stop _ _ _ _ []]
        exact hh.host scheme (by simpa using hs)
    | false =>
        rw [if_neg Bool.false_ne_true, Bool.false_or, isOk_afterSlashes_stop _ _ _ _ []]
  · rw [Bool.not_eq_true] at hs
    rw [hs, Bool.false_and, Bool.false_and]

end Url

namespace Activator

open Url

/-- A request has a target where its text is a URL that one can be sent to. -/
theorem isSome_target? (a : Activator) (path : String) :
    (a.target? path).isSome =
      (parse (trimSlashes a.base.render ++ '/' :: path.toList)).toOption.any isSendable := by
  rw [target?, requestText, String.toList_ofList]
  rcases parse (trimSlashes a.base.render ++ '/' :: path.toList) with e | u
  · rfl
  · simp only [Except.toOption, Option.any_some, isSendable]
    split <;> simp_all

theorem isHostlike_start : IsHostlike "startScrcpy".toList :=
  ⟨by decide, fun _ => rfl, by decide +kernel⟩

theorem isHostlike_stop : IsHostlike "stopScrcpy".toList :=
  ⟨by decide, fun _ => rfl, by decide +kernel⟩

/-- **An endpoint can be asked to stop an agent where it can be asked to start it.** -/
theorem isSome_target?_eq (a : Activator) (p : Params) :
    (a.target? (Agent.startPath p)).isSome = (a.target? Agent.stopPath).isSome := by
  rw [isSome_target?, isSome_target?]
  have hstart : (Agent.startPath p).toList =
      "startScrcpy".toList ++ '/' :: ("/".intercalate (Agent.arguments p true)).toList := by
    rw [Agent.startPath, String.toList_append]
    rfl
  have hstop : Agent.stopPath.toList = "stopScrcpy".toList ++ '/' :: [] := by rfl
  rw [hstart, hstop, any_parse_below _ isHostlike_start, any_parse_below _ isHostlike_stop]

end Activator
end DeviceLink
