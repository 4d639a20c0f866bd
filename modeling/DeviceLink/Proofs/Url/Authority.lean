import DeviceLink.Proofs.Activation.Target
import DeviceLink.Proofs.Configuration.Ports
import DeviceLink.Proofs.Url.Hosts
/-!
# URLs — authorities are read back

What stands before the path of a URL that was read — its scheme, its user, its
host and its port — is read back from where the URL is written, whatever
follows (`Anchored.parse_site`): each part is in the form it is read as, and none has
a character that would end it early.
-/

namespace DeviceLink

open Text

namespace Url

/-! ## Schemes -/

theorem ascii_of_all {p : Char → Bool} (h : ((List.range 128).all fun n => p (Char.ofNat n)) = true)
    {c : Char} (hc : c.toNat < 128) : p c = true := by
  have hmem := List.all_eq_true.1 h c.toNat (List.mem_range.2 hc)
  rwa [Char.ofNat_toNat] at hmem

/-- What a scheme is made of. -/
def isSchemePart (c : Char) : Bool := c.isAlphanum || c == '+' || c == '-' || c == '.'

theorem toNat_lt_of_isSchemePart {c : Char} (h : isSchemePart c = true) : c.toNat < 128 := by
  have hranges : isSchemePart c =
      ((((decide (c.val ≥ 'A'.val ∧ c.val ≤ 'Z'.val)) || (c.val ≥ 'a'.val && c.val ≤ 'z'.val)) ||
        (c.val ≥ '0'.val && c.val ≤ '9'.val)) || c == '+' || c == '-' || c == '.') := rfl
  rw [hranges] at h
  simp only [Bool.or_eq_true, Bool.and_eq_true, decide_eq_true_eq, beq_iff_eq, ge_iff_le,
    UInt32.le_iff_toNat_le] at h
  have hval : c.toNat = c.val.toNat := rfl
  have hupper : 'Z'.val.toNat = 90 := rfl
  have hlower : 'z'.val.toNat = 122 := rfl
  have hdigit : '9'.val.toNat = 57 := rfl
  rcases h with ((((⟨-, h⟩ | ⟨-, h⟩) | ⟨-, h⟩) | rfl) | rfl) | rfl
  · omega
  · omega
  · omega
  · decide
  · decide
  · decide

/-- In lower case a scheme is still one, and can be seen. -/
theorem isSchemePart_toLower {c : Char} (h : isSchemePart c = true) :
    isSchemePart c.toLower = true ∧ c.toLower.toLower = c.toLower ∧ isEdge c.toLower = false ∧
      (c.isAlpha = true → c.toLower.isAlpha = true) := by
  have hall := ascii_of_all
    (p := fun c => !isSchemePart c || (isSchemePart c.toLower && c.toLower.toLower == c.toLower &&
      !isEdge c.toLower && (!c.isAlpha || c.toLower.isAlpha)))
    (by decide) (toNat_lt_of_isSchemePart h)
  rw [h, Bool.not_true, Bool.false_or] at hall
  simp only [Bool.and_eq_true, Bool.not_eq_true', beq_iff_eq, Bool.or_eq_true] at hall
  refine ⟨hall.1.1.1, hall.1.1.2, hall.1.2, fun halpha => hall.2.resolve_left ?_⟩
  rw [halpha]
  exact Bool.noConfusion

theorem scheme?_eq (cs : List Char) :
    scheme? cs =
      match cs.takeWhile isSchemePart, cs.dropWhile isSchemePart with
      | c :: name, ':' :: rest =>
        if c.isAlpha then some ((c :: name).map Char.toLower, rest) else none
      | _, _ => none := rfl

/-- **A scheme is read back**, whatever follows its colon. -/
theorem scheme?_self {cs scheme rest : List Char} (h : scheme? cs = some (scheme, rest)) :
    (∀ z, scheme? (scheme ++ ':' :: z) = some (scheme, z)) ∧ ∀ c ∈ scheme, isEdge c = false := by
  rw [scheme?_eq] at h
  split at h
  · next c name rest' hname _ =>
    have hparts : ∀ d ∈ c :: name, isSchemePart d = true := by
      rw [← hname]
      exact fun d hd => List.all_eq_true.1 List.all_takeWhile d hd
    split at h
    · next halpha =>
      injection h with h
      injection h with hscheme _
      have hlower : ∀ d ∈ scheme, isSchemePart d = true ∧ d.toLower = d ∧ isEdge d = false := by
        intro d hd
        rw [← hscheme] at hd
        obtain ⟨e, he, rfl⟩ := List.mem_map.1 hd
        have hpart := isSchemePart_toLower (hparts e he)
        exact ⟨hpart.1, hpart.2.1, hpart.2.2.1⟩
      have hsame : scheme.map Char.toLower = scheme :=
        (List.map_congr_left fun d hd => (hlower d hd).2.1).trans (List.map_id scheme)
      refine ⟨fun z => ?_, fun d hd => (hlower d hd).2.2⟩
      have hrun : ∀ d ∈ scheme, isSchemePart d = true := fun d hd => (hlower d hd).1
      have hcolon : ∀ d ∈ (':' :: z).head?, isSchemePart d = false :=
        forall_head?_cons (by decide) z
      have hfirst : c.toLower.isAlpha = true :=
        (isSchemePart_toLower (hparts c List.mem_cons_self)).2.2.2 halpha
      rw [scheme?_eq, takeWhile_run hrun hcolon, dropWhile_run hrun hcolon]
      rw [← hscheme, List.map_cons] at hsame ⊢
      simp only [hfirst, if_true, hsame]
    · exact absurd h.symm (Option.some_ne_none _)
  · exact absurd h.symm (Option.some_ne_none _)

/-! ## Users -/

theorem splitUser_append {y : List Char} (h : '@' ∉ y) (x : List Char) :
    splitUser (x ++ '@' :: y) = some (x, y) := by
  have hmem : (x ++ '@' :: y).contains '@' = true := by simp
  have hrun : ∀ c ∈ y.reverse, (c != '@') = true := by
    intro c hc
    rw [bne_iff_ne]
    rintro rfl
    exact h (List.mem_reverse.1 hc)
  have hreverse : (x ++ '@' :: y).reverse = y.reverse ++ '@' :: x.reverse := by simp
  have hstop : ∀ c ∈ ('@' :: x.reverse).head?, (c != '@') = false :=
    forall_head?_cons (by decide) x.reverse
  rw [splitUser, hmem, if_pos rfl, hreverse, dropWhile_run hrun hstop, takeWhile_run hrun hstop]
  simp

theorem splitUser_of_not_mem {y : List Char} (h : '@' ∉ y) : splitUser y = none := by
  have hmem : y.contains '@' = false := by simpa using h
  rw [splitUser, hmem, if_neg Bool.false_ne_true]

/-! ## Ports -/

/-- The port as it stands in a URL. -/
def portText (port : Option Port) : List Char := port.elim [] fun p => ':' :: (toString p).toList

/-- What may follow an authority. -/
def EndsAuthority (z : List Char) : Prop := ∀ c ∈ z.head?, endsAuthority false c = true

theorem EndsAuthority.cons {c : Char} (h : endsAuthority false c = true) (r : List Char) :
    EndsAuthority (c :: r) :=
  forall_head?_cons (P := fun c => endsAuthority false c = true) h r

theorem EndsAuthority.special {z : List Char} (h : EndsAuthority z) (special : Bool) :
    ∀ c ∈ z.head?, endsAuthority special c = true := by
  intro c hc
  have hends := h c hc
  cases special with
  | false => exact hends
  | true =>
    simp only [endsAuthority, Bool.false_and, Bool.or_false] at hends ⊢
    rw [hends, Bool.true_or]

theorem endsHost_portText (special : Bool) (port : Option Port) {z : List Char}
    (h : EndsAuthority z) : EndsHost special (portText port ++ z) := by
  rcases port with _ | p
  · exact fun c hc => .inl (h.special special c hc)
  · exact forall_head?_cons (.inr rfl) _

/-- **A port is read back**, unless the scheme implies it. -/
theorem readPort_portText {implied port : Option Port} (hport : ∀ p, port = some p → implied ≠ port)
    {z : List Char} (hz : EndsAuthority z) :
    readPort implied (portText port ++ z) = .ok (port, z) := by
  rcases port with _ | p
  · rw [portText, Option.elim_none, List.nil_append]
    rcases z with _ | ⟨c, z⟩
    · rfl
    · have hc : c ≠ ':' := by
        rintro rfl
        exact absurd (hz ':' rfl) (by decide)
      rw [readPort]
      intro r heq
      injection heq with heq _
      exact hc heq
  · have hdigits : ∀ c ∈ (toString p).toList, c.isDigit = true := by
      rw [PortRange.toList_toString]
      exact fun c => isDigit_of_mem_toDigits
    have hstop : ∀ c ∈ z.head?, c.isDigit = false := by
      intro c hc
      rw [Bool.eq_false_iff]
      intro hdigit
      have hends := isDigit_of_all (p := (!endsAuthority false ·)) (by decide) hdigit
      rw [hz c hc] at hends
      exact Bool.noConfusion hends
    have hvalue : digitsValue (toString p).toList = p.toNat := by
      rw [PortRange.toList_toString, digitsValue_toDigits]
    have hfits : ¬ 65535 < p.toNat := by
      have hlt : p.toNat < 65536 := p.toNat_lt
      omega
    have hnext : (z.head?.any fun c => !endsAuthority true c) = false := by
      rcases hhead : z.head? with _ | c
      · rfl
      · simp [hz.special true c hhead]
    have hnonempty : (toString p).toList.isEmpty = false := by
      rw [PortRange.toList_toString, List.isEmpty_eq_false_iff]
      exact Nat.toDigits_ne_nil
    have hgiven : UInt16.ofNat p.toNat = p := UInt16.ofNat_toNat
    have hother : some p ≠ implied := (hport p rfl).symm
    simp only [portText, Option.elim_some, List.cons_append, readPort, takeWhile_run hdigits hstop,
      dropWhile_run hdigits hstop, hvalue, hfits, hnext, hnonempty, hgiven, hother, if_false,
      Bool.false_eq_true]

/-! ## Authorities -/

/-- **A URL whose authority is read back** from where it is written. -/
structure Anchored (u : Url) (h : Host) : Prop where
  host : u.host = some h
  settled : Settled (Family.ofScheme u.scheme).isSpecial h
  scheme : ∀ z, scheme? (u.scheme ++ ':' :: z) = some (u.scheme, z)
  visible : ∀ c ∈ u.scheme, isEdge c = false
  username : ∀ c ∈ u.username, Percent.inUserInfo c = false
  password : ∀ c ∈ u.password, Percent.inUserInfo c = false
  port : ∀ p, u.port = some p → impliedPort u.scheme ≠ u.port
  /-- A file has nothing but a host, and that is not this one. -/
  onFile : Family.ofScheme u.scheme = .file →
    u.userInfo = [] ∧ u.port = none ∧ h ≠ .domain "localhost".toList

/-- The authority without the slashes before it. -/
def site (u : Url) (h : Host) : List Char := u.userInfo ++ h.render ++ portText u.port

theorem authority_eq {u : Url} {h : Host} (hhost : u.host = some h) :
    u.authority = '/' :: '/' :: site u h := by
  rw [authority, hhost]
  rfl

theorem ne_of_not_inUserInfo {c d : Char} (hc : Percent.inUserInfo c = false)
    (hd : Percent.inUserInfo d = true) : c ≠ d := by
  rintro rfl
  rw [hd] at hc
  exact Bool.noConfusion hc

/-- What may stand in a user's part, its own marks apart. -/
theorem free_of_not_inUserInfo (special : Bool) {c : Char} (h : Percent.inUserInfo c = false) :
    endsAuthority special c = false ∧ isSkipped c = false := by
  have hne : ∀ d, Percent.inUserInfo d = true → (c == d) = false := fun d hd =>
    beq_eq_false_iff_ne.2 (ne_of_not_inUserInfo h hd)
  simp [endsAuthority, isSkipped, hne '/' (by decide), hne '?' (by decide), hne '#' (by decide),
    hne '\\' (by decide), hne '\t' (by decide), hne '\n' (by decide), hne '\r' (by decide)]

theorem mem_userInfo {u : Url} {c : Char} (hc : c ∈ u.userInfo) :
    c ∈ u.username ∨ c ∈ u.password ∨ c = ':' ∨ c = '@' := by
  simp only [userInfo] at hc
  split at hc
  · exact absurd hc List.not_mem_nil
  · split at hc
    · simp only [List.mem_append, List.mem_singleton, List.not_mem_nil, or_false] at hc
      rcases hc with hc | rfl
      · exact .inl hc
      · exact .inr (.inr (.inr rfl))
    · simp only [List.mem_append, List.mem_cons, List.not_mem_nil, or_false] at hc
      rcases hc with (hc | rfl | hc) | rfl
      · exact .inl hc
      · exact .inr (.inr (.inl rfl))
      · exact .inr (.inl hc)
      · exact .inr (.inr (.inr rfl))

theorem mem_portText {port : Option Port} {c : Char} (hc : c ∈ portText port) :
    c = ':' ∨ c.isDigit = true := by
  rcases port with _ | p
  · exact absurd hc List.not_mem_nil
  · rw [portText, Option.elim_some, List.mem_cons, PortRange.toList_toString] at hc
    rcases hc with rfl | hc
    · exact .inl rfl
    · exact .inr (isDigit_of_mem_toDigits hc)

theorem free_portText (special : Bool) {port : Option Port} {c : Char} (hc : c ∈ portText port) :
    endsAuthority special c = false ∧ c ≠ '@' ∧ isSkipped c = false := by
  rcases mem_portText hc with rfl | hdigit
  · cases special <;> decide
  · have hfree := isDigit_of_all
      (p := fun c => !endsAuthority true c && c != '@' && !isSkipped c) (by decide) hdigit
    simp only [Bool.and_eq_true, Bool.not_eq_true', bne_iff_ne, ne_eq] at hfree
    exact ⟨endsAuthority_eq_false hfree.1.1 special, hfree.1.2, hfree.2⟩

variable {u : Url} {h : Host}

/-- Nothing in an authority ends it, or is skipped. -/
theorem Anchored.free_site (hu : Anchored u h) {c : Char} (hc : c ∈ site u h) :
    endsAuthority (Family.ofScheme u.scheme).isSpecial c = false ∧ isSkipped c = false := by
  generalize hspecial : (Family.ofScheme u.scheme).isSpecial = special
  have hsettled := hu.settled
  rw [hspecial] at hsettled
  rw [site, List.mem_append, List.mem_append] at hc
  rcases hc with (hc | hc) | hc
  · rcases mem_userInfo hc with hc | hc | rfl | rfl
    · exact free_of_not_inUserInfo special (hu.username c hc)
    · exact free_of_not_inUserInfo special (hu.password c hc)
    · cases special <;> decide
    · cases special <;> decide
  · exact ⟨(hsettled.free c hc).1, (hsettled.free c hc).2.2⟩
  · exact ⟨(free_portText special hc).1, (free_portText special hc).2.2⟩

/-- The user's part is read back from before the host. -/
theorem Anchored.user_site (hu : Anchored u h) (z : List Char) :
    ∃ user : Option (List Char),
      (splitUser (site u h)).elim (none, site u h ++ z) (fun x => (some x.1, x.2 ++ z)) =
        (user, h.render ++ (portText u.port ++ z)) ∧
      user ≠ some [] ∧
      (user.getD []).takeWhile (· != ':') = u.username ∧
      ((user.getD []).dropWhile (· != ':')).drop 1 = u.password := by
  have hat : '@' ∉ h.render ++ portText u.port := by
    rw [List.mem_append]
    rintro (hmem | hmem)
    · exact (hu.settled.free _ hmem).2.1 rfl
    · exact (free_portText false hmem).2.1 rfl
  have hrun : ∀ c ∈ u.username, (c != ':') = true := by
    intro c hc
    rw [bne_iff_ne]
    exact ne_of_not_inUserInfo (hu.username c hc) (by decide)
  by_cases hnone : (u.username.isEmpty && u.password.isEmpty) = true
  · have hinfo : u.userInfo = [] := by
      simp only [userInfo, hnone, if_true]
    rw [Bool.and_eq_true, List.isEmpty_iff, List.isEmpty_iff] at hnone
    refine ⟨none, ?_, Option.some_ne_none [] |>.symm, hnone.1.symm, hnone.2.symm⟩
    rw [site, hinfo, List.nil_append, splitUser_of_not_mem hat, Option.elim_none,
      List.append_assoc]
  · have hinfo : u.userInfo = u.username ++
        (if u.password.isEmpty then [] else ':' :: u.password) ++ ['@'] := by
      simp only [userInfo, hnone, Bool.false_eq_true, if_false]
    refine ⟨some (u.username ++ (if u.password.isEmpty then [] else ':' :: u.password)), ?_, ?_⟩
    · rw [site, hinfo, List.append_assoc, List.append_assoc, List.singleton_append,
        splitUser_append hat, Option.elim_some, List.append_assoc]
    · rw [Option.getD_some]
      by_cases hempty : u.password.isEmpty = true
      · have hstop : ∀ c ∈ ([] : List Char).head?, (c != ':') = false := by simp
        rw [hempty] at hnone
        rw [if_pos hempty, takeWhile_run hrun hstop, dropWhile_run hrun hstop]
        rw [List.isEmpty_iff] at hempty
        refine ⟨?_, rfl, hempty.symm⟩
        simpa using hnone
      · have hstop : ∀ c ∈ (':' :: u.password).head?, (c != ':') = false :=
          forall_head?_cons (by decide) u.password
        rw [if_neg hempty, takeWhile_run hrun hstop, dropWhile_run hrun hstop]
        refine ⟨?_, rfl, rfl⟩
        simp

/-- **An authority is read back** after its slashes. -/
theorem Anchored.afterSlashes_site (hu : Anchored u h) {z : List Char} (hz : EndsAuthority z) :
    afterSlashes u.scheme (Family.ofScheme u.scheme) (site u h ++ z) =
      .ok (withTails (Family.ofScheme u.scheme) { u with path := .segments [] } z) := by
  have hrun : ∀ c ∈ site u h,
      (!endsAuthority (Family.ofScheme u.scheme).isSpecial c) = true := by
    intro c hc
    rw [(hu.free_site hc).1]
    rfl
  have hstop : ∀ c ∈ z.head?, (!endsAuthority (Family.ofScheme u.scheme).isSpecial c) = false := by
    intro c hc
    rw [hz.special _ c hc]
    rfl
  obtain ⟨user, hsplit, hsome, husername, hpassword⟩ := hu.user_site z
  have huser : decide (user = some []) = false := decide_eq_false hsome
  have htext := hu.settled.ends _ (endsHost_portText _ u.port hz)
  have hnonempty : h.render.isEmpty = false := by
    rw [List.isEmpty_eq_false_iff]
    exact hu.settled.nonempty
  unfold afterSlashes
  simp only [takeWhile_run hrun hstop, dropWhile_run hrun hstop, hsplit, huser, husername,
    hpassword, htext, hnonempty, hu.settled.read, readPort_portText hu.port hz,
    Percent.encode_eq_self hu.username, Percent.encode_eq_self hu.password, Bool.false_and,
    Bool.false_eq_true, if_false]
  have hread : ({ u with host := some h, path := .segments [] } : Url) =
      { u with path := .segments [] } := by rw [← hu.host]
  rw [← hread]
  rfl

/-! ## URLs -/

/-- A file as it is read where its path is `z` and its host `h`: the host is dropped
where it is this one, or where the path starts with a drive. -/
def onHost (scheme : List Char) (h : Host) (z : List Char) : Url :=
  let found := withTails .file { scheme, path := .segments [] } z
  if isDrive ((segments .file (tails .file z).1).headD []) || h == .domain "localhost".toList then
    found
  else { found with host := some h }

/-- How a file is read whose slashes and host are told. -/
theorem file_eq_onHost {scheme cs : List Char}
    (hslashes : ¬ ((cs.take 2).takeWhile fun c => c == '/' || c == '\\').length < 2)
    (hempty : ¬ ((cs.drop 2).takeWhile (!endsAuthority true ·)).isEmpty = true)
    (hdrive : ¬ isDrive ((cs.drop 2).takeWhile (!endsAuthority true ·)) = true) :
    file scheme cs = (readHost true ((cs.drop 2).takeWhile (!endsAuthority true ·))).map fun h =>
      onHost scheme h
        ((cs.drop 2).drop ((cs.drop 2).takeWhile (!endsAuthority true ·)).length) := by
  simp only [file, hslashes, hempty, hdrive, if_false]
  generalize (cs.drop 2).drop _ = z
  rcases readHost true _ with e | h
  · rfl
  · have hpath : (withTails .file { scheme, path := .segments [] } z).path =
        .segments (segments .file (tails .file z).1) := rfl
    simp only [Except.map, onHost, hpath]
    rcases segments .file (tails .file z).1 with _ | ⟨s, r⟩
    all_goals
      rw [apply_ite Except.ok]
      rfl

/-- What a URL read from a text with the authority of another has of that: all but
what comes after the authority, which it has of the text that follows. -/
structure ReadsAs (u v : Url) (z : List Char) : Prop where
  scheme : v.scheme = u.scheme
  port : v.port = u.port
  path : v.path =
    .segments (segments (Family.ofScheme u.scheme) (tails (Family.ofScheme u.scheme) z).1)
  /-- On a file the host is dropped where a drive follows. -/
  host : (Family.ofScheme u.scheme = .file →
      isDrive ((segments .file (tails .file z).1).headD []) = false) → v.host = u.host

theorem Anchored.file_site (hu : Anchored u h) (hfile : Family.ofScheme u.scheme = .file)
    {z : List Char} (hz : EndsAuthority z) :
    ∃ v, file u.scheme ('/' :: '/' :: (site u h ++ z)) = .ok v ∧ ReadsAs u v z := by
  obtain ⟨hinfo, hport, hhere⟩ := hu.onFile hfile
  have hsettled := hu.settled
  rw [hfile] at hsettled
  have hsite : site u h = h.render := by
    rw [site, hinfo, hport, List.nil_append]
    exact List.append_nil _
  have hlocal : (h == Host.domain "localhost".toList) = false := beq_eq_false_iff_ne.2 hhere
  have hrun : ∀ c ∈ h.render, (!endsAuthority true c) = true := by
    intro c hc
    rw [Bool.not_eq_true']
    exact (hsettled.free c hc).1
  have hstop : ∀ c ∈ z.head?, (!endsAuthority true c) = false := by
    intro c hc
    rw [hz.special true c hc]
    rfl
  have htext : (h.render ++ z).takeWhile (!endsAuthority true ·) = h.render :=
    takeWhile_run hrun hstop
  have hread : file u.scheme ('/' :: '/' :: (h.render ++ z)) = .ok (onHost u.scheme h z) := by
    rw [file_eq_onHost]
    · simp only [List.drop_succ_cons, List.drop_zero, htext, List.drop_left]
      rw [show readHost true h.render = .ok h from hsettled.read]
      rfl
    · simp
    · simpa [htext] using hsettled.nonempty
    · simpa [htext] using hsettled.undriven
  refine ⟨_, by rw [hsite]; exact hread, ?_⟩
  rw [onHost, hlocal, Bool.or_false]
  split
  · next hdrive =>
    refine ⟨rfl, hport.symm, by rw [hfile]; rfl, fun hfree => ?_⟩
    rw [hfree hfile] at hdrive
    exact absurd hdrive Bool.false_ne_true
  · exact ⟨rfl, hport.symm, by rw [hfile]; rfl, fun _ => hu.host.symm⟩

theorem Anchored.site_ne_nil (hu : Anchored u h) : site u h ≠ [] := by
  rw [site]
  exact List.append_ne_nil_of_left_ne_nil
    (List.append_ne_nil_of_right_ne_nil _ hu.settled.nonempty) _

/-- Where both kinds of slash are passed over, the authority is left. -/
theorem Anchored.dropWhile_site (hu : Anchored u h) (hfamily : Family.ofScheme u.scheme = .web)
    (z : List Char) :
    ('/' :: '/' :: (site u h ++ z)).dropWhile (fun c => c == '/' || c == '\\') =
      site u h ++ z := by
  obtain ⟨c, r, hsite⟩ := List.exists_cons_of_ne_nil hu.site_ne_nil
  have hends : endsAuthority true c = false := by
    have hfree := (hu.free_site (c := c) (by rw [hsite]; exact List.mem_cons_self)).1
    rwa [hfamily] at hfree
  have hstop : (c == '/' || c == '\\') = false := by
    simp only [endsAuthority, Bool.true_and, Bool.or_eq_false_iff] at hends
    rw [hends.1.1.1, hends.2, Bool.or_false]
  have hrun : ∀ d ∈ ['/', '/'], (d == '/' || d == '\\') = true := by simp
  rw [hsite]
  exact dropWhile_run hrun (by simpa using hstop)

/-- **What is before the path is read back**, whatever follows. -/
theorem Anchored.parse_site (hu : Anchored u h) {z text : List Char} (hz : EndsAuthority z)
    (htext : clean text = u.scheme ++ ':' :: '/' :: '/' :: (site u h ++ z)) :
    ∃ v, parse text = .ok v ∧ ReadsAs u v z := by
  have hafter := hu.afterSlashes_site hz
  rw [parse, htext, hu.scheme]
  dsimp only
  rcases hfamily : Family.ofScheme u.scheme with _ | _ | _
  · dsimp only
    rw [hfamily] at hafter
    rw [hu.dropWhile_site hfamily, hafter]
    refine ⟨_, rfl, rfl, rfl, by rw [hfamily]; rfl, fun _ => rfl⟩
  · exact hu.file_site hfamily hz
  · dsimp only
    rw [hfamily] at hafter
    rw [other, hafter]
    exact ⟨_, rfl, rfl, rfl, by rw [hfamily]; rfl, fun _ => rfl⟩

/-! ## What was read -/

theorem readHost_of_map_some {special : Bool} {text : List Char} {host : Option Host}
    (htext : ¬ text.isEmpty = true) (hmap : (readHost special text).map some = .ok host) :
    ∀ h, host = some h → text ≠ [] ∧ readHost special text = .ok h := by
  intro h hh
  refine ⟨mt List.isEmpty_iff.2 htext, ?_⟩
  rcases hfound : readHost special text with e | found
  · rw [hfound] at hmap
    cases hmap
  · rw [hfound, hh] at hmap
    injection hmap with hmap
    injection hmap with hmap
    rw [hmap]

/-- What reading after the slashes comes to: a user, a host unless there is nothing
to read it from, a port, and what follows them. -/
theorem afterSlashes_eq_ok {scheme cs : List Char} {family : Family}
    (hread : afterSlashes scheme family cs = .ok u) :
    ∃ (username password text after rest : List Char) (host : Option Host) (port : Option Port),
      (∀ h, host = some h → text ≠ [] ∧ readHost family.isSpecial text = .ok h) ∧
        readPort (impliedPort scheme) after = .ok (port, rest) ∧
        u = withTails family
          { scheme, host, port, path := .segments [],
            username := Percent.encode Percent.inUserInfo username,
            password := Percent.encode Percent.inUserInfo password } rest := by
  simp only [afterSlashes, bind, Except.bind, pure, Except.pure] at hread
  split at hread
  · cases hread
  split at hread
  · cases hread
  split at hread
  · split at hread
    · cases hread
    · next hport =>
      split at hread
      · cases hread
      · injection hread with hread
        exact ⟨_, _, [], _, _, none, _, fun h hh => absurd hh.symm (Option.some_ne_none h), hport,
          hread.symm⟩
  · next htext =>
    split at hread
    · cases hread
    · next hhost =>
      split at hread
      · cases hread
      · next hport =>
        split at hread
        · cases hread
        · injection hread with hread
          exact ⟨_, _, _, _, _, _, _, readHost_of_map_some htext hhost, hport, hread.symm⟩

theorem implied_ne_of_ite {implied given port : Option Port}
    (hport : (if given = implied then none else given) = port) :
    ∀ p, port = some p → implied ≠ port := by
  intro p hp
  split at hport
  · rw [hp] at hport
    exact absurd hport.symm (Option.some_ne_none p)
  · next hother =>
    rw [← hport]
    exact Ne.symm hother

/-- The port that the scheme implies is never kept. -/
theorem implied_ne_of_readPort {implied port : Option Port} {cs rest : List Char}
    (hread : readPort implied cs = .ok (port, rest)) : ∀ p, port = some p → implied ≠ port := by
  unfold readPort at hread
  split at hread
  · simp only at hread
    split at hread
    · cases hread
    · split at hread
      · cases hread
      · injection hread with hread
        injection hread with hport _
        exact implied_ne_of_ite hport
  · injection hread with hread
    injection hread with hport _
    intro p hp
    rw [hp] at hport
    exact absurd hport.symm (Option.some_ne_none p)

/-- **What was read after the slashes** is read back there. -/
theorem anchored_of_afterSlashes {scheme cs : List Char} (hscheme : u.scheme = scheme)
    (hself : ∀ z, scheme? (scheme ++ ':' :: z) = some (scheme, z))
    (hvisible : ∀ c ∈ scheme, isEdge c = false) (hfamily : Family.ofScheme scheme ≠ .file)
    (hread : afterSlashes scheme (Family.ofScheme scheme) cs = .ok u) (hhost : u.host = some h) :
    Anchored u h ∧ ∃ z, u.path = .segments (segments (Family.ofScheme scheme) z) := by
  obtain ⟨username, password, text, after, rest, host, port, htext, hport, rfl⟩ :=
    afterSlashes_eq_ok hread
  obtain ⟨hne, hfound⟩ := htext h hhost
  refine ⟨⟨hhost, settled_of_readHost hne hfound, hself, hvisible, ?_, ?_, ?_, ?_⟩, _, rfl⟩
  · exact fun c => Percent.escaped_encode (by decide)
  · exact fun c => Percent.escaped_encode (by decide)
  · exact implied_ne_of_readPort hport
  · exact fun hfile => absurd hfile hfamily

/-- Where a file has a host after all, it is the one that was read. -/
theorem onHost_eq {scheme z : List Char} {found : Host}
    (hhost : (onHost scheme found z).host = some h) :
    found = h ∧ h ≠ .domain "localhost".toList ∧
      isDrive ((segments .file (tails .file z).1).headD []) = false ∧
      onHost scheme found z =
        { withTails .file { scheme, path := .segments [] } z with host := some h } := by
  by_cases hdrop : (isDrive ((segments .file (tails .file z).1).headD []) ||
      found == .domain "localhost".toList) = true
  · rw [onHost, if_pos hdrop] at hhost
    exact absurd hhost.symm (Option.some_ne_none h)
  · have hsome : found = h := by
      rw [onHost, if_neg hdrop] at hhost
      injection hhost
    subst hsome
    have hkept := hdrop
    rw [Bool.not_eq_true, Bool.or_eq_false_iff] at hkept
    refine ⟨rfl, beq_eq_false_iff_ne.1 hkept.2, hkept.1, ?_⟩
    rw [onHost, if_neg hdrop]

/-- What reading a file comes to, if it has a host. -/
theorem file_eq_ok {scheme cs : List Char} (hread : file scheme cs = .ok u)
    (hhost : u.host = some h) :
    ∃ text found z, text ≠ [] ∧ readHost true text = .ok found ∧ u = onHost scheme found z := by
  have hplain : ∀ cs, .ok (withTails .file { scheme, path := .segments [] } cs) ≠
      (.ok u : Except Fault Url) := by
    intro cs heq
    injection heq with heq
    rw [← heq] at hhost
    exact absurd hhost.symm (Option.some_ne_none h)
  by_cases hslashes : ((cs.take 2).takeWhile fun c => c == '/' || c == '\\').length < 2
  · simp only [file, hslashes, if_true] at hread
    exact absurd hread (hplain _)
  by_cases hempty : ((cs.drop 2).takeWhile (!endsAuthority true ·)).isEmpty = true
  · simp only [file, hslashes, hempty, if_true, if_false] at hread
    exact absurd hread (hplain _)
  by_cases hdrive : isDrive ((cs.drop 2).takeWhile (!endsAuthority true ·)) = true
  · simp only [file, hslashes, hempty, hdrive, if_true, if_false] at hread
    exact absurd hread (hplain _)
  rw [file_eq_onHost hslashes hempty hdrive] at hread
  rcases hfound : readHost true ((cs.drop 2).takeWhile (!endsAuthority true ·)) with e | found
  · rw [hfound] at hread
    cases hread
  · rw [hfound] at hread
    injection hread with hread
    exact ⟨_, found, _, mt List.isEmpty_iff.2 hempty, hfound, hread.symm⟩

/-- **What was read as a file with a host** is read back as one. -/
theorem anchored_of_file {scheme cs : List Char}
    (hself : ∀ z, scheme? (scheme ++ ':' :: z) = some (scheme, z))
    (hvisible : ∀ c ∈ scheme, isEdge c = false) (hfamily : Family.ofScheme scheme = .file)
    (hread : file scheme cs = .ok u) (hhost : u.host = some h) :
    Anchored u h ∧ ∃ z, u.path = .segments (segments .file z) ∧
      isDrive ((segments .file z).headD []) = false := by
  obtain ⟨text, found, z, hne, hfound, rfl⟩ := file_eq_ok hread hhost
  obtain ⟨rfl, hlocal, hdrive, hurl⟩ := onHost_eq hhost
  have hspecial : (Family.ofScheme scheme).isSpecial = true := by
    rw [hfamily]
    rfl
  rw [hurl]
  refine ⟨⟨rfl, ?_, hself, hvisible, ?_, ?_, ?_, fun _ => ⟨rfl, rfl, hlocal⟩⟩, _, rfl, hdrive⟩
  · have hsettled := settled_of_readHost hne hfound
    rwa [← hspecial] at hsettled
  · exact fun c hc => absurd hc List.not_mem_nil
  · exact fun c hc => absurd hc List.not_mem_nil
  · exact fun p hp => absurd hp.symm (Option.some_ne_none p)

/-- **What was read as a URL with a host** is read back as one. -/
theorem anchored_of_parse {text : List Char} (hread : parse text = .ok u)
    (hhost : u.host = some h) :
    Anchored u h ∧ ∃ z, u.path = .segments (segments (Family.ofScheme u.scheme) z) ∧
      (Family.ofScheme u.scheme = .file → isDrive ((segments .file z).headD []) = false) := by
  rw [parse] at hread
  rcases hs : scheme? (clean text) with _ | ⟨scheme, rest⟩
  · rw [hs] at hread
    cases hread
  obtain ⟨hself, hvisible⟩ := scheme?_self hs
  rw [hs] at hread
  dsimp only at hread
  have hafter : ∀ cs, Family.ofScheme scheme ≠ .file →
      afterSlashes scheme (Family.ofScheme scheme) cs = .ok u →
      Anchored u h ∧ ∃ z, u.path = .segments (segments (Family.ofScheme u.scheme) z) ∧
        (Family.ofScheme u.scheme = .file → isDrive ((segments .file z).headD []) = false) := by
    intro cs hfile hcs
    have hscheme := afterSlashes_scheme hcs
    obtain ⟨hanchored, z, hpath⟩ :=
      anchored_of_afterSlashes hscheme hself hvisible hfile hcs hhost
    rw [hscheme]
    exact ⟨hanchored, z, hpath, fun heq => absurd heq hfile⟩
  rcases hfamily : Family.ofScheme scheme with _ | _ | _
  · rw [hfamily] at hread hafter
    exact hafter _ (by decide) hread
  · rw [hfamily] at hread
    obtain ⟨hanchored, z, hpath, hdrive⟩ :=
      anchored_of_file hself hvisible hfamily hread hhost
    rw [file_scheme hread, hfamily]
    exact ⟨hanchored, z, hpath, fun _ => hdrive⟩
  · rw [hfamily] at hread hafter
    dsimp only at hread
    unfold other at hread
    split at hread
    · exact hafter _ (by decide) hread
    · injection hread with hread
      rw [← hread] at hhost
      exact absurd hhost.symm (Option.some_ne_none h)
    · injection hread with hread
      rw [← hread] at hhost
      exact absurd hhost.symm (Option.some_ne_none h)

end Url

end DeviceLink
