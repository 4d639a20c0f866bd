import DeviceLink.Proofs.Activation.Operations
/-!
# Activation — what a request is below

The URL of a request is put together from texts, and it is read again to be
sent. It has the scheme, the host and the port of its endpoint, and where the
endpoint has nothing after its path, it has the operation's path below the
endpoint's (`requests_below`). A query or a fragment stands after the path, so
there the operation's path becomes part of that, and a request asks for the
endpoint's own path (`queried_request`).
-/

namespace DeviceLink

open Text

namespace Url

variable {u : Url} {h : Host}

/-! ## A URL's text, up to its path -/

/-- What stands before the path. -/
def front (u : Url) (h : Host) : List Char := u.scheme ++ ':' :: '/' :: '/' :: site u h

/-- What stands after it. -/
def rear (u : Url) : List Char := u.query.elim [] ('?' :: ·) ++ u.fragment.elim [] ('#' :: ·)

theorem render_eq (hhost : u.host = some h) :
    u.render = front u h ++ (u.path.render ++ rear u) := by
  rw [render, authority_eq hhost, target, front, rear]
  simp

/-- What follows a path starts with a mark of its own. -/
theorem rear_cases (u : Url) :
    (u.query = none ∧ u.fragment = none ∧ rear u = []) ∨
      (u.query ≠ none ∨ u.fragment ≠ none) ∧
        ∃ m x, (m = '?' ∨ m = '#') ∧ rear u = m :: x := by
  rw [rear]
  rcases u.query with _ | q
  · rcases u.fragment with _ | f
    · exact .inl ⟨rfl, rfl, rfl⟩
    · exact .inr ⟨.inr (Option.some_ne_none f), '#', f, .inr rfl, rfl⟩
  · exact .inr ⟨.inl (Option.some_ne_none q), '?', _, .inl rfl, rfl⟩

theorem isEdge_of_isSkipped {c : Char} (hc : isSkipped c = true) : isEdge c = true := by
  simp only [isSkipped, Bool.or_eq_true, beq_iff_eq] at hc
  rcases hc with (rfl | rfl) | rfl <;> decide

theorem Anchored.scheme_ne_nil (hu : Anchored u h) : u.scheme ≠ [] := by
  intro hnil
  have hself := hu.scheme []
  rw [hnil] at hself
  exact absurd hself (by decide)

/-- Nothing before the path is dropped from a text. -/
theorem Anchored.skipped_front (hu : Anchored u h) {c : Char} (hc : c ∈ front u h) :
    isSkipped c = false := by
  rw [front, List.mem_append, List.mem_cons, List.mem_cons, List.mem_cons] at hc
  rcases hc with hc | rfl | rfl | rfl | hc
  · rw [Bool.eq_false_iff]
    intro hskip
    have hedge := hu.visible c hc
    rw [isEdge_of_isSkipped hskip] at hedge
    exact Bool.noConfusion hedge
  · rfl
  · rfl
  · rfl
  · exact (hu.free_site hc).2

theorem Anchored.clean_front (hu : Anchored u h) (t y : List Char) :
    clean (front u h ++ t ++ '/' :: y) =
      front u h ++ (t.filter (!isSkipped ·) ++ '/' :: trailing y) := by
  have hfront : (front u h).filter (!isSkipped ·) = front u h := by
    rw [List.filter_eq_self]
    intro c hc
    rw [hu.skipped_front hc]
    rfl
  have hedge : (front u h ++ t).dropWhile isEdge = front u h ++ t := by
    obtain ⟨c, r, hscheme⟩ := List.exists_cons_of_ne_nil hu.scheme_ne_nil
    have hc : isEdge c = false := hu.visible c (by rw [hscheme]; exact List.mem_cons_self)
    rw [front, hscheme, List.cons_append, List.cons_append, List.dropWhile_cons_of_neg]
    rw [hc]
    exact Bool.false_ne_true
  rw [clean_stop, hedge, List.filter_append, hfront, List.append_assoc]

/-- **What is before the path is read back** from before any text with a slash in it. -/
theorem Anchored.parse_front (hu : Anchored u h) {t y z : List Char}
    (ht : t.filter (!isSkipped ·) ++ '/' :: trailing y = z) (hz : EndsAuthority z) :
    ∃ v, parse (front u h ++ t ++ '/' :: y) = .ok v ∧ ReadsAs u v z := by
  refine hu.parse_site hz ?_
  rw [hu.clean_front, ht, front]
  simp

/-! ## A path, up to what follows it -/

/-- A text without marks is a path to its end. -/
theorem tails_unmarked (family : Family) {z : List Char} (hz : ∀ c ∈ z, c ≠ '?' ∧ c ≠ '#') :
    (tails family z).1 = z := by
  have hfragment : z.takeWhile (· != '#') = z := by
    rw [List.takeWhile_eq_self_iff]
    exact fun c hc => bne_iff_ne.2 (hz c hc).2
  have hquery : z.takeWhile (· != '?') = z := by
    rw [List.takeWhile_eq_self_iff]
    exact fun c hc => bne_iff_ne.2 (hz c hc).1
  simp only [tails, hfragment, hquery]

/-- A path ends at the first mark. -/
theorem tails_mark (family : Family) {z y : List Char} (hz : ∀ c ∈ z, c ≠ '?' ∧ c ≠ '#')
    {m : Char} (hm : m = '?' ∨ m = '#') : (tails family (z ++ m :: y)).1 = z := by
  have hrun : ∀ c ∈ z, decide ((c != '?') = true ∧ (c != '#') = true) = true := fun c hc =>
    decide_eq_true ⟨bne_iff_ne.2 (hz c hc).1, bne_iff_ne.2 (hz c hc).2⟩
  have hstop : ∀ c ∈ (m :: y).head?, decide ((c != '?') = true ∧ (c != '#') = true) = false := by
    refine forall_head?_cons ?_ y
    rcases hm with rfl | rfl <;> rfl
  have hboth : (tails family (z ++ m :: y)).1 =
      (z ++ m :: y).takeWhile fun c => decide ((c != '?') = true ∧ (c != '#') = true) :=
    List.takeWhile_takeWhile (· != '?') (· != '#') _
  rw [hboth, takeWhile_run hrun hstop]

/-- What stands in a path. -/
theorem mem_render {parts : List (List Char)} {c : Char} (hc : c ∈ (Path.segments parts).render) :
    c = '/' ∨ ∃ s ∈ parts, c ∈ s := by
  obtain ⟨s, hs, hmem⟩ := List.mem_flatMap.1 hc
  rcases List.mem_cons.1 hmem with rfl | hmem
  · exact .inl rfl
  · exact .inr ⟨s, hs, hmem⟩

variable {parts : List (List Char)}

theorem unmarked_render (hclear : ∀ s ∈ parts, ∀ c ∈ s, Percent.inPath c = false) {c : Char}
    (hc : c ∈ (Path.segments parts).render) : (c ≠ '?' ∧ c ≠ '#') ∧ isSkipped c = false := by
  rcases mem_render hc with rfl | ⟨s, hs, hmem⟩
  · exact ⟨⟨by decide, by decide⟩, rfl⟩
  · refine ⟨⟨?_, ?_⟩, isSkipped_of_not_inPath (hclear s hs c hmem)⟩ <;>
      · rintro rfl
        exact absurd (hclear s hs _ hmem) (by decide)

theorem filter_render (hclear : ∀ s ∈ parts, ∀ c ∈ s, Percent.inPath c = false) :
    (Path.segments parts).render.filter (!isSkipped ·) = (Path.segments parts).render := by
  rw [List.filter_eq_self]
  intro c hc
  rw [(unmarked_render hclear hc).2]
  rfl

theorem endsAuthority_render (parts : List (List Char)) {z : List Char} (hz : EndsAuthority z) :
    EndsAuthority ((Path.segments parts).render ++ z) := by
  rcases parts with _ | ⟨s, parts⟩
  · exact hz
  · exact EndsAuthority.cons rfl _

end Url

namespace Activator

open Url

/-! ## Requests -/

theorem ofText_eq_ok {text : String} {a : Activator} (h : ofText text = .ok a) :
    Url.parse text.toList = .ok a.base := by
  rw [ofText] at h
  split at h
  · cases h
  · next base hbase =>
    split at h
    · injection h with h
      rw [hbase, ← h]
    · cases h

theorem ofText_of_parse {text : String} {base : Url} {host : Host}
    (hparse : Url.parse text.toList = .ok base) (hhost : base.host = some host) :
    ofText text = .ok ⟨base, host, hhost⟩ := by
  rw [ofText, hparse]
  dsimp only
  split
  · next found hfound =>
    congr
    exact Option.some.inj (hfound.symm.trans hhost)
  · next hnone =>
    rw [hhost] at hnone
    cases hnone

/-- The path of an endpoint, as it is read. -/
theorem anchored_of_ofText {text : String} {a : Activator} (h : ofText text = .ok a) :
    Anchored a.base a.host ∧ ∃ parts, a.base.path = .segments parts ∧
      Cleared (Family.ofScheme a.base.scheme) parts ∧
      (Family.ofScheme a.base.scheme = .file → isDrive (parts.headD []) = false) := by
  obtain ⟨hanchored, z, hpath, hdrive⟩ := anchored_of_parse (ofText_eq_ok h) a.base_host
  refine ⟨hanchored, _, hpath, cleared_segments _ z, fun hfile => ?_⟩
  rw [hfile]
  exact hdrive hfile

theorem trimSlashes_append {c : Char} (hc : c ≠ '/') (cs ds : List Char) :
    trimSlashes (cs ++ c :: ds) = cs ++ c :: trimSlashes ds := by
  have hstop : (c == '/') = false := beq_eq_false_iff_ne.2 hc
  rw [trimSlashes, List.reverse_append, List.reverse_cons, List.append_assoc,
    List.singleton_append, dropWhile_stop (p := (· == '/')) hstop]
  simp [trimSlashes]

/-- Slashes are trimmed off what stands after an authority. -/
theorem trimSlashes_front {u : Url} {h : Host} (hu : Anchored u h) (cs : List Char) :
    trimSlashes (front u h ++ cs) = front u h ++ trimSlashes cs := by
  obtain ⟨l, c, hsite⟩ : ∃ l c, site u h = l ++ [c] :=
    ⟨_, _, (List.dropLast_append_getLast hu.site_ne_nil).symm⟩
  have hc : c ≠ '/' := by
    rintro rfl
    have hfree := (hu.free_site (c := '/') (by rw [hsite]; simp)).1
    exact absurd hfree (by simp [endsAuthority])
  have hfront : front u h = (u.scheme ++ ':' :: '/' :: '/' :: l) ++ [c] := by
    rw [front, hsite]
    simp
  rw [hfront, List.append_assoc, List.singleton_append, trimSlashes_append hc]
  simp

section
variable {a : Activator} {parts : List (List Char)} (hu : Anchored a.base a.host)
  (hbase : a.base.path = .segments parts)
  (hclear : ∀ s ∈ parts, ∀ c ∈ s, Percent.inPath c = false ∧ c ≠ '/')
include hu hbase hclear

/-- Where an endpoint has nothing after its path, a request's text is read as the
endpoint with the operation's path below its own. -/
theorem parse_below (hrear : rear a.base = []) (path : String) :
    ∃ v, Url.parse (a.requestText path).toList = .ok v ∧
      ReadsAs a.base v ((Path.segments (parts.rdropWhile List.isEmpty)).render ++
        '/' :: trailing path.toList) := by
  have hslash : ∀ s ∈ parts, '/' ∉ s := fun s hs hmem => (hclear s hs '/' hmem).2 rfl
  have htext : (a.requestText path).toList =
      front a.base a.host ++ (Path.segments (parts.rdropWhile List.isEmpty)).render ++
        '/' :: path.toList := by
    rw [requestText, String.toList_ofList, render_eq a.base_host, hbase, hrear, List.append_nil,
      trimSlashes_front hu]
    congr 2
    exact rdropWhile_render hslash
  have hkept : (Path.segments (parts.rdropWhile List.isEmpty)).render.filter (!isSkipped ·) =
      (Path.segments (parts.rdropWhile List.isEmpty)).render :=
    filter_render fun s hs c hc =>
      (hclear s ((List.rdropWhile_prefix List.isEmpty parts).subset hs) c hc).1
  rw [htext]
  exact hu.parse_front (by rw [hkept]) (endsAuthority_render _ (EndsAuthority.cons rfl _))

/-- Where an endpoint has more after its path, a request's text is read with that path
and no other. -/
theorem parse_behind {m : Char} (hm : m = '?' ∨ m = '#') {x : List Char}
    (hrear : rear a.base = m :: x) (path : String) :
    ∃ v y, Url.parse (a.requestText path).toList = .ok v ∧
      ReadsAs a.base v ((Path.segments parts).render ++ m :: y) := by
  have hne : m ≠ '/' := by
    rcases hm with rfl | rfl <;> decide
  have hskip : isSkipped m = false := by
    rcases hm with rfl | rfl <;> rfl
  have htext : (a.requestText path).toList =
      front a.base a.host ++ ((Path.segments parts).render ++ m :: trimSlashes x) ++
        '/' :: path.toList := by
    rw [requestText, String.toList_ofList, render_eq a.base_host, hbase, hrear,
      trimSlashes_front hu, trimSlashes_append hne]
  have hkept : ((Path.segments parts).render ++ m :: trimSlashes x).filter (!isSkipped ·) ++
      '/' :: trailing path.toList =
      (Path.segments parts).render ++
        m :: ((trimSlashes x).filter (!isSkipped ·) ++ '/' :: trailing path.toList) := by
    rw [List.filter_append, filter_render fun s hs c hc => (hclear s hs c hc).1,
      List.filter_cons_of_pos (by rw [hskip]; rfl), List.append_assoc, List.cons_append]
  have hends : EndsAuthority (m :: ((trimSlashes x).filter (!isSkipped ·) ++
      '/' :: trailing path.toList)) := by
    refine EndsAuthority.cons ?_ _
    rcases hm with rfl | rfl <;> rfl
  obtain ⟨v, hv, hreads⟩ := hu.parse_front hkept (endsAuthority_render parts hends)
  exact ⟨v, _, by rw [htext]; exact hv, hreads⟩

end

/-- An operation that is carried is found behind the segments that are left. -/
theorem segments_operation {family : Family} {parts : List (List Char)}
    (hparts : Cleared family parts) {path : String} (hpath : IsOperation path)
    (hcarried : Carried path) :
    segments family (tails family ((Path.segments (parts.rdropWhile List.isEmpty)).render ++
        '/' :: trailing path.toList)).1 =
      parts.rdropWhile List.isEmpty ++ Domain.splitOn (· == '/') (written path) := by
  have hmarks : ∀ c ∈ (Path.segments (parts.rdropWhile List.isEmpty)).render ++
      '/' :: trailing path.toList, c ≠ '?' ∧ c ≠ '#' := by
    intro c hc
    rw [List.mem_append, List.mem_cons] at hc
    rcases hc with hc | rfl | hc
    · exact (unmarked_render (fun s hs c hc => (hparts.clear s
        ((List.rdropWhile_prefix List.isEmpty parts).subset hs) c hc).1) hc).1
    · exact ⟨by decide, by decide⟩
    · have hfree := hcarried.unmarked c (mem_of_mem_trailing hc)
      exact ⟨hfree.1, hfree.2.1⟩
  have hback : '\\' ∉ trailing path.toList := fun hmem =>
    (hcarried.unmarked _ (mem_of_mem_trailing hmem)).2.2 rfl
  obtain ⟨name, hname, hfirst⟩ := hpath.head?_splitOn
  rw [tails_unmarked family hmarks]
  refine hparts.segments_below hback hcarried.undotted ?_
  intro hnil
  rw [written] at hfirst
  rw [hfirst] at hnil
  injection hnil with hnil
  rw [hnil] at hname
  exact absurd hname (by decide)

/-- Where those start with no drive, neither does the whole. -/
theorem isDrive_operation {parts : List (List Char)} (hdrive : isDrive (parts.headD []) = false)
    {path : String} (hpath : IsOperation path) :
    isDrive ((parts.rdropWhile List.isEmpty ++
      Domain.splitOn (· == '/') (written path)).headD []) = false := by
  rcases hkept : parts.rdropWhile List.isEmpty with _ | ⟨s, kept⟩
  · obtain ⟨name, hname, hfirst⟩ := hpath.head?_splitOn
    rw [List.nil_append, List.headD_eq_head?_getD, hfirst, Option.getD_some]
    rcases List.mem_cons.1 hname with rfl | hname
    · rfl
    · rw [List.mem_singleton] at hname
      rw [hname]
      rfl
  · obtain ⟨r, hparts⟩ := List.rdropWhile_prefix List.isEmpty parts
    rw [hkept] at hparts
    rw [← hparts] at hdrive
    exact hdrive

theorem ofScheme_eq_file {scheme : List Char} (h : Family.ofScheme scheme = .file) :
    scheme = "file".toList := by
  unfold Family.ofScheme at h
  split at h
  · assumption
  · split at h <;> cases h

/-- **Where requests go.** The URL of an operation is read with the scheme, the host and
the port of its endpoint; only on a file may a path that climbs to a drive lose the
host. Where the endpoint has neither query nor fragment, the path is the endpoint's
without the slashes it ends with, then a slash, then the operation's as it is written
in a URL. Where it has one of them, the path is the endpoint's own: the operation's
stands behind it. -/
theorem requests_below {text : String} {a : Activator} (hread : ofText text = .ok a) {path : String}
    (hpath : IsOperation path) :
    ∃ u, Url.parse (a.requestText path).toList = .ok u ∧
      u.scheme = a.base.scheme ∧ u.port = a.base.port ∧
      (a.base.scheme ≠ "file".toList → u.host = a.base.host) ∧
      (a.base.query = none ∧ a.base.fragment = none → Carried path →
        u.host = a.base.host ∧
          u.path.render = trimSlashes a.base.path.render ++ '/' :: written path) ∧
      (a.base.query ≠ none ∨ a.base.fragment ≠ none →
        u.host = a.base.host ∧ u.path = a.base.path) := by
  obtain ⟨hu, parts, hbase, hparts, hdrive⟩ := anchored_of_ofText hread
  have hclear : ∀ s ∈ parts, ∀ c ∈ s, Percent.inPath c = false ∧ c ≠ '/' := by
    intro s hs c hc
    refine ⟨(hparts.clear s hs c hc).1, ?_⟩
    rintro rfl
    exact absurd (hparts.clear s hs '/' hc).2 (by simp [isSlash])
  have hhost : ∀ {v z}, ReadsAs a.base v z → a.base.scheme ≠ "file".toList →
      v.host = a.base.host := fun hreads hscheme =>
    hreads.host fun hfile => absurd (ofScheme_eq_file hfile) hscheme
  rcases rear_cases a.base with ⟨hquery, hfragment, hrear⟩ | ⟨hmore, m, x, hm, hrear⟩
  · obtain ⟨v, hv, hreads⟩ := parse_below hu hbase hclear hrear path
    refine ⟨v, hv, hreads.scheme, hreads.port, hhost hreads, fun _ hcarried => ⟨?_, ?_⟩,
      fun hmore => ?_⟩
    · refine hreads.host fun hfile => ?_
      rw [hfile] at hparts
      rw [segments_operation hparts hpath hcarried]
      exact isDrive_operation (hdrive hfile) hpath
    · have htrim : trimSlashes a.base.path.render =
          (Path.segments (parts.rdropWhile List.isEmpty)).render := by
        rw [hbase]
        exact rdropWhile_render fun s hs hmem => (hclear s hs '/' hmem).2 rfl
      rw [hreads.path, segments_operation hparts hpath hcarried, render_append, render_splitOn,
        htrim]
    · rcases hmore with hmore | hmore
      · exact absurd hquery hmore
      · exact absurd hfragment hmore
  · obtain ⟨v, y, hv, hreads⟩ := parse_behind hu hbase hclear hm hrear path
    have hunmarked : ∀ c ∈ (Path.segments parts).render, c ≠ '?' ∧ c ≠ '#' := fun c hc =>
      (unmarked_render (fun s hs c hc => (hclear s hs c hc).1) hc).1
    have hsame : ∀ family, (tails family ((Path.segments parts).render ++ m :: y)).1 =
        (Path.segments parts).render := fun family => tails_mark family hunmarked hm
    refine ⟨v, hv, hreads.scheme, hreads.port, hhost hreads, fun hnone => ?_, fun _ => ⟨?_, ?_⟩⟩
    · rcases hmore with hmore | hmore
      · exact absurd hnone.1 hmore
      · exact absurd hnone.2 hmore
    · refine hreads.host fun hfile => ?_
      rw [hfile] at hparts
      rw [hsame, hparts.segments_render]
      exact hdrive hfile
    · rw [hreads.path, hsame, hparts.segments_render, hbase]

/-- The endpoint `http://u:p@[::1]:8080/a//`. -/
def trailed : Activator where
  base :=
    { scheme := "http".toList, username := "u".toList, password := "p".toList,
      host := some (.ipv6 [0, 0, 0, 0, 0, 0, 0, 1]), port := some 8080,
      path := .segments ["a".toList, [], []] }
  host := .ipv6 [0, 0, 0, 0, 0, 0, 0, 1]
  base_host := rfl

/-- Parameters with a dot in an option's text. -/
def dotted : Params where
  encoderName := some "OMX.avc"

theorem carried_dotted : Carried (Agent.startPath dotted) := by
  have hbare : ∀ t ∈ ["-", "-", "OMX.avc"], IsBare t := by
    simp only [List.forall_mem_cons]
    refine ⟨?_, ?_, ?_, fun t ht => absurd ht List.not_mem_nil⟩ <;>
      exact isBare_of_not_mem (List.all_eq_true.1 (by decide)) (by decide) (by decide) (by decide)
  exact carried_startPath hbare

theorem trailed_requests_below :
    ofText "HTTP://u:p@[::1]:8080/a//" = .ok trailed ∧
      (∃ u, Url.parse (trailed.requestText Agent.stopPath).toList = .ok u ∧
        u.host = trailed.base.host ∧ u.path.render = "/a/stopScrcpy/".toList) ∧
      ∃ u, Url.parse (trailed.requestText (Agent.startPath dotted)).toList = .ok u ∧
        u.host = trailed.base.host ∧
        u.path.render =
          "/a/startScrcpy/1.17/info/0/8000000/0/-1/true/-/true/true/0/false/false/-/OMX.avc".toList := by
  have hread : ofText "HTTP://u:p@[::1]:8080/a//" = .ok trailed :=
    ofText_of_parse (by decide +kernel) rfl
  have hrequest : ∀ path, IsOperation path → Carried path →
      ∃ u, Url.parse (trailed.requestText path).toList = .ok u ∧ u.host = trailed.base.host ∧
        u.path.render = trimSlashes trailed.base.path.render ++ '/' :: written path := by
    intro path hpath hcarried
    obtain ⟨u, hu, -, -, -, hbelow, -⟩ := requests_below hread hpath
    exact ⟨u, hu, hbelow ⟨rfl, rfl⟩ hcarried⟩
  have hstop : trimSlashes trailed.base.path.render ++ '/' :: written Agent.stopPath =
      "/a/stopScrcpy/".toList := by decide +kernel
  have hstart : trimSlashes trailed.base.path.render ++ '/' :: written (Agent.startPath dotted) =
      "/a/startScrcpy/1.17/info/0/8000000/0/-1/true/-/true/true/0/false/false/-/OMX.avc".toList := by
    decide +kernel
  rw [← hstop, ← hstart]
  exact ⟨hread, hrequest _ (.inl rfl) carried_stopPath,
    hrequest _ (.inr ⟨dotted, rfl⟩) carried_dotted⟩

/-- The endpoint `http://h/?q=1`. -/
def queried : Activator where
  base :=
    { scheme := "http".toList, host := some (.domain "h".toList), path := .segments [[]],
      query := some "q=1".toList }
  host := .domain "h".toList
  base_host := rfl

/-- **Behind a query** the operation's path is part of it, and the path asked for is the
endpoint's own. -/
theorem queried_request :
    ofText "http://h/?q=1" = .ok queried ∧
      Url.parse (queried.requestText Agent.stopPath).toList =
        .ok { queried.base with query := some "q=1/stopScrcpy/".toList } ∧
      queried.base.path.render ≠
        trimSlashes queried.base.path.render ++ '/' :: Agent.stopPath.toList :=
  ⟨ofText_of_parse (by decide +kernel) rfl, by decide +kernel, by decide +kernel⟩

end Activator

end DeviceLink
