import DeviceLink.Proofs.Agent.Orders
import DeviceLink.Proofs.Url.Pieces
/-!
# The agent — what the path of its start tells it

An agent that is started by a request reads its arguments off the request's
path, one segment each after the first. The path has a segment for each argument
exactly where no option holds a slash of its own (`startPath_segments`), and
then says what the command says. An option's text stands in the path as it is:
a slash in it makes a segment more, and everything after it is read in another
place (`slashed_startPath`).
-/

namespace DeviceLink

namespace Agent

/-- The segments of a path. -/
def segments (path : String) : List String := (path.toList.splitOn '/').map String.ofList

/-! ## Splitting at slashes -/

theorem length_splitOn (cs : List Char) : (cs.splitOn '/').length = cs.count '/' + 1 := by
  induction cs with
  | nil => rfl
  | cons c cs ih =>
      rw [List.splitOn_cons_eq_if_modifyHead, List.count_cons]
      split
      · rw [List.length_cons, ih]
      · rw [List.length_modifyHead, ih]

theorem length_segments (text : String) :
    (segments text).length = text.toList.count '/' + 1 := by
  rw [segments, List.length_map, length_splitOn]

/-- A text without a slash is one segment. -/
theorem segments_of_not_mem {text : String} (h : '/' ∉ text.toList) : segments text = [text] := by
  rw [segments, List.splitOn_eq_singleton h, List.map_singleton, String.ofList_toList]

/-- Texts that are joined are split where they were joined and where they are split
themselves. -/
theorem splitOn_intercalate {parts : List (List Char)} (h : parts ≠ []) :
    (['/'].intercalate parts).splitOn '/' = parts.flatMap (·.splitOn '/') := by
  induction parts with
  | nil => exact absurd rfl h
  | cons part parts ih =>
      rcases parts with _ | ⟨next, parts⟩
      · simp
      · have hnext := ih (List.cons_ne_nil next parts)
        rw [List.intercalate_cons_cons, List.append_assoc, List.singleton_append,
          List.splitOn_append_cons_self, hnext]
        rfl

theorem segments_join (texts : List String) (h : texts ≠ []) :
    segments ("/".intercalate texts) = texts.flatMap segments := by
  have hne : texts.map String.toList ≠ [] := by simpa using h
  have hslash : "/".toList = ['/'] := rfl
  rw [segments, String.toList_intercalate, hslash, splitOn_intercalate hne, List.flatMap_map,
    List.map_flatMap]
  rfl

theorem segments_append (first : String) (rest : String) :
    segments (first ++ "/" ++ rest) = segments first ++ segments rest := by
  have hslash : "/".toList = ['/'] := rfl
  rw [segments, String.toList_append, String.toList_append, hslash, List.append_assoc,
    List.singleton_append, List.splitOn_append_cons_self, List.map_append]
  rfl

/-! ## The arguments that are no free text -/

/-- What a URL's path gives a meaning to, or ends at. -/
def isMark (c : Char) : Bool := c == '/' || c == '?' || c == '#'

/-- A text without any mark. -/
def Unmarked (text : String) : Prop := ∀ c ∈ text.toList, isMark c = false

theorem Unmarked.slash {text : String} (h : Unmarked text) : '/' ∉ text.toList := fun hmem =>
  absurd (h '/' hmem) (by decide)

/-- What names, numbers and truth values are written in. -/
def isWordPart (c : Char) : Bool := c.isAlphanum || c == '-'

/-- A name, a number or a truth value, as far as its characters tell. -/
def IsWord (text : String) : Prop := ∀ c ∈ text.toList, isWordPart c = true

theorem IsWord.unmarked {text : String} (h : IsWord text) : Unmarked text := by
  intro c hc
  have hpart := h c hc
  rw [isMark, Bool.or_eq_false_iff, Bool.or_eq_false_iff]
  refine ⟨⟨?_, ?_⟩, ?_⟩ <;>
    · rw [beq_eq_false_iff_ne]
      rintro rfl
      exact absurd hpart (by decide)

theorem isWord_of_all {text : String} (h : text.toList.all isWordPart = true) : IsWord text :=
  List.all_eq_true.1 h

theorem isWord_flag (b : Bool) : IsWord (flag b) := by
  cases b <;> exact isWord_of_all (by decide)

theorem isWord_name (level : LogLevel) : IsWord level.name := by
  cases level <;> exact isWord_of_all (by decide)

theorem isWordPart_of_isDigit {c : Char} (h : c.isDigit = true) : isWordPart c = true := by
  rw [isWordPart, Char.isAlphanum, h, Bool.or_true, Bool.true_or]

theorem isWord_repr (n : Nat) : IsWord n.repr := by
  intro c hc
  rw [Nat.toList_repr] at hc
  exact isWordPart_of_isDigit (Text.isDigit_of_mem_toDigits hc)

theorem isWord_int (n : Int) : IsWord (toString n) := by
  intro c hc
  rw [Text.toList_toString] at hc
  split at hc
  · exact isWordPart_of_isDigit (Text.isDigit_of_mem_toDigits hc)
  · rcases List.mem_cons.1 hc with rfl | hc
    · rfl
    · exact isWordPart_of_isDigit (Text.isDigit_of_mem_toDigits hc)

theorem isWord_word16 (n : UInt16) : IsWord (toString n) := isWord_repr n.toNat

theorem isWord_word32 (n : UInt32) : IsWord (toString n) := isWord_repr n.toNat

theorem isWord_signed8 (n : Int8) : IsWord (toString n) := isWord_int n.toInt

/-- The arguments that are any text. -/
def texts (p : Params) : List String :=
  [orUnset p.crop, orUnset p.codecOptions, orUnset p.encoderName]

theorem texts_subset (p : Params) (forward : Bool) : texts p ⊆ arguments p forward := by
  simp [texts, arguments]

/-- Every other argument is a word, but for the version. -/
theorem argument_cases {p : Params} {forward : Bool} {a : String} (ha : a ∈ arguments p forward) :
    a = protocolVersion ∨ IsWord a ∨ a ∈ texts p := by
  simp only [arguments, List.mem_cons, List.not_mem_nil, or_false] at ha
  rcases ha with rfl | rfl | rfl | rfl | rfl | rfl | rfl | rfl | rfl | rfl | rfl | rfl | rfl | rfl |
    rfl
  · exact .inl rfl
  · exact .inr (.inl (isWord_name p.logLevel))
  · exact .inr (.inl (isWord_word16 p.maxSize))
  · exact .inr (.inl (isWord_word32 p.bitRate))
  · exact .inr (.inl (isWord_word16 p.maxFps))
  · exact .inr (.inl (isWord_signed8 p.lockVideoOrientation))
  · exact .inr (.inl (isWord_flag forward))
  · exact .inr (.inr (by simp [texts]))
  · exact .inr (.inl (isWord_flag true))
  · exact .inr (.inl (isWord_flag p.control))
  · exact .inr (.inl (isWord_word16 p.displayId))
  · exact .inr (.inl (isWord_flag p.showTouches))
  · exact .inr (.inl (isWord_flag p.stayAwake))
  · exact .inr (.inr (by simp [texts]))
  · exact .inr (.inr (by simp [texts]))

theorem unmarked_version : Unmarked protocolVersion := by
  have hall : (protocolVersion.toList.all (!isMark ·)) = true := by decide
  intro c hc
  simpa using List.all_eq_true.1 hall c hc

/-- So marks stand in free texts only. -/
theorem unmarked_or_mem_texts {p : Params} {forward : Bool} {a : String}
    (ha : a ∈ arguments p forward) : Unmarked a ∨ a ∈ texts p := by
  rcases argument_cases ha with rfl | hword | htext
  · exact .inl unmarked_version
  · exact .inl hword.unmarked
  · exact .inr htext

/-- The slashes in an argument are those of the free texts. -/
theorem count_slash (p : Params) (forward : Bool) :
    ((arguments p forward).flatMap String.toList).count '/' =
      ((texts p).flatMap String.toList).count '/' := by
  have hnone : ∀ {a : String}, Unmarked a → a.toList.count '/' = 0 := fun h =>
    List.count_eq_zero.2 h.slash
  simp only [arguments, texts, List.flatMap_cons, List.flatMap_nil, List.count_append,
    List.count_nil, hnone unmarked_version, hnone (isWord_name _).unmarked,
    hnone (isWord_flag _).unmarked, hnone (isWord_word16 _).unmarked,
    hnone (isWord_word32 _).unmarked, hnone (isWord_signed8 _).unmarked]
  omega

/-! ## The path -/

theorem toList_startPath (p : Params) :
    (startPath p).toList = "startScrcpy/".toList ++
      ['/'].intercalate ((arguments p true).map String.toList) := by
  rw [startPath, String.toList_append, String.toList_intercalate]
  rfl

/-- The path is the arguments' segments, after the first. -/
theorem segments_startPath (p : Params) :
    segments (startPath p) = "startScrcpy" :: (arguments p true).flatMap segments := by
  have hfirst : segments "startScrcpy" = ["startScrcpy"] := segments_of_not_mem (by decide)
  have hpath : startPath p = "startScrcpy" ++ "/" ++ "/".intercalate (arguments p true) := rfl
  rw [hpath, segments_append, segments_join (arguments p true) (List.cons_ne_nil _ _), hfirst,
    List.singleton_append]

theorem length_flatMap_segments (args : List String) :
    (args.flatMap segments).length =
      args.length + (args.flatMap String.toList).count '/' := by
  induction args with
  | nil => rfl
  | cons a args ih =>
      have ha := length_segments a
      rw [List.flatMap_cons, List.flatMap_cons, List.length_append, List.count_append,
        List.length_cons]
      omega

theorem flatMap_segments {args : List String} (h : ∀ a ∈ args, '/' ∉ a.toList) :
    args.flatMap segments = args := by
  induction args with
  | nil => rfl
  | cons a args ih =>
      rw [List.forall_mem_cons] at h
      rw [List.flatMap_cons, segments_of_not_mem h.1, ih h.2, List.singleton_append]

/-- Another mark than a slash stands in the path where it stands in a free text. -/
theorem mem_startPath {p : Params} {c : Char} (hc : c = '?' ∨ c = '#') :
    c ∈ (startPath p).toList ↔ ∃ t ∈ texts p, c ∈ t.toList := by
  have hmark : isMark c = true ∧ c ≠ '/' := by
    rcases hc with rfl | rfl <;> decide
  have hfirst : c ∉ "startScrcpy/".toList := by
    rcases hc with rfl | rfl <;> decide
  rw [toList_startPath, List.mem_append, Text.mem_intercalate hmark.2]
  constructor
  · rintro (h | ⟨part, hpart, h⟩)
    · exact absurd h hfirst
    · obtain ⟨a, ha, rfl⟩ := List.mem_map.1 hpart
      rcases unmarked_or_mem_texts ha with hunmarked | htext
      · rw [hunmarked c h] at hmark
        exact absurd hmark.1 Bool.false_ne_true
      · exact ⟨a, htext, h⟩
  · rintro ⟨t, ht, h⟩
    exact .inr ⟨t.toList, List.mem_map_of_mem (texts_subset p true ht), h⟩

/-- **What the path of a start says.** Its segments are the first, which names the
operation, and those of the arguments in their order; there are as many more than
sixteen as there are slashes in the free texts. So each argument has the segment
of its place, as it is, exactly where there is no slash in them; the path then
tells of the same orders as the command. It is cut short by a query or a fragment
exactly where a free text holds their mark. -/
theorem startPath_segments (p : Params) :
    segments (startPath p) = "startScrcpy" :: (arguments p true).flatMap segments ∧
      (segments (startPath p)).length = 16 + ((texts p).flatMap String.toList).count '/' ∧
      ((∀ t ∈ texts p, '/' ∉ t.toList) ↔
        segments (startPath p) = "startScrcpy" :: arguments p true) ∧
      ((∀ t ∈ texts p, '/' ∉ t.toList) →
        Orders.ofArguments? (segments (startPath p)).tail =
            Orders.ofArguments? ((shellCommand p true).drop 5) ∧
          (Tellable p →
            Orders.ofArguments? (segments (startPath p)).tail = some (orders p true))) ∧
      ∀ c, c = '?' ∨ c = '#' →
        (c ∈ (startPath p).toList ↔ ∃ t ∈ texts p, c ∈ t.toList) := by
  have hlength : (segments (startPath p)).length =
      16 + ((texts p).flatMap String.toList).count '/' := by
    have hargs := length_flatMap_segments (arguments p true)
    have hfifteen : (arguments p true).length = 15 := rfl
    rw [count_slash, hfifteen] at hargs
    rw [segments_startPath, List.length_cons, hargs]
    omega
  have hwhole : (∀ t ∈ texts p, '/' ∉ t.toList) →
      segments (startPath p) = "startScrcpy" :: arguments p true := by
    intro hslash
    rw [segments_startPath, flatMap_segments fun a ha => ?_]
    rcases unmarked_or_mem_texts ha with hunmarked | htext
    · exact hunmarked.slash
    · exact hslash a htext
  refine ⟨segments_startPath p, hlength, ⟨hwhole, fun heq t ht hmem => ?_⟩, fun hslash => ?_,
    fun c hc => mem_startPath hc⟩
  · -- A slash in a text would make a seventeenth segment.
    have hcount : 0 < ((texts p).flatMap String.toList).count '/' :=
      List.count_pos_iff.2 (List.mem_flatMap.2 ⟨t, ht, hmem⟩)
    have hsixteen : (segments (startPath p)).length = 16 := by
      rw [heq]
      rfl
    omega
  · rw [hwhole hslash, List.tail_cons, drop_shellCommand]
    exact ⟨rfl, fun h => ofArguments?_arguments h true⟩

theorem detailed_startPath_segments :
    (∀ t ∈ texts { detailed with encoderName := some "-?" }, '/' ∉ t.toList) ∧
      Orders.ofArguments?
          (segments (startPath { detailed with encoderName := some "-?" })).tail =
        some (orders { detailed with encoderName := some "-?" } true) := by
  have hslash : ∀ t ∈ texts { detailed with encoderName := some "-?" }, '/' ∉ t.toList := by
    simp [texts, detailed, orUnset]
  have htellable : Tellable { detailed with encoderName := some "-?" } :=
    ⟨by decide, by decide, by decide⟩
  obtain ⟨-, -, -, horders, -⟩ :=
    startPath_segments { detailed with encoderName := some "-?" }
  exact ⟨hslash, (horders hslash).2 htellable⟩

/-- **A slash in an option** makes a segment more, and the path tells of no orders at
all. -/
theorem slashed_startPath :
    (segments (startPath { crop := some "a/b" })).length = 17 ∧
      Orders.ofArguments? (segments (startPath { crop := some "a/b" })).tail = none ∧
      Orders.ofArguments? ((shellCommand { crop := some "a/b" } true).drop 5) =
        some (orders { crop := some "a/b" } true) := by
  decide +kernel

end Agent

end DeviceLink
