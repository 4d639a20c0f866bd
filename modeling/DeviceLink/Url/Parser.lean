import DeviceLink.Url.Basic
/-!
# URLs — reading

Reading brings every part into the form it is written in. Controls and spaces
around the text are dropped, tabs and line ends wherever they stand; a URL
needs a scheme, and everything after it is read part by part, each ending at
the characters that start the next.
-/

namespace DeviceLink

namespace Url

/-- Why a text is no URL. -/
inductive Fault
  | relative
  | emptyHost
  | port
  | ipv4
  | ipv6
  | domain
  | hostCharacter
  deriving DecidableEq, Repr

/-- How the fault is told to a user. -/
def Fault.message : Fault → String
  | .relative => "relative URL without a base"
  | .emptyHost => "empty host"
  | .port => "invalid port number"
  | .ipv4 => "invalid IPv4 address"
  | .ipv6 => "invalid IPv6 address"
  | .domain => "invalid international domain name"
  | .hostCharacter => "invalid domain character"

/-! ## The whole text -/

/-- Dropped at both ends. -/
def isEdge (c : Char) : Bool := c.toNat ≤ 0x20

/-- Dropped everywhere. -/
def isSkipped (c : Char) : Bool := c == '\t' || c == '\n' || c == '\r'

/-- The characters that count. -/
def clean (cs : List Char) : List Char :=
  (((cs.dropWhile isEdge).reverse.dropWhile isEdge).reverse).filter (!isSkipped ·)

/-- The scheme in lower case, and what follows its colon. -/
def scheme? (cs : List Char) : Option (List Char × List Char) :=
  let isPart (c : Char) : Bool := c.isAlphanum || c == '+' || c == '-' || c == '.'
  match cs.takeWhile isPart, cs.dropWhile isPart with
  | c :: name, ':' :: rest => if c.isAlpha then some ((c :: name).map Char.toLower, rest) else none
  | _, _ => none

/-! ## Hosts -/

/-- What may not stand in a host that is taken as it is. -/
def isHostBreaker (c : Char) : Bool :=
  c == '\x00' || isSkipped c || " #/:<>?@[\\]^|".toList.contains c

/-- A host between brackets, if it is one. -/
def bracketed? : List Char → Option (Except Fault Host)
  | '[' :: cs => some <|
    match cs.getLast? with
    | some ']' => ((Ipv6.parse? cs.dropLast).map Host.ipv6).elim (.error .ipv6) .ok
    | _ => .error .ipv6
  | _ => none

/-- Read a host, which is a name or an address where the scheme is special. -/
def readHost (special : Bool) (cs : List Char) : Except Fault Host :=
  match bracketed? cs with
  | some found => found
  | none =>
    if special then
      match Domain.parse? cs with
      | none => .error .domain
      | some [] => .error .emptyHost
      | some name =>
        if Ipv4.endsInNumber name then ((Ipv4.parse? name).map Host.ipv4).elim (.error .ipv4) .ok
        else .ok (.domain name)
    else if cs.any isHostBreaker then .error .hostCharacter
    else .ok (.plain (Percent.encode Percent.isControl cs))

/-- Whether the character ends an authority. -/
def endsAuthority (special : Bool) (c : Char) : Bool :=
  c == '/' || c == '?' || c == '#' || (special && c == '\\')

/-- A host's text and what follows it. A colon between brackets is part of it. -/
def hostText (special : Bool) : Bool → List Char → List Char × List Char
  | _, [] => ([], [])
  | inside, c :: r =>
    if endsAuthority special c || (c == ':' && !inside) then ([], c :: r)
    else
      let (text, rest) := hostText special (c == '[' || (inside && c != ']')) r
      (c :: text, rest)

/-- Read a port, where one is given, and what follows it. -/
def readPort (implied : Option Port) : List Char → Except Fault (Option Port × List Char)
  | ':' :: r =>
    let digits := r.takeWhile Char.isDigit
    let rest := r.dropWhile Char.isDigit
    if 65535 < Text.digitsValue digits then .error .port
    else if rest.head?.any fun c => !endsAuthority true c then .error .port
    else
      let given : Option Port :=
        if digits.isEmpty then none else some (UInt16.ofNat (Text.digitsValue digits))
      .ok (if given = implied then none else given, rest)
  | r => .ok (none, r)

/-- A text before and after its last at-sign. -/
def splitUser (cs : List Char) : Option (List Char × List Char) :=
  if cs.contains '@' then
    some (((cs.reverse.dropWhile (· != '@')).drop 1).reverse,
      (cs.reverse.takeWhile (· != '@')).reverse)
  else none

/-! ## What follows the authority -/

/-- The two spellings of a dot. -/
def isDot (cs : List Char) : Bool := cs == ['.'] || cs.map Char.toLower == "%2e".toList

/-- The segment that stands for its parent. -/
def isParent (cs : List Char) : Bool :=
  match cs with
  | '.' :: r => isDot r
  | _ => isDot (cs.take 3) && isDot (cs.drop 3)

/-- Put segments onto those before them, kept last first. A dot adds nothing
and its double takes one away; either leaves an empty segment at the end. -/
def climb (above : List (List Char)) : List (List Char) → List (List Char)
  | [] => above.reverse
  | cs :: r =>
    if isParent cs then climb (if r.isEmpty then [] :: above.drop 1 else above.drop 1) r
    else if isDot cs then climb (if r.isEmpty then [] :: above else above) r
    else climb (cs :: above) r

/-- Whether a segment names a drive. -/
def isDrive : List Char → Bool
  | [c, d] => c.isAlpha && (d == ':' || d == '|')
  | _ => false

/-- Leave out the empty segments before others. -/
def dropEmpty : List (List Char) → List (List Char)
  | [] :: cs :: r => dropEmpty (cs :: r)
  | parts => parts

/-- The segments of a path's text. -/
def segments (family : Family) (cs : List Char) : List (List Char) :=
  let isSlash (c : Char) : Bool := c == '/' || (family.isSpecial && c == '\\')
  let text := match cs with
    | c :: r => if isSlash c then r else cs
    | [] => []
  if cs.isEmpty && !family.isSpecial then []
  else
    let parts := climb [] ((Domain.splitOn isSlash text).map (Percent.encode Percent.inPath))
    if family = .file then dropEmpty parts else parts

/-- The text up to the query or the fragment, and both of these. -/
def tails (family : Family) (cs : List Char) :
    List Char × Option (List Char) × Option (List Char) :=
  let before := cs.takeWhile (· != '#')
  let fragment := match cs.dropWhile (· != '#') with
    | _ :: r => some (Percent.encode Percent.inFragment r)
    | [] => none
  let set := if family.isSpecial then Percent.inQuotedQuery else Percent.inQuery
  let query := match before.dropWhile (· != '?') with
    | _ :: r => some (Percent.encode set r)
    | [] => none
  (before.takeWhile (· != '?'), query, fragment)

/-- A URL whose authority is read, with the segments that follow. -/
def withTails (family : Family) (u : Url) (cs : List Char) : Url :=
  let (path, query, fragment) := tails family cs
  { u with path := .segments (segments family path), query, fragment }

/-! ## Schemes -/

/-- Read what follows the slashes before an authority. -/
def afterSlashes (scheme : List Char) (family : Family) (cs : List Char) : Except Fault Url := do
  let ends := endsAuthority family.isSpecial
  let (user, rest) := (splitUser (cs.takeWhile (!ends ·))).elim (none, cs) fun (user, rest) =>
    (some user, rest ++ cs.dropWhile (!ends ·))
  if user = some [] && rest.head?.any ends then .error .emptyHost
  let username := (user.getD []).takeWhile (· != ':')
  let password := ((user.getD []).dropWhile (· != ':')).drop 1
  let (text, rest) := hostText family.isSpecial false rest
  if text.isEmpty && (family.isSpecial || rest.head? == some ':') then .error .emptyHost
  let host ← if text.isEmpty then pure none else (readHost family.isSpecial text).map some
  let (port, rest) ← readPort (impliedPort scheme) rest
  if host.isNone && !(username.isEmpty && password.isEmpty) then .error .emptyHost
  let u : Url :=
    { scheme, host, port, path := .segments [],
      username := Percent.encode Percent.inUserInfo username,
      password := Percent.encode Percent.inUserInfo password }
  return withTails family u rest

/-- Read what follows a file's scheme. Without a host the file is on this one;
so it is when the path starts with a drive. -/
def file (scheme : List Char) (cs : List Char) : Except Fault Url := do
  let isSlash (c : Char) : Bool := c == '/' || c == '\\'
  let slashes := (cs.take 2).takeWhile isSlash
  let u : Url := { scheme, path := .segments [] }
  if slashes.length < 2 then return withTails .file u cs
  let rest := cs.drop 2
  let text := rest.takeWhile (!endsAuthority true ·)
  if text.isEmpty then return withTails .file u rest
  if isDrive text then return withTails .file u rest
  let h ← readHost true text
  let found := withTails .file u (rest.drop text.length)
  let first := match found.path with
    | .segments (s :: _) => s
    | _ => []
  if isDrive first || h == .domain "localhost".toList then return found
  return { found with host := some h }

/-- Read what follows any other scheme. -/
def other (scheme : List Char) (cs : List Char) : Except Fault Url :=
  match cs with
  | '/' :: '/' :: r => afterSlashes scheme .other r
  | '/' :: _ => .ok (withTails .other { scheme, path := .segments [] } cs)
  | _ =>
    let (path, query, fragment) := tails .other cs
    .ok { scheme, path := .plain (Percent.encode Percent.isControl path), query, fragment }

/-- Read a URL. -/
def parse (text : List Char) : Except Fault Url :=
  match scheme? (clean text) with
  | none => .error .relative
  | some (scheme, rest) =>
    match Family.ofScheme scheme with
    | .web => afterSlashes scheme .web (rest.dropWhile fun c => c == '/' || c == '\\')
    | .file => file scheme rest
    | .other => other scheme rest

example : (parse " HTTP:/user:@Host:080/a/../b?q#f".toList).toOption.map render =
    some "http://user@host/b?q#f".toList := by decide +kernel

end Url

end DeviceLink
