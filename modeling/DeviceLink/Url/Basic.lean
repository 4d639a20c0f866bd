import DeviceLink.Port
import DeviceLink.Url.Address
/-!
# URLs — their parts and their text

A URL is kept as the parts it is made of, each in the form it is written in:
escaped, in lower case where case does not count, and with the port left out
that the scheme implies. Writing one is putting the parts together.
-/

namespace DeviceLink

/-- Where a URL's authority points to. -/
inductive Host
  /-- A domain name in the form it is looked up by. -/
  | domain (name : List Char)
  /-- An address of version four. -/
  | ipv4 (address : UInt32)
  /-- The eight words of an address of version six. -/
  | ipv6 (words : List UInt16)
  /-- A text that only the scheme's own rules could read. -/
  | plain (text : List Char)
  deriving DecidableEq, Repr

namespace Host

/-- The host as a socket's connect takes it. -/
def bare : Host → List Char
  | .domain name => name
  | .ipv4 address => Ipv4.render address
  | .ipv6 words => Ipv6.render words
  | .plain text => text

/-- The host as it stands in a URL. -/
def render (h : Host) : List Char :=
  match h with
  | .ipv6 _ => ['['] ++ h.bare ++ [']']
  | _ => h.bare

end Host

namespace Url

/-- The schemes whose URLs always have a host, with the port each implies. -/
def webPorts : List (String × Port) :=
  [("http", 80), ("https", 443), ("ws", 80), ("wss", 443), ("ftp", 21)]

/-- How a scheme's URLs are read. -/
inductive Family
  /-- A host is needed. -/
  | web
  /-- A file, on a host or on this one. -/
  | file
  /-- Every other scheme. -/
  | other
  deriving DecidableEq, Repr

/-- The family of a scheme. -/
def Family.ofScheme (scheme : List Char) : Family :=
  if scheme = "file".toList then .file
  else if webPorts.any (·.1.toList = scheme) then .web
  else .other

/-- Whether a backslash divides segments as a slash does. -/
def Family.isSpecial : Family → Bool
  | .other => false
  | _ => true

/-- The port a scheme implies. -/
def impliedPort (scheme : List Char) : Option Port :=
  (webPorts.find? (·.1.toList = scheme)).map (·.2)

/-- What follows the authority. -/
inductive Path
  /-- Segments, each after a slash. -/
  | segments (parts : List (List Char))
  /-- A text without structure. -/
  | plain (text : List Char)
  deriving DecidableEq, Repr

/-- The path as it stands in a URL. -/
def Path.render : Path → List Char
  | .segments parts => parts.flatMap ('/' :: ·)
  | .plain text => text

end Url

/-- A URL. -/
structure Url where
  scheme : List Char
  username : List Char := []
  password : List Char := []
  host : Option Host := none
  /-- A port other than the one the scheme implies. -/
  port : Option Port := none
  path : Url.Path
  query : Option (List Char) := none
  fragment : Option (List Char) := none
  deriving DecidableEq, Repr

namespace Url

/-- The user's part, with the sign that ends it. -/
def userInfo (u : Url) : List Char :=
  let password := if u.password.isEmpty then [] else ':' :: u.password
  if u.username.isEmpty && u.password.isEmpty then [] else u.username ++ password ++ ['@']

/-- The authority, with the slashes before it. -/
def authority (u : Url) : List Char :=
  match u.host with
  | some h =>
    ['/', '/'] ++ u.userInfo ++ h.render ++ (u.port.elim [] fun p => ':' :: (toString p).toList)
  | none => if Family.ofScheme u.scheme = .file then ['/', '/'] else []

/-- The path and the query: what a request asks its host for. -/
def target (u : Url) : List Char :=
  u.path.render ++ u.query.elim [] ('?' :: ·)

/-- The text of a URL. -/
def render (u : Url) : List Char :=
  u.scheme ++ [':'] ++ u.authority ++ u.target ++ u.fragment.elim [] ('#' :: ·)

end Url

end DeviceLink
