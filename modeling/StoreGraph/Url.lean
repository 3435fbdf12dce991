/-! # URLs

The parts of a URL by which a backend is chosen and set up. User names, passwords, ports and
fragments are checked when a URL is read, and not kept.
-/

namespace StoreGraph

structure Url where
  scheme : String
  /-- The host, if there is one that is not empty. -/
  host : Option String
  /-- The path: opaque, or empty, or beginning with a slash. -/
  path : String
  /-- What stands behind a question mark, if there is one. -/
  query : Option String
  deriving Repr, DecidableEq

namespace Url

/-- Why a text is not a URL. -/
inductive Fault where
  /-- The text does not begin with a scheme. -/
  | noScheme
  | emptyHost
  /-- A port is not a number of at most 16 bits. -/
  | invalidPort
  /-- A host is not an IPv4 address although it ends like one. -/
  | invalidIpv4
  /-- A host in brackets is not an IPv6 address. -/
  | invalidIpv6
  /-- A host holds a character that hosts must not hold. -/
  | invalidHostCharacter
  /-- A host name cannot be written in ASCII. -/
  | invalidName
  deriving Repr, DecidableEq

namespace Fault

def message : Fault → String
  | noScheme => "relative URL without a base"
  | emptyHost => "empty host"
  | invalidPort => "invalid port number"
  | invalidIpv4 => "invalid IPv4 address"
  | invalidIpv6 => "invalid IPv6 address"
  | invalidHostCharacter => "invalid domain character"
  | invalidName => "invalid international domain name"

end Fault

end Url

end StoreGraph
