/-
# Addresses

An absolute address: a scheme, then for most schemes an authority with a host and perhaps a port,
then a path, a query and a fragment. Six schemes are special: their authority is never missing,
and a backslash in them is a slash.

| scheme | own port |
| --- | --- |
| `ftp` | 21 |
| `http`, `ws` | 80 |
| `https`, `wss` | 443 |
| `file` | |
-/

namespace StatusRelay

/-- The host of an address. -/
inductive Host where
  /-- A domain name in its ASCII form, or the text of a host of a scheme that is not special. -/
  | name (text : List Char)
  | ipv4 (address : Nat)
  | ipv6 (pieces : List Nat)
  deriving DecidableEq, Repr, Inhabited

/-- An address, as far as it says whom to ask for what. -/
structure Url where
  scheme : String
  host : Option Host
  /-- The port, unless it is the scheme's own. -/
  port : Option Nat
  /-- Path and query as they are asked for. -/
  target : List Char
  deriving DecidableEq, Repr, Inhabited

namespace Host

/-- A host in writing. -/
def shown : Host → List Char
  | name text => text
  | ipv4 n => (".".intercalate ([24, 16, 8, 0].map fun k => toString (n / Nat.pow 2 k % 256))).toList
  | ipv6 pieces =>
    '[' :: [':'].intercalate (pieces.map fun n => Nat.toDigits 16 n) ++ [']']

end Host

namespace Url

/-- Why a text is not an address. -/
inductive Fault where
  /-- There is no scheme. -/
  | relative
  | emptyHost
  | badPort
  | badIpv4
  | badIpv6
  /-- A domain name breaks the rules for such names. -/
  | badName
  /-- A character cannot stand in a host. -/
  | badHostCharacter
  deriving DecidableEq, Repr

/-- The wording of a fault. -/
def Fault.message : Fault → String
  | relative => "relative URL without a base"
  | emptyHost => "empty host"
  | badPort => "invalid port number"
  | badIpv4 => "invalid IPv4 address"
  | badIpv6 => "invalid IPv6 address"
  | badName => "invalid international domain name"
  | badHostCharacter => "invalid domain character"

/-- Whether a scheme is special. -/
def isSpecial (scheme : String) : Bool :=
  ["http", "https", "ws", "wss", "ftp", "file"].contains scheme

/-- The port that a scheme has of its own. -/
def ownPort? (scheme : String) : Option Nat :=
  match scheme with
  | "http" | "ws" => some 80
  | "https" | "wss" => some 443
  | "ftp" => some 21
  | _ => none

end Url
end StatusRelay
