/-
# Reading addresses

A text is read as a browser reads what is put into its address field: blanks and controls at both
ends are dropped, tabs and line breaks everywhere, and flaws that do not matter are mended. What is
left must begin with a scheme.

The host of a special scheme is a domain name, an address of four numbers, or an address of eight
pieces between brackets. In the path of a special scheme the segments `.` and `..` are resolved,
also where the point is encoded. The fragment is no part of what is asked for.
-/

import StatusRelay.Url.Domain
import StatusRelay.Url.Percent

namespace StatusRelay.Url

/-- Whether a character is dropped at the ends of a text. -/
def isEdge (c : Char) : Bool := c.toNat ≤ 0x20

/-- Whether a character is dropped everywhere. -/
def isDropped (c : Char) : Bool := c == '\t' || c == '\n' || c == '\r'

/-- The characters of a text that count. -/
def cleaned (cs : List Char) : List Char :=
  ((cs.dropWhile isEdge).reverse.dropWhile isEdge).reverse.filter fun c => !isDropped c

/-- Whether a character ends an authority. -/
def endsAuthority (special : Bool) (c : Char) : Bool :=
  c == '/' || c == '?' || c == '#' || (special && c == '\\')

/-- The scheme in lower case, and the text after its colon. -/
def splitScheme (cs : List Char) : Option (String × List Char) :=
  let isPart (c : Char) : Bool := c.isAlphanum || c == '+' || c == '-' || c == '.'
  match cs, cs.dropWhile isPart with
  | c :: _, ':' :: rest =>
    if c.isAlpha then some (String.ofList ((cs.takeWhile isPart).map Char.toLower), rest) else none
  | _, _ => none

/-! ### Hosts -/

/-- The host that a text denotes in an address with a special scheme. -/
def readHost (cs : List Char) : Except Fault Host :=
  match cs with
  | '[' :: rest =>
    if cs.getLast? = some ']' then
      match ipv6? rest.dropLast with
      | some ns => .ok (.ipv6 ns)
      | none => .error .badIpv6
    else .error .badIpv6
  | _ =>
    match (Text.decode? (percentDecode cs)).bind Domain.toAscii? with
    | none => .error .badName
    | some [] => .error .emptyHost
    | some name =>
      if endsInNumber name then
        match ipv4? name with
        | some n => .ok (.ipv4 n)
        | none => .error .badIpv4
      else .ok (.name name)

/-- Characters that cannot stand in the host of a scheme that is not special. -/
def notInHost : List Char :=
  ['\x00', '\t', '\n', '\r', ' ', '#', '/', ':', '<', '>', '?', '@', '[', '\\', ']', '^', '|']

/-- The host that a text denotes in an address with a scheme that is not special. -/
def readPlainHost (cs : List Char) : Except Fault Host :=
  match cs with
  | '[' :: _ => readHost cs
  | _ => if cs.any notInHost.contains then .error .badHostCharacter
    else .ok (.name (percentEncode [] cs))

/-- The text of a host, up to the colon before a port, and what follows. Between brackets a colon
is part of the host. -/
def splitHost (inBrackets : Bool) : List Char → List Char × List Char
  | [] => ([], [])
  | c :: rest =>
    if c = ':' ∧ !inBrackets then ([], c :: rest)
    else
      let isInside := if c = '[' then true else if c = ']' then false else inBrackets
      let (host, rest) := splitHost isInside rest
      (c :: host, rest)

/-! ### Authorities -/

/-- An authority by its parts: whether there is a user, the host, the port. -/
structure Authority where
  hasUser : Bool
  host : Host
  port : Option Nat

/-- The text after the last `@`, and whether a user is named before it. -/
def splitUser (cs : List Char) : Bool × List Char :=
  if cs.contains '@' then
    let host := (cs.reverse.takeWhile (· != '@')).reverse
    let user := cs.take (cs.length - host.length - 1)
    (user != [] && user != [':'], host)
  else (false, cs)

/-- The port that a text denotes, unless it is empty. -/
def readPort (cs : List Char) : Except Fault (Option Nat) :=
  if cs.isEmpty then .ok none
  else match number? 10 cs with
    | some n => if n < 65536 then .ok (some n) else .error .badPort
    | none => .error .badPort

/-- The authority that a text denotes. -/
def readAuthority (scheme : String) (cs : List Char) : Except Fault Authority := do
  let special := isSpecial scheme
  let (hasUser, rest) := splitUser cs
  let (hostText, rest) := splitHost false rest
  if hostText.isEmpty ∧ (special ∨ hasUser ∨ !rest.isEmpty) then .error .emptyHost
  else
    let host ← if special then readHost hostText else readPlainHost hostText
    let port ← readPort ((rest.drop 1).takeWhile (· != '\\'))
    return ⟨hasUser, host, if port = ownPort? scheme then none else port⟩

/-! ### Targets -/

/-- Whether a segment stands for the place where it is. -/
def isDot (segment : List Char) : Bool :=
  [".", "%2e"].contains (String.ofList (segment.map Char.toLower))

/-- Whether a segment stands for the place above. -/
def isDoubleDot (segment : List Char) : Bool :=
  ["..", ".%2e", "%2e.", "%2e%2e"].contains (String.ofList (segment.map Char.toLower))

/-- The segments of a path with the dots resolved; `done` holds those before, last first. A dot at
the end leaves an empty segment. -/
def resolve (done : List (List Char)) : List (List Char) → List (List Char)
  | [] => done.reverse
  | s :: rest =>
    let stay := if rest.isEmpty then [[]] else []
    if isDoubleDot s then resolve (stay ++ done.drop 1) rest
    else if isDot s then resolve (stay ++ done) rest
    else resolve (s :: done) rest

/-- Path and query of an address with a special scheme. -/
def readTarget (cs : List Char) : List Char :=
  let cs := cs.takeWhile (· != '#')
  let path := (cs.takeWhile (· != '?')).map fun c => if c == '\\' then '/' else c
  let query := (cs.dropWhile (· != '?')).drop 1
  let segments := (match path with
    | '/' :: rest => rest
    | rest => rest).splitOn '/'
  let path := (resolve [] (segments.map (percentEncode pathEncoded))).flatMap fun s => '/' :: s
  let hasQuery := cs.contains '?'
  path ++ if hasQuery then '?' :: percentEncode queryEncoded query else []

/-! ### Whole addresses -/

/-- Whether a text is a letter and a mark, as a drive is named in a file address. -/
def isDrive (cs : List Char) : Bool :=
  match cs with
  | [c, m] => c.isAlpha && (m == ':' || m == '|')
  | _ => false

/-- The rest of a file address. -/
def readFile (cs : List Char) : Except Fault Url :=
  let isSlash (c : Char) : Bool := c == '/' || c == '\\'
  match cs with
  | a :: b :: rest =>
    if isSlash a && isSlash b then do
      let hostText := rest.takeWhile fun c => !endsAuthority true c
      if hostText.isEmpty || isDrive hostText then return ⟨"file", none, none, readTarget rest⟩
      else return ⟨"file", some (← readHost hostText), none, readTarget (rest.drop hostText.length)⟩
    else .ok ⟨"file", none, none, readTarget cs⟩
  | _ => .ok ⟨"file", none, none, readTarget cs⟩

/-- The address that begins with an authority. -/
def readFrom (scheme : String) (cs : List Char) : Except Fault Url := do
  let special := isSpecial scheme
  let text := cs.takeWhile fun c => !endsAuthority special c
  let rest := cs.dropWhile fun c => !endsAuthority special c
  if text = ['@'] ∧ !rest.isEmpty then .error .emptyHost
  else
    let authority ← readAuthority scheme text
    return ⟨scheme, some authority.host, authority.port, readTarget rest⟩

/-- The address that a text denotes. -/
def read (cs : List Char) : Except Fault Url :=
  match splitScheme (cleaned cs) with
  | none => .error .relative
  | some (scheme, rest) =>
    if scheme = "file" then readFile rest
    else if isSpecial scheme then
      readFrom scheme (rest.dropWhile fun c => c == '/' || c == '\\')
    else match rest with
      | '/' :: '/' :: rest => readFrom scheme rest
      | _ => .ok ⟨scheme, none, none, rest.takeWhile (· != '#')⟩

end StatusRelay.Url
