/-
# Requests and responses in bytes

A request is a line, its headers, an empty line and its body. A response has the same shape; its
first line tells the status. The connection serves one request, so the other end closes it after
the response.

| header of the response | the body is |
| --- | --- |
| `transfer-encoding: chunked` | in chunks, each after its length in hexadecimal; one of length 0 ends it |
| `content-length` | as long as it says |
| neither | all that comes |

A body that is shorter than announced was cut short. Responses with status 1xx, 204 or 304 have no
body.
-/

import StatusRelay.Http
import StatusRelay.Text.Blank
import StatusRelay.Url.Address

namespace StatusRelay.Http

/-! ### Requests -/

/-- A line with its end. -/
def lineBytes (cs : List Char) : List UInt8 := Text.encode (cs ++ ['\r', '\n'])

/-- The bytes of a request to a host. -/
def Request.bytes (r : Request) (host : List Char) : List UInt8 :=
  let body := match r.body with
    | some j => Text.encode j.write.toList
    | none => []
  let header (name : String) (value : List Char) : List UInt8 :=
    lineBytes (name.toList ++ ": ".toList ++ value)
  lineBytes (r.method.toList ++ ' ' :: r.target ++ " HTTP/1.1".toList) ++
    header "host" host ++ header "accept" "*/*".toList ++
    r.headers.flatMap (fun h => header h.name h.value) ++
    (if r.body.isSome then header "content-length" (toString body.length).toList else []) ++
    header "connection" "close".toList ++ lineBytes [] ++ body

/-! ### Responses -/

/-- The bytes up to the next line end, and those after it. -/
def splitLine : List UInt8 → Option (List UInt8 × List UInt8)
  | [] => none
  | 13 :: 10 :: rest => some ([], rest)
  | 10 :: rest => some ([], rest)
  | b :: rest => (splitLine rest).map fun (line, rest) => (b :: line, rest)

/-- The lines up to an empty one, so many at most, and the bytes after it. -/
def splitHead : Nat → List UInt8 → Option (List (List UInt8) × List UInt8)
  | 0, _ => none
  | most + 1, bs =>
    match splitLine bs with
    | none => none
    | some ([], rest) => some ([], rest)
    | some (line, rest) => (splitHead most rest).map fun (lines, rest) => (line :: lines, rest)

/-- Bytes as characters of the same numbers. -/
def latin (bs : List UInt8) : List Char := bs.map fun b => Char.ofNat b.toNat

/-- The status that the first line tells. -/
def statusOf? (line : List UInt8) : Option Nat :=
  match (latin line).splitOn ' ' with
  | version :: status :: _ =>
    if "HTTP/1.".toList.isPrefixOf version ∧ status.length = 3 then Url.number? 10 status else none
  | _ => none

/-- The value of a header, by its name in lower case. -/
def headerValue? (name : String) (lines : List (List UInt8)) : Option (List UInt8) :=
  lines.findSome? fun line =>
    let own := (latin (line.takeWhile (· != 58))).map Char.toLower
    if own = name.toList ∧ line.contains 58 then
      let isEdge (b : UInt8) : Bool := b == 32 || b == 9
      some (((((line.dropWhile (· != 58)).drop 1).dropWhile isEdge).reverse.dropWhile isEdge).reverse)
    else none

/-- The body in chunks, so many at most, unless it is cut short. -/
def joinChunks : Nat → List UInt8 → Option (List UInt8)
  | 0, _ => none
  | most + 1, bs => do
    let (line, rest) ← splitLine bs
    let size ← Url.number? 16 (Text.trim (latin (line.takeWhile (· != 59))))
    if size = 0 then some []
    else if rest.length < size then none
    else
      let (_, next) ← splitLine (rest.drop size)
      return rest.take size ++ (← joinChunks most next)

/-- The body of a response with a status and headers, unless it is cut short. -/
def bodyOf? (status : Nat) (lines : List (List UInt8)) (rest : List UInt8) : Option (List UInt8) :=
  if status < 200 ∨ status = 204 ∨ status = 304 then some []
  else if headerValue? "transfer-encoding" lines = some (Text.encode "chunked".toList) then
    joinChunks rest.length rest
  else match (headerValue? "content-length" lines).bind fun v => Url.number? 10 (latin v) with
    | some size => if rest.length < size then none else some (rest.take size)
    | none => some rest

/-- The reply that bytes denote. -/
def Reply.ofBytes (bs : List UInt8) : Reply :=
  match splitHead bs.length bs with
  | some (first :: lines, rest) =>
    match statusOf? first with
    | some status => .answered status (headerValue? "etag" lines) (bodyOf? status lines rest)
    | none => .lost
  | _ => .lost

end StatusRelay.Http
