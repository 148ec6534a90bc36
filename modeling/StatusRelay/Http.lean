/-
# Requests and responses

What goes over the wire, as far as the other end can see it and we can. The name of a header is a
token, and is the same in upper and lower case; its value is any bytes but controls, the tab being
allowed.
-/

import StatusRelay.Json
import StatusRelay.Text.Utf8

namespace StatusRelay
namespace Http

/-- A header, its name in lower case. -/
structure Header where
  name : String
  value : List Char
  deriving DecidableEq, Repr, Inhabited

/-- Whether a character can stand in the name of a header. -/
def isNameChar (c : Char) : Bool :=
  c.isAlphanum || ['!', '#', '$', '%', '&', '\'', '*', '+', '-', '.', '^', '_', '\x60', '|',
    '~'].contains c

/-- Whether a text is the name of a header. -/
def isName (s : String) : Bool := !s.isEmpty && s.toList.all isNameChar

/-- Whether a character can stand in the value of a header. -/
def isValueChar (c : Char) : Bool := (0x20 ≤ c.toNat && c.toNat != 0x7F) || c == '\t'

/-- The header with a name and a value, if there is one. -/
def header? (name value : String) : Option Header :=
  if isName name && value.toList.all isValueChar then
    some ⟨String.ofList (name.toList.map Char.toLower), value.toList⟩
  else none

/-- A request. -/
structure Request where
  method : String
  target : List Char
  headers : List Header
  body : Option Json
  deriving Inhabited

namespace Request

/-- The values of a header as the other end reads them, without blanks around them, and in order. -/
def values (r : Request) (name : String) : List String :=
  let isEdge (c : Char) : Bool := c == ' ' || c == '\t'
  let texts := (r.headers.filter fun h => h.name == name).map fun h =>
    String.ofList (((h.value.dropWhile isEdge).reverse.dropWhile isEdge).reverse)
  texts.mergeSort fun a b => !decide (b < a)

end Request

/-- What becomes of a request. -/
inductive Reply where
  /-- There is no answer, or the request could not be sent. -/
  | lost
  /-- An answer. The body is absent if it was cut short. -/
  | answered (status : Nat) (etag : Option (List UInt8)) (body : Option (List UInt8))
  deriving DecidableEq, Repr, Inhabited

end Http
end StatusRelay
