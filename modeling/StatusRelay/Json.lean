/-
# JSON values

The value type of JSON, with the members of an object kept in the order in which they were
written and repeated names kept too. A number is an integer, or a decimal that keeps its text.

Writing is compact: no blank stands outside a string. Inside a string the quote, the backslash
and the control characters below U+0020 are escaped, the five that have a short form by it and
the others by four lower-case hexadecimal digits; every other character stands for itself.
-/

namespace StatusRelay

/-- A JSON value. -/
inductive Json where
  | null
  | bool (b : Bool)
  | int (n : Int)
  /-- A number with a fraction or an exponent, as it was written. -/
  | decimal (text : String)
  | str (s : String)
  | arr (items : List Json)
  | obj (members : List (String × Json))
  deriving Inhabited

namespace Json

/-- One hexadecimal digit, in lower case. -/
def hexDigit (n : Nat) : Char :=
  if n < 10 then Char.ofNat (48 + n) else Char.ofNat (87 + n)

/-- The written form of one character of a string. -/
def escape (c : Char) : List Char :=
  if c = '"' then ['\\', '"']
  else if c = '\\' then ['\\', '\\']
  else if c = '\n' then ['\\', 'n']
  else if c = '\r' then ['\\', 'r']
  else if c = '\t' then ['\\', 't']
  else if c.toNat = 8 then ['\\', 'b']
  else if c.toNat = 12 then ['\\', 'f']
  else if c.toNat < 32 then
    ['\\', 'u', '0', '0', hexDigit (c.toNat / 16), hexDigit (c.toNat % 16)]
  else [c]

/-- The written form of a string, with its quotes. -/
def quote (s : List Char) : List Char := '"' :: s.flatMap escape ++ ['"']

mutual

/-- The compact text of a value, in front of `rest`. -/
def writeBefore (rest : List Char) : Json → List Char
  | .null => "null".toList ++ rest
  | .bool b => (if b then "true" else "false").toList ++ rest
  | .int n => (toString n).toList ++ rest
  | .decimal t => t.toList ++ rest
  | .str s => quote s.toList ++ rest
  | .arr [] => '[' :: ']' :: rest
  | .arr (x :: xs) => '[' :: writeBefore (writeItems (']' :: rest) xs) x
  | .obj [] => '\x7b' :: '\x7d' :: rest
  | .obj ((k, v) :: ms) =>
    '\x7b' :: (quote k.toList ++ ':' :: writeBefore (writeMembers ('\x7d' :: rest) ms) v)

/-- The items of an array after its first. -/
def writeItems (rest : List Char) : List Json → List Char
  | [] => rest
  | x :: xs => ',' :: writeBefore (writeItems rest xs) x

/-- The members of an object after its first. -/
def writeMembers (rest : List Char) : List (String × Json) → List Char
  | [] => rest
  | (k, v) :: ms => ',' :: (quote k.toList ++ ':' :: writeBefore (writeMembers rest ms) v)

end

/-- The compact text of a value. -/
def write (j : Json) : String := String.ofList (writeBefore [] j)

/-- The value of the first member with this name. -/
def get? (j : Json) (name : String) : Option Json :=
  match j with
  | .obj ms => (ms.find? fun m => m.1 == name).map (·.2)
  | _ => none

end Json
end StatusRelay
