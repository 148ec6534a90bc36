/-
# Events as JSON

An event is written as an object of its five members in a fixed order. It is read from an object
with these members in any order, other members being skipped, or from an array of the five values
in that order. No member may be missing or stand twice. The timestamp is read in the relaxed
notation, so that whatever is written can be read.

The reader meets the faults of a text in the order in which they stand there: a wrong shape that
comes first hides a later flaw of the text, and the other way round.
-/

import StatusRelay.Event
import StatusRelay.Json.Reader
import StatusRelay.Timestamp.Reader

namespace StatusRelay
namespace Event

open Json (Fault)

/-- The members of an event, in the order in which they are written. -/
inductive Member where
  | id | provider | service | message | timestamp
  deriving DecidableEq, Repr

namespace Member

/-- The members in order. -/
def all : List Member := [.id, .provider, .service, .message, .timestamp]

/-- The name of a member. -/
def name : Member → String
  | .id => "id"
  | .provider => "provider"
  | .service => "service"
  | .message => "message"
  | .timestamp => "timestamp"

/-- The member with a name. -/
def ofName? (s : String) : Option Member := all.find? fun m => m.name == s

end Member

/-! ### Writing -/

/-- The text of a member of an event, unquoted. -/
def text (e : Event) : Member → List Char
  | .id => e.id.toList
  | .provider => e.provider.toList
  | .service => e.service.toList
  | .message => e.message.toList
  | .timestamp => e.timestamp.write

/-- The JSON value of an event. -/
def toJson (e : Event) : Json :=
  .obj (Member.all.map fun m => (m.name, .str (String.ofList (e.text m))))

/-- The JSON text of an event. -/
def write (e : Event) : List Char := Json.writeBefore [] e.toJson

/-! ### Reading -/

/-- What has been read of an event so far. -/
structure Draft where
  id : Option String := none
  provider : Option String := none
  service : Option String := none
  message : Option String := none
  timestamp : Option Timestamp := none

namespace Draft

/-- Whether a member has been read. -/
def has (d : Draft) : Member → Bool
  | .id => d.id.isSome
  | .provider => d.provider.isSome
  | .service => d.service.isSome
  | .message => d.message.isSome
  | .timestamp => d.timestamp.isSome

/-- The event, once every member has been read. -/
def finish (d : Draft) : Except Fault Event :=
  match d with
  | ⟨some id, some provider, some service, some message, some timestamp⟩ =>
    .ok ⟨id, provider, service, message, timestamp⟩
  | _ => .error .mismatched

end Draft

/-- The fault of a value that is not the string or the record asked for: the text is at fault if
the value has a flaw of its own. An array or an object is not looked into. -/
def unexpected (cs : List Char) : Fault :=
  let fault {α : Type} : Except Fault α → Fault
    | .ok _ => .mismatched
    | .error f => f
  match cs with
  | [] => .ended
  | c :: r =>
    if c = 'n' then fault (Json.name "ull".toList r)
    else if c = 't' then fault (Json.name "rue".toList r)
    else if c = 'f' then fault (Json.name "alse".toList r)
    else if c = '-' ∨ c.isDigit then fault (Json.finiteNumeral cs)
    else if c = '"' then fault (Json.stringBody [] r)
    else if c = '[' ∨ c = '\x7b' then .mismatched
    else .malformed

/-- A string value. -/
def readString (cs : List Char) : Except Fault (List Char × List Char) :=
  match Json.skipGaps cs with
  | '"' :: r => Json.stringBody [] r
  | cs => .error (unexpected cs)

/-- The value of one member, put into the draft. -/
def readMember (d : Draft) (m : Member) (cs : List Char) : Except Fault (Draft × List Char) := do
  let (s, r) ← readString cs
  match m with
  | .id => return ({ d with id := some (String.ofList s) }, r)
  | .provider => return ({ d with provider := some (String.ofList s) }, r)
  | .service => return ({ d with service := some (String.ofList s) }, r)
  | .message => return ({ d with message := some (String.ofList s) }, r)
  | .timestamp =>
    match Timestamp.readRelaxed s with
    | some t => return ({ d with timestamp := some t }, r)
    | none => .error .mismatched

/-- The text after the colon that follows a name. -/
def afterColon (cs : List Char) : Except Fault (List Char) :=
  match Json.skipGaps cs with
  | [] => .error .ended
  | c :: r => if c = ':' then .ok r else .error .malformed

/-- The member with a name, up to the end of its value; a name that no member has is skipped. -/
def readNamed (d : Draft) (name : List Char) (cs : List Char) :
    Except Fault (Draft × List Char) :=
  match Member.ofName? (String.ofList name) with
  | some m => if d.has m then .error .mismatched else do readMember d m (← afterColon cs)
  | none => do
    let r ← Json.skip (← afterColon cs)
    return (d, r)

/-- The members of an object whose next name begins after its quote. -/
def readMembers (fuel : Nat) (d : Draft) (cs : List Char) : Except Fault (Draft × List Char) :=
  match fuel with
  | 0 => .error .ended
  | fuel + 1 => do
    let (k, r) ← Json.stringBody [] cs
    let (d, r) ← readNamed d k r
    match Json.skipGaps r with
    | [] => .error .ended
    | c :: r =>
      if c = '\x7d' then return (d, r)
      else if c = ',' then
        match Json.skipGaps r with
        | [] => .error .ended
        | '"' :: r => readMembers fuel d r
        | _ => .error .malformed
      else .error .malformed

/-- The items of an array for the members that are still to come. -/
def readItems (d : Draft) : List Member → Bool → List Char → Except Fault (Draft × List Char)
  | [], _, cs =>
    match Json.skipGaps cs with
    | [] => .error .ended
    | c :: r => if c = ']' then .ok (d, r) else .error .malformed
  | m :: ms, first, cs =>
    match Json.skipGaps cs with
    | [] => .error .ended
    | c :: r =>
      if c = ']' then .error .mismatched
      else if first then do
        let (d, r) ← readMember d m (c :: r)
        readItems d ms false r
      else if c = ',' then
        match Json.skipGaps r with
        | [] => .error .ended
        | ']' :: _ => .error .malformed
        | r => do
          let (d, r) ← readMember d m r
          readItems d ms false r
      else .error .malformed

/-- The event that a text begins with. -/
def readPart (cs : List Char) : Except Fault (Event × List Char) :=
  match Json.skipGaps cs with
  | '\x7b' :: r =>
    match Json.skipGaps r with
    | [] => .error .ended
    | '"' :: r => do
      let (d, r) ← readMembers (r.length + 1) {} r
      return (← d.finish, r)
    | c :: _ => .error (if c = '\x7d' then .mismatched else .malformed)
  | '[' :: r => do
    let (d, r) ← readItems {} Member.all true r
    return (← d.finish, r)
  | cs => .error (unexpected cs)

/-- The event that a whole text denotes. -/
def read (cs : List Char) : Except Fault Event := do
  let (e, r) ← readPart cs
  if (Json.skipGaps r).isEmpty then return e else .error .malformed

end Event
end StatusRelay
