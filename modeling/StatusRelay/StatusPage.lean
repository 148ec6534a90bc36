/-
# The status page

The status page is asked for its feed again and again. With each feed that was read it may send a
tag, and the next request names the tag, so that the page need not send the same feed again.

| answer | incidents | tag that is remembered |
| --- | --- | --- |
| status 200, and the feed could be read | those of the feed | that of the answer, or none |
| anything else | none | as before |

A tag is remembered if it is text of visible ASCII characters.
-/

import StatusRelay.Failure
import StatusRelay.Feed
import StatusRelay.Http
import StatusRelay.Incident.Reader
import StatusRelay.Url.Reader

namespace StatusRelay

/-- The status page as it is asked. -/
structure StatusPage where
  address : String
  /-- The tag of the feed that was read last. -/
  tag : Option String := none
  deriving DecidableEq, Repr, Inhabited

namespace StatusPage

/-- The address of the public feed. -/
def publicAddress : String := "https://status.openai.com/feed.atom"

/-- How many seconds pass between two requests. -/
def intervalSeconds : Nat := 300

/-- The incidents of a feed. -/
def read (bytes : List UInt8) : Except Feed.Fault (List Incident) :=
  (Feed.read bytes).map fun entries => entries.filterMap Incident.ofEntry?

/-- A failure to read a feed, as a failure of the provider. -/
def failure (fault : Feed.Fault) : ProviderFailure := .parse fault.message

/-- The request for the feed, from a program that may give its name. -/
def request (p : StatusPage) (agent : Option String) (url : Url) : Http.Request :=
  let named (name : String) (value : Option String) : List Http.Header :=
    value.toList.map fun v => ⟨name, v.toList⟩
  ⟨"GET", url.target, named "if-none-match" p.tag ++ named "user-agent" agent, none⟩

/-- Whether a byte is a visible character of ASCII or a tab. -/
def isVisible (b : UInt8) : Bool := (32 ≤ b.toNat && b.toNat < 127) || b == 9

/-- The tag of an answer as text. -/
def tagText? (tag : Option (List UInt8)) : Option String := do
  let bytes ← tag
  if bytes.all isVisible then
    let text := Text.trim (bytes.map fun b => Char.ofNat b.toNat)
    return String.ofList text
  else none

/-- What a reply brings: the incidents of its feed or a failure, and the page afterwards. The tag of
the reply is remembered last, once the whole feed has come and could be read. -/
def receive? (p : StatusPage) : Http.Reply → Except ProviderFailure (List Incident) × StatusPage
  | .lost => (.error (.http ""), p)
  | .answered status tag body =>
    if status = 304 then (.ok [], p)
    else if status ≠ 200 then (.error (.unexpectedStatus status), p)
    else match body with
      | none => (.error (.http ""), p)
      | some bytes =>
        match read bytes with
        | .error fault => (.error (failure fault), p)
        | .ok incidents => (.ok incidents, { p with tag := tagText? tag })

/-- The incidents that a reply brings, a failure being none, and the page afterwards. -/
def receive (p : StatusPage) (reply : Http.Reply) : List Incident × StatusPage :=
  let (result, p) := p.receive? reply
  match result with
  | .ok incidents => (incidents, p)
  | .error _ => ([], p)

/-- One poll: what was asked, what it brought, and the page afterwards. The reply depends on the
request; a page whose address is none is not asked. -/
def poll (p : StatusPage) (agent : Option String) (answer : Url → Http.Request → Http.Reply) :
    List Incident × StatusPage :=
  match Url.read p.address.toList with
  | .ok url => p.receive (answer url (p.request agent url))
  | .error _ => ([], p)

end StatusPage
end StatusRelay
