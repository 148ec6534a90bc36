/-
# Feeds

A feed is XML or JSON, which the first bracket or brace shows, if there is one near enough to the
front. Nothing else is asked of what stands before it.
-/

import StatusRelay.Feed.Json
import StatusRelay.Feed.Xml
import StatusRelay.Xml.Reader

namespace StatusRelay
namespace Feed

/-- How many bytes are looked at for the beginning of a feed. -/
def frontSize : Nat := 8192

/-- The entries of a feed, in order. -/
def read (bytes : List UInt8) : Except Fault (List Entry) :=
  match (bytes.take frontSize).find? fun b => b == 0x3C || b == 0x7B with
  | none => .error .noRoot
  | some b => if b == 0x3C then readXml (StatusRelay.Xml.read bytes) else readJson bytes

end Feed
end StatusRelay
