/-
# Crashes

A fetch or a handler may crash instead of coming to its end. What it leaves behind is a text, or
some value that has no text. The part that ran it carries on.
-/

namespace StatusRelay

/-- What a crash leaves behind. -/
inductive Crash where
  | withText (text : String)
  | withoutText
  deriving DecidableEq, Repr, Inhabited

namespace Crash

/-- A crash in writing. -/
def message : Crash → String
  | withText text => text
  | withoutText => "non-string panic payload"

end Crash
end StatusRelay
