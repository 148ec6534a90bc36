/-
# What a status page tells and what is asked of it

A request names the tag of a feed, and the page need not send that feed again. This is safe as long
as the tag is that of a feed whose incidents have been passed on. So a tag may be remembered only
after its feed has come as a whole and could be read, and a feed without a tag must clear it.

| reply | incidents | next request |
| --- | --- | --- |
| 200, a feed that can be read, a tag in text | those of the feed | names the tag |
| 200, a feed that can be read | those of the feed | names none |
| any other | none | names what this one named |

A version of the feed is never lost behind a 304: a page that sends one only to who names its
present version has sent that version before, and a poll has passed it on.
-/

import StatusRelay.Proofs.Text
import StatusRelay.StatusPage.Provider

namespace StatusRelay

namespace StatusPage

variable {p : StatusPage} {o : Outside} {n : Nat}

/-! ### Replies -/

/-- The reply to a poll. A page whose address is none is not asked, so nothing comes. -/
def reply (p : StatusPage) (o : Outside) (n : Nat) : Http.Reply :=
  match Url.read p.address.toList with
  | .ok url => o.answer n url ((p.after o n).request o.agent url)
  | .error _ => .lost

end StatusPage
end StatusRelay
