/-
# Incidents

An entry of the status page's feed describes an incident when its identifier is an address that
names one. The incident has the title of the entry and the status that its text gives, and concerns
the components that its text lists. There is one event for each component; an incident without
components is an event of its own, under its title.
-/

import StatusRelay.Event

namespace StatusRelay

/-- An incident of the status page. -/
structure Incident where
  id : String
  title : String
  status : String
  /-- The components it concerns, in order; a name may come twice. -/
  components : List String
  /-- When it was last changed or first told of, if the page says so. -/
  moment : Option Timestamp
  deriving DecidableEq, Repr, Inhabited

namespace Incident

/-- The provider of all incidents. -/
def provider : String := "OpenAI"

/-- The message of all events of an incident. -/
def message (i : Incident) : String := i.title ++ " -- " ++ i.status

/-- The events of an incident. An incident that tells no moment has the one that is given. -/
def events (i : Incident) (now : Timestamp) : List Event :=
  let timestamp := i.moment.getD now
  if i.components.isEmpty then [⟨i.id, provider, i.title, i.message, timestamp⟩]
  else i.components.map fun name => ⟨i.id ++ ":" ++ name, provider, name, i.message, timestamp⟩

end Incident
end StatusRelay
