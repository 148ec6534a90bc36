/-
# Failures

Every failure of the program, by the part that reports it, with its wording, its category and
whether trying again may help. A running monitor has no fatal failure: providers and consumers
report theirs and carry on, so these values come up while things are set up and at the edges.
-/

namespace StatusRelay

/-- What a failure is about. -/
inductive Category where
  | network | parsing | config | scheduler | consumer | other
  deriving DecidableEq, Repr

namespace Category

/-- A category in writing. -/
def name : Category → String
  | .network => "network"
  | .parsing => "parsing"
  | .config => "config"
  | .scheduler => "scheduler"
  | .consumer => "consumer"
  | .other => "other"

end Category

/-- Failures of the scheduler. -/
inductive SchedulerFailure where
  /-- The number of fetches allowed at once is not one the scheduler can work with. -/
  | invalidConcurrency (limit : Nat)
  /-- The permits were withdrawn while a worker waited for one. -/
  | permitsClosed (provider : String)
  /-- A worker ended abnormally. -/
  | workerDied (provider reason : String)
  deriving DecidableEq, Repr

namespace SchedulerFailure

/-- The wording of a scheduler failure. -/
def message : SchedulerFailure → String
  | invalidConcurrency limit =>
    "Invalid concurrency limit '" ++ toString limit ++ "'. Must be at least 1"
  | permitsClosed provider =>
    "Admission semaphore closed while worker '" ++ provider ++ "' was waiting"
  | workerDied provider reason => "Worker task for '" ++ provider ++ "' failed: " ++ reason

/-- Only the end of one worker leaves the scheduler able to go on. -/
def isRecoverable : SchedulerFailure → Bool
  | workerDied .. => true
  | _ => false

end SchedulerFailure

/-- Failures of a provider. -/
inductive ProviderFailure where
  /-- The request or the response was lost. -/
  | http (detail : String)
  /-- The response has a status that is neither 200 nor 304. -/
  | unexpectedStatus (status : Nat)
  /-- The feed cannot be read. -/
  | parse (detail : String)
  deriving DecidableEq, Repr

namespace ProviderFailure

/-- The wording of a provider failure. -/
def message : ProviderFailure → String
  | http detail => "HTTP request failed: " ++ detail
  | unexpectedStatus status => "Unexpected HTTP status: " ++ toString status
  | parse detail => "Parse error: " ++ detail

/-- Whether the next poll may succeed: after a lost exchange, a server error, or a request that
came too early. -/
def isRecoverable : ProviderFailure → Bool
  | http _ => true
  | unexpectedStatus status => status ≥ 500 || status == 429
  | parse _ => false

end ProviderFailure

/-- Failures of the registry. -/
inductive RegistryFailure where
  /-- A provider of this name is registered already. -/
  | duplicate (name : String)
  deriving DecidableEq, Repr

namespace RegistryFailure

/-- The wording of a registry failure. -/
def message : RegistryFailure → String
  | duplicate name => "Provider '" ++ name ++ "' is already registered"

end RegistryFailure

/-- Failures of a consumer. -/
inductive ConsumerFailure where
  /-- The request could not be built, or the exchange was lost. -/
  | http (detail : String)
  /-- The consumer is not configured well. -/
  | invalidConfig (detail : String)
  /-- The other end answered with a status that is not a success. -/
  | rejected (status : Nat) (body : String)
  /-- The event could not be written. -/
  | serialization (detail : String)
  | other (detail : String)
  deriving DecidableEq, Repr

namespace ConsumerFailure

/-- The wording of a consumer failure. -/
def message : ConsumerFailure → String
  | http detail => "HTTP request failed: " ++ detail
  | invalidConfig detail => "Invalid configuration: " ++ detail
  | rejected status body => "Rejected with HTTP " ++ toString status ++ ": " ++ body
  | serialization detail => "Serialization error: " ++ detail
  | other detail => "Consumer error: " ++ detail

end ConsumerFailure

/-- Any failure. -/
inductive Failure where
  | scheduler (f : SchedulerFailure)
  | provider (f : ProviderFailure)
  | registry (f : RegistryFailure)
  | consumer (f : ConsumerFailure)
  | config (detail : String)
  | io (detail : String)
  | json (detail : String)
  | http (detail : String)
  /-- A failure told by its context, with or without a cause behind it. -/
  | other (context : String) (cause : Option String)
  deriving DecidableEq, Repr

namespace Failure

/-- The wording of a failure. -/
def message : Failure → String
  | scheduler f => "Scheduler error: " ++ f.message
  | provider f => "Provider error: " ++ f.message
  | registry f => "Registry error: " ++ f.message
  | consumer f => "Consumer error: " ++ f.message
  | config detail => "Config error: " ++ detail
  | io detail => "I/O error: " ++ detail
  | json detail => "JSON error: " ++ detail
  | http detail => "HTTP error: " ++ detail
  | other context _ => context

/-- What a failure is about. -/
def category : Failure → Category
  | provider (.parse _) | json _ => .parsing
  | provider _ | http _ => .network
  | scheduler (.invalidConcurrency _) => .config
  | scheduler _ => .scheduler
  | registry _ | config _ => .config
  | consumer (.invalidConfig _) => .config
  | consumer _ => .consumer
  | io _ | other .. => .other

/-- Whether trying again may help. -/
def isRecoverable : Failure → Bool
  | scheduler f => f.isRecoverable
  | provider f => f.isRecoverable
  | consumer (.http _) => true
  | io _ | http _ => true
  | _ => false

/-- The wording of the failure behind this one, where there is one. -/
def cause? : Failure → Option String
  | scheduler f => some f.message
  | provider f => some f.message
  | registry f => some f.message
  | consumer f => some f.message
  | io detail | json detail | http detail => some detail
  | config _ => none
  | other _ cause => cause

/-- A failure told by its context, the outermost first. -/
def inContext (root : String) (contexts : List String) : Failure :=
  .other (contexts.foldl (fun text context => context ++ ": " ++ text) root) none

end Failure
end StatusRelay
