import MailSearch.Fault

/-!
# Events

What the program reports beside its answers: warnings, and details of its work. A
`Logged` action gives the events up to its end together with its result, so that the
events of an action that failed are kept.
-/

namespace MailSearch

/-- How much an event matters. -/
inductive Level where
  | debug
  | warning
  deriving DecidableEq, Repr

/-- The part of the program that an event comes from. -/
inductive Topic where
  | index
  | query
  | search
  | snapshot
  | history
  | settings
  deriving DecidableEq, Repr

/-- The name under which a part of the program reports. -/
def Topic.name : Topic → String
  | index => "mail_search_index.index.manager"
  | query => "mail_search_index.index.query"
  | search => "mail_search_index.index.search"
  | snapshot => "mail_search_index.index.snapshot"
  | history => "mail_search_index.history"
  | settings => "mail_search_index.config"

/-- An event that is reported. -/
structure Event where
  level : Level
  topic : Topic
  message : String
  deriving DecidableEq, Repr

/-- The word for a level. -/
def Level.name : Level → String
  | debug => "DEBUG"
  | warning => "WARNING"

/-- An event on one line with its level and topic. -/
def Event.detailed (e : Event) : String := s!"{e.level.name} {e.topic.name}: {e.message}"

/-- An action that reports events and then gives a result or fails. -/
structure Logged (α : Type) where
  events : List Event
  result : Except Fault α

namespace Logged

variable {α β : Type}

/-- Give a result and report nothing. -/
def pure (a : α) : Logged α := ⟨[], .ok a⟩

/-- Go on with the result of an action, if it has one. -/
def bind (action : Logged α) (next : α → Logged β) : Logged β :=
  match action.result with
  | .ok a => ⟨action.events ++ (next a).events, (next a).result⟩
  | .error fault => ⟨action.events, .error fault⟩

instance : Monad Logged where
  pure := Logged.pure
  bind := Logged.bind

/-- Fail for a cause. -/
def fail (fault : Fault) : Logged α := ⟨[], .error fault⟩

/-- A result or a cause of failure, without events. -/
def lift (result : Except Fault α) : Logged α := ⟨[], result⟩

/-- Report an event. -/
def report (event : Event) : Logged Unit := ⟨[event], .ok ()⟩

/-- Report a warning. -/
def warn (topic : Topic) (message : String) : Logged Unit := report ⟨.warning, topic, message⟩

/-- Report a detail. -/
def detail (topic : Topic) (message : String) : Logged Unit := report ⟨.debug, topic, message⟩

end Logged
end MailSearch
