/-!
# Log levels

The five levels of log events, from the most to the least talkative.
-/

namespace Signpost.Log

/-- How important an event is. -/
inductive Level where
  | trace
  | debug
  | info
  | warn
  | error
  deriving DecidableEq, Repr

namespace Level

/-- All levels, the most talkative first. -/
def all : List Level := [.trace, .debug, .info, .warn, .error]

/-- The name of a level, as settings and filters spell it. -/
def name : Level → String
  | trace => "trace"
  | debug => "debug"
  | info => "info"
  | warn => "warn"
  | error => "error"

/-- The level of a name. -/
def ofName? (s : String) : Option Level :=
  all.find? (·.name = s)

/-- The level as it is written in the log. -/
def label : Level → String
  | trace => "TRACE"
  | debug => "DEBUG"
  | info => "INFO"
  | warn => "WARN"
  | error => "ERROR"

/-- The place of a level: an event passes a filter that lets through its level or a lower place. -/
def severity : Level → Nat
  | trace => 1
  | debug => 2
  | info => 3
  | warn => 4
  | error => 5

end Level

end Signpost.Log
