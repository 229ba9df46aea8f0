/-!
# Levels of log events

The five levels by which log events are told apart, from the most to the least severe. A
filter admits a level and everything more severe.
-/

namespace EmacsBatch.Log

/-- How severe a log event is. -/
inductive Level where
  | error
  | warn
  | info
  | debug
  | trace
  deriving DecidableEq

namespace Level

/-- All levels, the most severe first. -/
def all : List Level := [error, warn, info, debug, trace]

/-- The word for a level in a configuration. -/
def name : Level → String
  | error => "error"
  | warn => "warn"
  | info => "info"
  | debug => "debug"
  | trace => "trace"

/-- The level that a word stands for; only the exact words count. -/
def ofName? (word : String) : Option Level := all.find? (·.name = word)

/-- The number of more severe levels. -/
def rank : Level → Nat
  | error => 0
  | warn => 1
  | info => 2
  | debug => 3
  | trace => 4

/-- The word of a level stands for that level. -/
theorem ofName?_name (level : Level) : ofName? level.name = some level := by
  cases level <;> decide

end Level

end EmacsBatch.Log
