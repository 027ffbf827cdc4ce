/-!
# SignedPayments.Log

What is told while a call runs.
-/

namespace SignedPayments

/-- How much an entry matters. -/
inductive LogLevel
  | debug
  | warning
deriving DecidableEq, Repr

/-- An entry of the log. -/
structure LogEntry where
  level : LogLevel
  text : String
deriving DecidableEq, Repr

/-- Entries in the order in which they were written. -/
abbrev Log := List LogEntry

namespace LogEntry

/-- An entry for those who look closely. -/
def debug (text : String) : LogEntry := ⟨.debug, text⟩

/-- An entry about something that was ignored. -/
def warning (text : String) : LogEntry := ⟨.warning, text⟩

end LogEntry

end SignedPayments
