import RunnerFleet.Text

/-!
# The log

What the service reports while it works: lines with a level, in order.  Which
of them are shown is a matter of a threshold.
-/

namespace RunnerFleet

/-- How grave a line of the log is. -/
inductive Level where
  | debug
  | info
  | warning
  | error
  deriving DecidableEq, Repr

/-- The word for a level. -/
def Level.word : Level → String
  | .debug => "DEBUG"
  | .info => "INFO"
  | .warning => "WARNING"
  | .error => "ERROR"

/-- The rank of a level; a threshold is compared with it. -/
def Level.rank : Level → Nat
  | .debug => 10
  | .info => 20
  | .warning => 30
  | .error => 40

/-- A line of the log. -/
structure LogLine where
  level : Level
  message : Text
  deriving DecidableEq, Repr

/-- A line as it is shown without a time. -/
def LogLine.text (line : LogLine) : Text :=
  line.level.word ++ " " ++ line.message

/-- A line as it is shown with the time of its writing. -/
def LogLine.stamped (line : LogLine) (time : String) : Text :=
  time ++ " [" ++ line.level.word ++ "] " ++ line.message

/-- The lines that are shown from a threshold on. -/
def visibleFrom (threshold : Nat) (log : List LogLine) : List LogLine :=
  log.filter (threshold ≤ ·.level.rank)

end RunnerFleet
