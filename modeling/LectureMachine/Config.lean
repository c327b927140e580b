import LectureMachine.Word

/-!
# Configuration

What the user can set beforehand: which channels are traced, after how many steps a run is stopped,
and which lines of the log are wanted.
-/

namespace LectureMachine

/-- Which channels are traced. -/
structure TraceConfig where
  registers : Bool := false
  memory : Bool := false
  instructions : Bool := false
  deriving DecidableEq, Repr

/-- All channels are traced. -/
def TraceConfig.all : TraceConfig := ⟨true, true, true⟩

/-- The settings of the program. -/
structure Config where
  trace : TraceConfig := {}
  /-- The number of steps after which a run is stopped, if it is stopped. -/
  maxSteps : Option Word := none
  /-- The directives that say which lines of the log are wanted. -/
  logFilter : String := "warn"
  deriving DecidableEq, Repr

/-- Why a configuration could not be had. -/
inductive ConfigError
  | unreadable
  | malformed
  deriving DecidableEq, Repr

/-- What the user is told about a configuration that could not be had. -/
def ConfigError.message : ConfigError → String
  | .unreadable => "could not read config"
  | .malformed => "malformed config"

end LectureMachine
