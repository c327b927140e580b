import LectureMachine.Config
import LectureMachine.Trace

/-!
# Setting up the log

A filter says which lines of the log are wanted; it is a list of directives between commas. The
environment may name one. If it does not, the filter is put together from the log filter of the
configuration and a directive for every channel that is traced.

Filters are read by a library. What it makes of them shows in the log only, unless the library
breaks down over a filter, and the program with it.
-/

namespace LectureMachine

/-! ### Readers -/

/-- What comes of reading a filter in which all directives have to make sense. -/
inductive FilterReading
  | taken
  | refused
  | brokenDown
  deriving DecidableEq, Repr

/-- A library that reads filters. -/
structure FilterReader where
  /-- Reads a filter in which all directives have to make sense. -/
  readStrictly : String → FilterReading
  /-- Whether the library breaks down over a filter of which it passes over the directives that make
  no sense. -/
  breaksDown : String → Bool

/-- What the log depends on, apart from the configuration. -/
structure Logging where
  reader : FilterReader
  /-- The filter that the environment names, if it names one. -/
  environment : Option String := none

/-- Whether the program breaks down when it sets up the log. The filter of the environment comes
before the directives of the configuration, unless it is refused. -/
def Logging.breaksDown (logging : Logging) (directives : String) : Bool :=
  match logging.environment.map logging.reader.readStrictly with
  | some .taken => false
  | some .brokenDown => true
  | some .refused | none => logging.reader.breaksDown directives

/-! ### Directives -/

/-- The directives for the channels that are traced. -/
def TraceConfig.directives (c : TraceConfig) : List String :=
  let channels :=
    [ (c.registers, s!"{TraceLine.registers}=trace"),
      (c.memory, s!"{TraceLine.memory}=trace"),
      (c.instructions, s!"{TraceLine.instructions}=debug") ]
  (channels.filter (·.1)).map (·.2)

/-- All directives that a configuration asks for. -/
def Config.directives (config : Config) : String :=
  config.trace.directives.foldl (fun directives directive => directives ++ "," ++ directive)
    config.logFilter

end LectureMachine
