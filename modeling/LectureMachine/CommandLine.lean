import LectureMachine.Word

/-!
# Command line

The program is called with the name of an image and with options. An option is given once at most;
its value follows it or is joined to it with an equals sign. After `--` there are no more options.
-/

namespace LectureMachine

/-- What the program was called with. -/
structure Arguments where
  image : String
  /-- The image is binary. -/
  binary : Bool := false
  /-- All channels are traced. -/
  trace : Bool := false
  config : String := "ulm.ron"
  maxSteps : Option Word := none
  deriving DecidableEq, Repr

namespace CommandLine

/-- Why the program is not going to run. -/
inductive Refusal
  /-- The arguments make no sense. -/
  | usage
  /-- The user only wanted to know how to call it. -/
  | help
  deriving DecidableEq, Repr

/-- The arguments read so far. -/
structure Draft where
  image : Option String := none
  binary : Bool := false
  trace : Bool := false
  config : Option String := none
  maxSteps : Option Word := none

/-- A number of steps: decimal digits, which a plus sign may precede. -/
def readSteps? (text : String) : Option Word :=
  let digits := match text.toList with
    | '+' :: digits => digits
    | digits => digits
  if digits.isEmpty || !digits.all Char.isDigit then none
  else
    let n := digits.foldl (fun n c => n * 10 + (c.toNat - '0'.toNat)) 0
    if n < UInt64.size then some (BitVec.ofNat 64 n) else none

namespace Draft

/-- Takes the name of the image. -/
def takeImage (d : Draft) (image : String) : Except Refusal Draft :=
  if d.image.isSome || image.isEmpty then .error .usage else .ok { d with image := some image }

/-- Takes an option that has no value. -/
def takeSwitch (d : Draft) (name : String) : Except Refusal Draft :=
  match name with
  | "binary" => if d.binary then .error .usage else .ok { d with binary := true }
  | "trace" => if d.trace then .error .usage else .ok { d with trace := true }
  | "help" => .error .help
  | _ => .error .usage

/-- Takes an option with its value. -/
def takeOption (d : Draft) (name value : String) : Except Refusal Draft :=
  match name with
  | "config" =>
    if d.config.isSome || value.isEmpty then .error .usage
    else .ok { d with config := some value }
  | "max-steps" =>
    match d.maxSteps, readSteps? value with
    | none, some n => .ok { d with maxSteps := some n }
    | _, _ => .error .usage
  | _ => .error .usage

/-- The arguments, if the image is there. -/
def finish (d : Draft) : Except Refusal Arguments :=
  match d.image with
  | some image =>
    .ok { image, binary := d.binary, trace := d.trace, config := d.config.getD "ulm.ron",
          maxSteps := d.maxSteps }
  | none => .error .usage

end Draft

/-- Whether an option has a value. -/
def hasValue (name : String) : Bool := name == "config" || name == "max-steps"

/-- Whether a text can be a name or a value that stands by itself. -/
def isPlain (text : String) : Bool := !text.startsWith "-" || text == "-"

/-- A text without its two hyphens, cut at the first equals sign. -/
def splitOption (text : String) : String × Option String :=
  let body := text.toList.drop 2
  let value := match body.dropWhile (· != '=') with
    | _ :: value => some (String.ofList value)
    | [] => none
  (String.ofList (body.takeWhile (· != '=')), value)

/-- Reads arguments one after the other. -/
def readArguments (d : Draft) : List String → Except Refusal Draft
  | [] => .ok d
  | "--" :: rest => rest.foldlM Draft.takeImage d
  | text :: rest =>
    if isPlain text then do readArguments (← d.takeImage text) rest
    else if text.startsWith "--" then
      match splitOption text, rest with
      | (name, some value), rest => do readArguments (← d.takeOption name value) rest
      | (name, none), value :: rest =>
        if hasValue name then
          if isPlain value then do readArguments (← d.takeOption name value) rest
          else .error .usage
        else do readArguments (← d.takeSwitch name) (value :: rest)
      | (name, none), [] => d.takeSwitch name
    else if text.startsWith "-h" then .error .help
    else .error .usage
termination_by arguments => arguments.length

/-- Reads the arguments of a call. -/
def parse (arguments : List String) : Except Refusal Arguments := do
  (← readArguments {} arguments).finish

/-- How to call the program. -/
def helpText : String :=
  String.join <| List.map (· ++ "\n")
    [ "Runs a ULM program image on the console",
      "",
      "Usage: ulm [OPTIONS] <IMAGE>",
      "",
      "Arguments:",
      "  <IMAGE>  Program image, hexadecimal words unless --binary is given",
      "",
      "Options:",
      "      --binary                 Read the image as raw big-endian words",
      "      --config <CONFIG>        RON config file [default: ulm.ron]",
      "      --trace                  Log every register, memory and instruction event",
      "      --max-steps <MAX_STEPS>  Stop after this many steps",
      "  -h, --help                   Print help" ]

end CommandLine

end LectureMachine
