import LectureMachine.Config
import LectureMachine.Ron.Reader

/-!
# Configurations in RON

A configuration is written as a structure with a field for each setting. When it is read, a setting
that is left out has its default, and fields of other names do not count.
-/

namespace LectureMachine

open Ron

/-! ### Writing -/

/-- Named parts in parentheses, one in a line; the structure itself is indented by `depth` steps. -/
def layOut (depth : Nat) (fields : List (String × List Char)) : List Char :=
  let line := fun ((name, value) : String × List Char) =>
    List.replicate (4 * (depth + 1)) ' ' ++ name.toList ++ ": ".toList ++ value ++ ",\n".toList
  "(\n".toList ++ fields.flatMap line ++ List.replicate (4 * depth) ' ' ++ [')']

/-- A truth value as it is written. -/
def writeBool (b : Bool) : List Char := (if b then "true" else "false").toList

/-- A number as it is written. -/
def writeNat (n : Nat) : List Char := Nat.toDigits 10 n

/-- An optional number as it is written. -/
def writeOptional : Option Word → List Char
  | none => "None".toList
  | some n => "Some(".toList ++ writeNat n.toNat ++ [')']

/-- The trace settings as they are written. -/
def TraceConfig.write (depth : Nat) (c : TraceConfig) : List Char :=
  layOut depth
    [ ("registers", writeBool c.registers), ("memory", writeBool c.memory),
      ("instructions", writeBool c.instructions) ]

/-- A configuration as it is written. -/
def Config.write (c : Config) : List Char :=
  layOut 0
    [ ("trace", c.trace.write 1), ("max_steps", writeOptional c.maxSteps),
      ("log_filter", quote c.logFilter.toList) ]

/-- The text of a configuration. -/
def Config.toRon (c : Config) : String := String.ofList c.write

/-! ### Reading -/

namespace Ron

/-- The truth value that a value is. -/
def Value.bool? : Value → Option Bool
  | .bool b => some b
  | _ => none

/-- The word that a value is. -/
def Value.word? : Value → Option Word
  | .integer type n =>
    if type.all (· == IntegerType.word) ∧ 0 ≤ n ∧ n ≤ IntegerType.word.greatest then
      some (BitVec.ofInt 64 n)
    else none
  | _ => none

/-- The optional word that a value is. -/
def Value.optionalWord? (e : Extensions) : Value → Option (Option Word)
  | .absent => some none
  | .present v => v.word?.map some
  | v => if e.implicitSome then v.word?.map some else none

/-- The text that a value is. -/
def Value.string? : Value → Option String
  | .text cs => some (String.ofList cs)
  | _ => none

/-- Whether a structure may bear a name. -/
def Extensions.admits (e : Extensions) (expected : String) : Option Name → Bool
  | none => !e.explicitStructNames
  | some name => name.text == expected.toList

/-- The fields of a structure that has the given name, or none. -/
def Value.fields? (e : Extensions) (expected : String) : Value → Option (List (Name × Value))
  | .record own fields => if e.admits expected own then some fields else none
  | .tuple own [] => if e.admits expected own then some [] else none
  | _ => none

/-- The values of the fields with the given name. -/
def valuesOf (field : String) (fields : List (Name × Value)) : List Value :=
  fields.filterMap fun (name, v) => if name.text = field.toList then some v else none

/-- The setting of a field: the default if it is left out, and nothing if it is there twice or is no
setting. -/
def setting {α : Type} (field : String) (read : Value → Option α) (default : α)
    (fields : List (Name × Value)) : Option α :=
  match valuesOf field fields with
  | [] => some default
  | [v] => read v
  | _ => none

end Ron

/-- The trace settings that a value is. -/
def TraceConfig.ofValue? (e : Extensions) (v : Value) : Option TraceConfig := do
  let fields ← v.fields? e "TraceConfig"
  return {
    registers := ← setting "registers" Value.bool? false fields
    memory := ← setting "memory" Value.bool? false fields
    instructions := ← setting "instructions" Value.bool? false fields }

/-- The configuration that a value is. -/
def Config.ofValue? (e : Extensions) (v : Value) : Option Config := do
  let fields ← v.fields? e "Config"
  return {
    trace := ← setting "trace" (TraceConfig.ofValue? e) {} fields
    maxSteps := ← setting "max_steps" (Value.optionalWord? e) none fields
    logFilter := ← setting "log_filter" Value.string? "warn" fields }

/-- Reads the text of a configuration. -/
def Config.ofRon? (source : String) : Option Config := do
  let document ← readDocument source.toList
  Config.ofValue? document.extensions document.value

end LectureMachine
