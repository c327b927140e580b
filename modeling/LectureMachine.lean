import LectureMachine.Machine.Summary
import LectureMachine.Device.Buffered
import LectureMachine.Main
import LectureMachine.Proofs.Memory.Bytes
import LectureMachine.Proofs.Memory.Flat
import LectureMachine.Proofs.Instruction.Shape
import LectureMachine.Proofs.Machine.Step
import LectureMachine.Proofs.Machine.Fault
import LectureMachine.Proofs.Instruction.Jump
import LectureMachine.Proofs.Machine.Blocking
import LectureMachine.Proofs.Machine.Feeding
import LectureMachine.Proofs.Machine.Schedule
import LectureMachine.Proofs.Alu.Arithmetic
import LectureMachine.Proofs.Alu.Results
import LectureMachine.Proofs.Instruction.Change
import LectureMachine.Proofs.Instruction.Aliasing
import LectureMachine.Proofs.Instruction.Frame
import LectureMachine.Proofs.Machine.Flaw
import LectureMachine.Proofs.Machine.Comparison
import LectureMachine.Proofs.Alu.ZeroRegister
import LectureMachine.Proofs.Machine.ZeroRegister
import LectureMachine.Proofs.Machine.Limit
import LectureMachine.Proofs.Text.Utf8
import LectureMachine.Proofs.Device.Delivery
import LectureMachine.Proofs.Text.Runs
import LectureMachine.Proofs.Image.Tokens
import LectureMachine.Proofs.Image.Numerals
import LectureMachine.Proofs.Image.Grammar
import LectureMachine.Proofs.Image.Binary
import LectureMachine.Proofs.Machine.Progress
import LectureMachine.Proofs.Machine.Printer
import LectureMachine.Proofs.Machine.Calls
import LectureMachine.Proofs.Machine.Reset
import LectureMachine.Proofs.Machine.Onlookers
import LectureMachine.Proofs.Instruction.Log
import LectureMachine.Proofs.Machine.Log
import LectureMachine.Proofs.Instruction.Text
import LectureMachine.Proofs.Machine.Preview
import LectureMachine.Proofs.Machine.Operation
import LectureMachine.Proofs.Machine.ControlFlow
import LectureMachine.Proofs.Machine.Halting
import LectureMachine.Proofs.Image.Spelling
import LectureMachine.Proofs.Image.Formats
import LectureMachine.Proofs.Instruction.Decoding
import LectureMachine.Proofs.Instruction.Operands
import LectureMachine.Proofs.Instruction.Disassembly
import LectureMachine.Proofs.Alu.Division
import LectureMachine.Proofs.Alu.Sums
import LectureMachine.Proofs.Alu.Shifts
import LectureMachine.Proofs.Alu.Products
import LectureMachine.Proofs.Instruction.Bus
import LectureMachine.Proofs.Machine.DeviceProtocol
import LectureMachine.Proofs.CommandLine.Performance
import LectureMachine.Proofs.Instruction.WideConstants
import LectureMachine.Proofs.Machine.Pages
import LectureMachine.Proofs.Image.Concatenation
import LectureMachine.Proofs.Trace.Accesses
import LectureMachine.Proofs.Device.Interaction
import LectureMachine.Proofs.Machine.Audience
import LectureMachine.Proofs.Ron.Quoted
import LectureMachine.Proofs.Ron.Space
import LectureMachine.Proofs.Ron.Name
import LectureMachine.Proofs.Ron.Number
import LectureMachine.Proofs.Ron.Value
import LectureMachine.Proofs.Ron.Document
import LectureMachine.Proofs.Config.RoundTrip
