import StackMachine.Instruction
import StackMachine.Status
import StackMachine.Text.Display
import StackMachine.Bytes.LittleEndian
import StackMachine.Digest.Text
import StackMachine.Image.Validation
import StackMachine.Core.Run
import StackMachine.Decimal.FloatText
import StackMachine.Reading.Reader
import StackMachine.Reading.Mismatch
import StackMachine.Json.Lexis
import StackMachine.Json.Reading
import StackMachine.Json.Writing
import StackMachine.Toml.Document
import StackMachine.Command.Settings
import StackMachine.Machine.Backend
import StackMachine.Action
import StackMachine.Files.Basic
import StackMachine.Log.Filter
import StackMachine.Command.Arguments
import StackMachine.Machine.Loader
import StackMachine.Command.Program
import StackMachine.Machine.Fleet
import StackMachine.Files.Change
import StackMachine.Main
import StackMachine.Proofs.Bytes.Reading
import StackMachine.Proofs.Image.Codec
import StackMachine.Proofs.Core.Run
import StackMachine.Proofs.Core.Step
import StackMachine.Proofs.Image.Validation
import StackMachine.Proofs.Machine.Acceptance
import StackMachine.Proofs.Files.Writing
import StackMachine.Proofs.Machine.Attempt
import StackMachine.Proofs.Image.File
import StackMachine.Proofs.Machine.Reference
import StackMachine.Proofs.Machine.Native
import StackMachine.Proofs.Machine.Instrumented
import StackMachine.Proofs.Machine.Reply
import StackMachine.Proofs.Machine.History
import StackMachine.Proofs.Machine.Loading
import StackMachine.Proofs.Machine.Agreement
import StackMachine.Proofs.Machine.Lockstep
import StackMachine.Proofs.Machine.Storing
import StackMachine.Proofs.Bytes.SelfDelimiting
import StackMachine.Proofs.Core.Commitment
import StackMachine.Proofs.Machine.Account
import StackMachine.Proofs.Machine.Reads
import StackMachine.Proofs.Machine.Snapshot
import StackMachine.Proofs.Core.Containment
import StackMachine.Proofs.Core.Diagnostics
import StackMachine.Proofs.Counting
import StackMachine.Proofs.Machine.Dispatch
import StackMachine.Proofs.Machine.Clients
import StackMachine.Proofs.Machine.WarnMode
import StackMachine.Proofs.Machine.Replacement
import StackMachine.Proofs.Machine.Reporting
import StackMachine.Proofs.Command.Procedure
import StackMachine.Proofs.Command.Frame
import StackMachine.Proofs.Machine.Career
import StackMachine.Proofs.Machine.Warnings
import StackMachine.Proofs.Core.Stopping
import StackMachine.Proofs.Core.Gas
import StackMachine.Proofs.Image.Rejection
import StackMachine.Proofs.Image.Verdict
import StackMachine.Proofs.Core.Frame
import StackMachine.Proofs.Core.LoopFree
import StackMachine.Proofs.Machine.Selection
import StackMachine.Proofs.Digest.Text
import StackMachine.Proofs.Json.RoundTrip
import StackMachine.Proofs.Registries.Counts
