import MultiTape.CommandLine.Basic
import MultiTape.Main
import MultiTape.Proofs.Program.Layout
import MultiTape.Proofs.Program.Refinement
import MultiTape.Proofs.Program.Safety
import MultiTape.Proofs.Program.Written
import MultiTape.Proofs.Program.Assembly
import MultiTape.Proofs.Program.Faults
import MultiTape.Proofs.Machine.Listing
import MultiTape.Proofs.Machine.Table
import MultiTape.Proofs.Machine.View
import MultiTape.Proofs.Machine.InputTape
import MultiTape.Proofs.Machine.DeadTransitions
import MultiTape.Proofs.Program.Description
import MultiTape.Proofs.Machine.History
import MultiTape.Proofs.Machine.Iteration
import MultiTape.Proofs.Program.Acceptance
import MultiTape.Proofs.Messages
import MultiTape.Proofs.Program.File
import MultiTape.Proofs.Settings
import MultiTape.Proofs.Session.Commands
import MultiTape.Proofs.Session.History
import MultiTape.Proofs.Session.Errors
import MultiTape.Proofs.Samples.Reverse
import MultiTape.Proofs.Samples.Scanning
import MultiTape.Proofs.RunLog
import MultiTape.Proofs.Session.Records
import MultiTape.Proofs.Session.Trace
