import HaxePrompt.Main
import HaxePrompt.Proofs.Turn.Course
import HaxePrompt.Proofs.Text.Trim
import HaxePrompt.Proofs.Entry.Recognized
import HaxePrompt.Proofs.Entry.Reading
import HaxePrompt.Proofs.Session.Accepted
import HaxePrompt.Proofs.Session.Compiling
import HaxePrompt.Proofs.Turn.Record
import HaxePrompt.Proofs.Session.Residue
import HaxePrompt.Proofs.Text.Split
import HaxePrompt.Proofs.Assembly.Layout
import HaxePrompt.Proofs.Assembly.Delta
import HaxePrompt.Proofs.Assembly.LineCompiler
import HaxePrompt.Proofs.Session.Isolation
import HaxePrompt.Proofs.Entry.Delimiters
import HaxePrompt.Proofs.Entry.Script
import HaxePrompt.Proofs.Machine.FileTree
import HaxePrompt.Proofs.Session.Replay
import HaxePrompt.Proofs.Shell.Reload
import HaxePrompt.Proofs.Entry.Termination
import HaxePrompt.Proofs.Machine.Written
import HaxePrompt.Proofs.Tool.Artifact
import HaxePrompt.Proofs.Text.Ascii
import HaxePrompt.Proofs.Text.Lossy
import HaxePrompt.Proofs.Tool.Json
import HaxePrompt.Proofs.Tool.Payload
import HaxePrompt.Proofs.Tool.Demultiplex
import HaxePrompt.Proofs.Tool.Forwarding
import HaxePrompt.Proofs.Tool.Parties
import HaxePrompt.Proofs.Tool.InStep
import HaxePrompt.Proofs.Entry.Segments
import HaxePrompt.Proofs.Entry.Division
import HaxePrompt.Proofs.Turn.Checks
import HaxePrompt.Proofs.Session.Phases
import HaxePrompt.Proofs.Session.Warnings
import HaxePrompt.Proofs.Tool.Unchecked
import HaxePrompt.Proofs.Shell.Typing
import HaxePrompt.Proofs.Message.Position
import HaxePrompt.Proofs.Message.Rendering
import HaxePrompt.Proofs.Text.Strict
import HaxePrompt.Proofs.Shell.Stopping
import HaxePrompt.Proofs.Assembly.Sections
import HaxePrompt.Proofs.Entry.Grammar
import HaxePrompt.Proofs.Turn.Failure
import HaxePrompt.Proofs.Machine.Dealings
import HaxePrompt.Proofs.Tool.Visits
import HaxePrompt.Proofs.Tool.Holding
import HaxePrompt.Proofs.Tool.Lifetime
import HaxePrompt.Proofs.Shell.Inputs
import HaxePrompt.Proofs.Shell.Pending
import HaxePrompt.Proofs.Tool.Fragment
import HaxePrompt.Proofs.Tool.Intake
