import Workspace.Cli.Report
import Workspace.Main
import Workspace.Script
import Workspace.Session
import Workspace.Proofs.Exchange
import Workspace.Proofs.Walk.Course
import Workspace.Proofs.Walk.Flattening
import Workspace.Proofs.Walk.Bound
import Workspace.Proofs.Walk.Acceptance
import Workspace.Proofs.Walk.Abort
import Workspace.Proofs.Walk.Subtree
import Workspace.Proofs.Effect
import Workspace.Proofs.Http.Form
import Workspace.Proofs.Http.Inquiry
import Workspace.Proofs.Http.Submission
import Workspace.Proofs.Lockstep
import Workspace.Proofs.Frame
import Workspace.Proofs.Json.Reading
import Workspace.Proofs.Json.Printing
import Workspace.Proofs.Building
import Workspace.Proofs.Session.Turn
import Workspace.Proofs.Cli.Choices
import Workspace.Proofs.Cli.Run
import Workspace.Proofs.Cli.Transfer
import Workspace.Proofs.Json.Legibility
import Workspace.Proofs.Operations
import Workspace.Proofs.Cli.Outcome
import Workspace.Proofs.Session.Shared
import Workspace.Proofs.Session.Credentials
import Workspace.Proofs.Cli.Secrecy
import Workspace.Proofs.Session.Lock
import Workspace.Proofs.Session.NoTrace
import Workspace.Proofs.Session.Closing
import Workspace.Proofs.Cli.Verbosity
import Workspace.Proofs.Object.Status
import Workspace.Proofs.Cli.Files
import Workspace.Proofs.Heeding
import Workspace.Proofs.Cli.Escape
import Workspace.Proofs.Json.Faithful
import Workspace.Proofs.Cli.Printout
import Workspace.Proofs.Http.Attempt
import Workspace.Proofs.Http.Classification
import Workspace.Proofs.Cli.Unmasked
import Workspace.Proofs.Trail
import Workspace.Proofs.Object.Content
import Workspace.Proofs.Object.Entry
import Workspace.Proofs.Listing
import Workspace.Proofs.Host
import Workspace.Proofs.Text.Quoted
import Workspace.Proofs.Log.Calls
import Workspace.Proofs.Endpoint
import Workspace.Proofs.Log.Usage
import Workspace.Proofs.Cli.Arrangement
