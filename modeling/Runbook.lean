import Runbook.Main
import Runbook.Session.Script
import Runbook.Workflow.Encoder
import Runbook.Proofs.Callback.Accepted
import Runbook.Proofs.Callback.Dispatch
import Runbook.Proofs.Callback.Operations
import Runbook.Proofs.Cli.Agreement
import Runbook.Proofs.Condition.Dangling
import Runbook.Proofs.Condition.Numbers
import Runbook.Proofs.Condition.Parts
import Runbook.Proofs.Condition.Unspaced
import Runbook.Proofs.Definition.Returned
import Runbook.Proofs.Loop.KeyOrder
import Runbook.Proofs.Progress.Restored
import Runbook.Proofs.Project.Discovered
import Runbook.Proofs.Run.Attempts
import Runbook.Proofs.Run.Demoted
import Runbook.Proofs.Run.Items
import Runbook.Proofs.Run.Noticed
import Runbook.Proofs.Run.PathNames
import Runbook.Proofs.Run.Range
import Runbook.Proofs.Run.Scoped
import Runbook.Proofs.Run.Termination
import Runbook.Proofs.Run.Unwritten
import Runbook.Proofs.Run.Whilst
import Runbook.Proofs.Session.Closed
import Runbook.Proofs.Session.Idle
import Runbook.Proofs.Session.Left
import Runbook.Proofs.Shared.Bound
import Runbook.Proofs.Shared.LiteralTest
import Runbook.Proofs.Shared.Numerals
import Runbook.Proofs.Shell.CommandLine
import Runbook.Proofs.Template.Inlined
import Runbook.Proofs.Template.Twice
import Runbook.Proofs.Variables.Spelled
import Runbook.Proofs.Workflow.Cache
import Runbook.Proofs.Workflow.Circle
