import AirflowDeploy.Build.OutputTail
import AirflowDeploy.Build.Process
import AirflowDeploy.Check.Outcome
import AirflowDeploy.Check.Script
import AirflowDeploy.Check.Setup
import AirflowDeploy.Command.Failure
import AirflowDeploy.Command.Invocation
import AirflowDeploy.Command.Listing
import AirflowDeploy.Command.Login
import AirflowDeploy.Command.Run
import AirflowDeploy.Command.Session
import AirflowDeploy.Command.Usage
import AirflowDeploy.Config.Context
import AirflowDeploy.Config.Document
import AirflowDeploy.Config.Error
import AirflowDeploy.Config.Global
import AirflowDeploy.Config.Project
import AirflowDeploy.Config.Storage
import AirflowDeploy.Daemon.Error
import AirflowDeploy.Daemon.LogFrame
import AirflowDeploy.Daemon.Message
import AirflowDeploy.Daemon.Progress
import AirflowDeploy.Daemon.ValueStream
import AirflowDeploy.Deploy.CheckStage
import AirflowDeploy.Deploy.Deployer
import AirflowDeploy.Deploy.Error
import AirflowDeploy.Deploy.ImageStage
import AirflowDeploy.Deploy.Mode
import AirflowDeploy.Deploy.Options
import AirflowDeploy.Deploy.Outside
import AirflowDeploy.Deploy.Pipeline
import AirflowDeploy.Deploy.Report
import AirflowDeploy.Deploy.RuntimeVersion
import AirflowDeploy.Deploy.Selection
import AirflowDeploy.Deploy.State
import AirflowDeploy.Dialogue
import AirflowDeploy.Dockerfile.Basic
import AirflowDeploy.Dockerfile.Parser
import AirflowDeploy.Dockerfile.Stage
import AirflowDeploy.Engine.Basic
import AirflowDeploy.Engine.Check
import AirflowDeploy.Engine.Image
import AirflowDeploy.EnvFile.Assignment
import AirflowDeploy.EnvFile.LogicalLine
import AirflowDeploy.Fault
import AirflowDeploy.Files.Fault
import AirflowDeploy.Files.Path
import AirflowDeploy.Files.Tree
import AirflowDeploy.Http.Charset
import AirflowDeploy.Http.Message
import AirflowDeploy.Http.Reason
import AirflowDeploy.Image.BuildContext
import AirflowDeploy.Image.Reference
import AirflowDeploy.Image.RegistryAuth
import AirflowDeploy.Json.Basic
import AirflowDeploy.Json.Fields
import AirflowDeploy.Json.Printer
import AirflowDeploy.Json.Reader
import AirflowDeploy.Kdl.Basic
import AirflowDeploy.Kdl.Printer
import AirflowDeploy.Kdl.Reader
import AirflowDeploy.Kdl.Text
import AirflowDeploy.Machine
import AirflowDeploy.Main
import AirflowDeploy.Platform.Client
import AirflowDeploy.Platform.ClientError
import AirflowDeploy.Platform.Record
import AirflowDeploy.Proofs.Build.Diagnostics
import AirflowDeploy.Proofs.Build.SharedTail
import AirflowDeploy.Proofs.Build.Tail
import AirflowDeploy.Proofs.Check.ShellWords
import AirflowDeploy.Proofs.Check.Status
import AirflowDeploy.Proofs.Command.Authentication
import AirflowDeploy.Proofs.Command.LoginHistory
import AirflowDeploy.Proofs.Command.LoginRun
import AirflowDeploy.Proofs.Command.TestRun
import AirflowDeploy.Proofs.Command.WorkspaceChoice
import AirflowDeploy.Proofs.Config.Acceptance
import AirflowDeploy.Proofs.Config.Contexts
import AirflowDeploy.Proofs.Config.RoundTrip
import AirflowDeploy.Proofs.Deploy.Action
import AirflowDeploy.Proofs.Deploy.BuildVersion
import AirflowDeploy.Proofs.Deploy.CallOrder
import AirflowDeploy.Proofs.Deploy.Calls
import AirflowDeploy.Proofs.Deploy.CheckGate
import AirflowDeploy.Proofs.Deploy.CheckedVersion
import AirflowDeploy.Proofs.Deploy.Console
import AirflowDeploy.Proofs.Deploy.DomainAddresses
import AirflowDeploy.Proofs.Deploy.Faults
import AirflowDeploy.Proofs.Deploy.OldRuntimes
import AirflowDeploy.Proofs.Deploy.Organization
import AirflowDeploy.Proofs.Deploy.Prompt
import AirflowDeploy.Proofs.Deploy.PushedLabel
import AirflowDeploy.Proofs.Deploy.Registration
import AirflowDeploy.Proofs.Deploy.Rejection
import AirflowDeploy.Proofs.Deploy.ReleaseNotice
import AirflowDeploy.Proofs.Deploy.Selection
import AirflowDeploy.Proofs.Deploy.Stages
import AirflowDeploy.Proofs.Deploy.StatePath
import AirflowDeploy.Proofs.Deploy.TargetChoice
import AirflowDeploy.Proofs.Deploy.TestVerdict
import AirflowDeploy.Proofs.Deploy.Topics
import AirflowDeploy.Proofs.Dialogue.Asks
import AirflowDeploy.Proofs.Dialogue.Behaviour
import AirflowDeploy.Proofs.Dialogue.Failing
import AirflowDeploy.Proofs.Dialogue.Runs
import AirflowDeploy.Proofs.Dialogue.Through
import AirflowDeploy.Proofs.Dockerfile.BaseImage
import AirflowDeploy.Proofs.Dockerfile.Defaults
import AirflowDeploy.Proofs.Dockerfile.InsertedLines
import AirflowDeploy.Proofs.Dockerfile.Layout
import AirflowDeploy.Proofs.Dockerfile.Shape
import AirflowDeploy.Proofs.Dockerfile.Statements
import AirflowDeploy.Proofs.Dockerfile.Variables
import AirflowDeploy.Proofs.Engine.BuildPlace
import AirflowDeploy.Proofs.Engine.CheckRemoval
import AirflowDeploy.Proofs.Engine.CheckRun
import AirflowDeploy.Proofs.Engine.LogFrames
import AirflowDeploy.Proofs.Engine.Streams
import AirflowDeploy.Proofs.Engine.Upload
import AirflowDeploy.Proofs.Files.Places
import AirflowDeploy.Proofs.Image.References
import AirflowDeploy.Proofs.Json.Grammar
import AirflowDeploy.Proofs.Json.Reading
import AirflowDeploy.Proofs.Json.Records
import AirflowDeploy.Proofs.Kdl.Documents
import AirflowDeploy.Proofs.Kdl.Entries
import AirflowDeploy.Proofs.Kdl.Strings
import AirflowDeploy.Proofs.Machine.Runs
import AirflowDeploy.Proofs.Platform.Addresses
import AirflowDeploy.Proofs.Platform.Records
import AirflowDeploy.Proofs.Table.Alignment
import AirflowDeploy.Proofs.Table.Columns
import AirflowDeploy.Proofs.Text.Cut
import AirflowDeploy.Proofs.Text.Input
import AirflowDeploy.Proofs.Text.Lines
import AirflowDeploy.Proofs.Text.Numerals
import AirflowDeploy.Proofs.Text.Units
import AirflowDeploy.Proofs.Text.Utf8
import AirflowDeploy.Proofs.Time.Calendar
import AirflowDeploy.Proofs.Time.Instants
import AirflowDeploy.Proofs.Url.Roots
import AirflowDeploy.Proofs.Url.Segments
import AirflowDeploy.Proofs.Version.Chains
import AirflowDeploy.Proofs.Version.Grammar
import AirflowDeploy.Proofs.Version.Newest
import AirflowDeploy.Proofs.Version.Order
import AirflowDeploy.Proofs.Version.Precedence
import AirflowDeploy.RunId
import AirflowDeploy.Table
import AirflowDeploy.Text.Alphanumeric
import AirflowDeploy.Text.Ascii
import AirflowDeploy.Text.Blank
import AirflowDeploy.Text.Case
import AirflowDeploy.Text.CaseTable
import AirflowDeploy.Text.Cut
import AirflowDeploy.Text.Lines
import AirflowDeploy.Text.Numeral
import AirflowDeploy.Text.Punycode
import AirflowDeploy.Text.Utf8
import AirflowDeploy.Time.Calendar
import AirflowDeploy.Time.Instant
import AirflowDeploy.Url.Basic
import AirflowDeploy.Url.Host
import AirflowDeploy.Url.Parser
import AirflowDeploy.Version.Basic
import AirflowDeploy.Version.Order
import AirflowDeploy.Version.Upgrade
