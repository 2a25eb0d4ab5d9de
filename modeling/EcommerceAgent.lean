import EcommerceAgent.Database.Answering
import EcommerceAgent.Database.Publication
import EcommerceAgent.Database.ReadGate
import EcommerceAgent.Database.Sandbox
import EcommerceAgent.Database.SandboxOutcome
import EcommerceAgent.Database.ScopeFilter
import EcommerceAgent.Database.TimeRange
import EcommerceAgent.Database.Workflow
import EcommerceAgent.Database.WriteGate
import EcommerceAgent.Evaluation.Gate
import EcommerceAgent.Files.Resolve
import EcommerceAgent.Files.Sessions
import EcommerceAgent.Gateway.Authorization
import EcommerceAgent.Gateway.Bindings
import EcommerceAgent.Gateway.Identity
import EcommerceAgent.Gateway.Login
import EcommerceAgent.Gateway.Membership
import EcommerceAgent.Imports.Columns
import EcommerceAgent.Imports.Conservation
import EcommerceAgent.Imports.Formats
import EcommerceAgent.Imports.Isolation
import EcommerceAgent.Imports.Jobs
import EcommerceAgent.Imports.Refresh
import EcommerceAgent.Imports.Retry
import EcommerceAgent.Lib.Csv
import EcommerceAgent.Lib.Runs
import EcommerceAgent.Lib.StateGraph
import EcommerceAgent.Lib.Table
import EcommerceAgent.Lib.Text
import EcommerceAgent.Planning.Execution
import EcommerceAgent.Planning.Queue
import EcommerceAgent.Planning.RuleBased
import EcommerceAgent.Planning.WellFormed
import EcommerceAgent.Runtime.AgentJob
import EcommerceAgent.Runtime.Approval
import EcommerceAgent.Runtime.Cancellation
import EcommerceAgent.Runtime.Checkpoint
import EcommerceAgent.Runtime.Connections
import EcommerceAgent.Runtime.Exclusive
import EcommerceAgent.Runtime.Finalization
import EcommerceAgent.Runtime.Intake
import EcommerceAgent.Runtime.Listing
import EcommerceAgent.Runtime.PendingWrites
import EcommerceAgent.Runtime.PlatformSchema
import EcommerceAgent.Runtime.RuntimeGuard
import EcommerceAgent.Runtime.Status
import EcommerceAgent.Runtime.TaskQueue
import EcommerceAgent.Runtime.Waiters
import EcommerceAgent.Runtime.QueueWorker
import EcommerceAgent.Gateway.StaticUserStore
import EcommerceAgent.Database.ToolGuard
import EcommerceAgent.Runtime.TraceTail
import EcommerceAgent.Planning.Normalised
import EcommerceAgent.Lib.FileTree
import EcommerceAgent.Sandbox.RelativePath
import EcommerceAgent.Sandbox.HostFile
import EcommerceAgent.Lib.FileTreeChange
import EcommerceAgent.Sandbox.Workspace
import EcommerceAgent.Sandbox.Isolation
import EcommerceAgent.Sandbox.Program
import EcommerceAgent.Evaluation.Stage
import EcommerceAgent.Queries.Shops
import EcommerceAgent.Gateway.DisplayText
import EcommerceAgent.Queries.Products
import EcommerceAgent.Planning.OneProfile
import EcommerceAgent.Runtime.ToolPolicy
import EcommerceAgent.Runtime.PolicyReview
import EcommerceAgent.Runtime.Submission
import EcommerceAgent.Database.TimeWindow
import EcommerceAgent.Runtime.ChatHistory
import EcommerceAgent.Sandbox.Network
import EcommerceAgent.Database.Metrics
import EcommerceAgent.Runtime.AgentRun
import EcommerceAgent.Database.ResultText
import EcommerceAgent.Gateway.Router
import EcommerceAgent.Runtime.ChatEvents
