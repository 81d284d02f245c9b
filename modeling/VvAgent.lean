import VvAgent.Workspace.Confinement
import VvAgent.Workspace.Listing
import VvAgent.Store.ControllerAgreement
import VvAgent.Store.Terminal
import VvAgent.Store.Answers
import VvAgent.Store.NotificationAgreement
import VvAgent.Workspace.MemoryTree
import VvAgent.Memory.Retention
import VvAgent.Approval.Broker
import VvAgent.Approval.Consumption
import VvAgent.AppServer.OneRun
import VvAgent.Session.Agreement
import VvAgent.Store.QuestionReplay
import VvAgent.Resume.Heartbeat
import VvAgent.SubTasks.Lifecycle
import VvAgent.Store.Closure
import VvAgent.Store.CycleFence
import VvAgent.Checkpoint.Usage
import VvAgent.Budget.Enforcement
import VvAgent.Memory.Sanitizer
import VvAgent.Workspace.CapturedText
import VvAgent.Workspace.Paging
import VvAgent.Memory.Archiving
import VvAgent.AppServer.Fairness
import VvAgent.Workspace.GlobText
import VvAgent.Workspace.Walking
import VvAgent.Tools.Gating
import VvAgent.Tools.Tightening
import VvAgent.Llm.StreamAgreement
import VvAgent.Llm.CacheMarkers
import VvAgent.Checkpoint.Credentials
import VvAgent.Store.Revisions
