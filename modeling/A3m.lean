import A3m.Server.Basic
import A3m.Server.Queues.State
import A3m.Server.Queues.Methods
import A3m.Server.Queues.Calls
import A3m.Server.Queues.Threads
import A3m.Server.Queues.Solo
import A3m.Server.Queues.Tokens
import A3m.Server.Queues.Races
import A3m.Server.Queues.Atomic
import A3m.Server.Queues.Gauges
import A3m.Server.Queues.Shutdown
import A3m.Server.Queues.Stall
import A3m.Server.Queues.Priority
import A3m.Server.Packages
import A3m.Python.Builtins
import A3m.Python.Os
import A3m.Python.Walk
import A3m.Main.Models
import A3m.Server.PackageFiles
import A3m.Server.PackageContext
import A3m.Main.Tables
import A3m.Server.PackageDb
import A3m.Server.PackageRuns
import A3m.Client.Normalize
import A3m.Client.OnceNormalized
import A3m.Client.NormalizeMain
import A3m.Python.Json
import A3m.Assets.WorkflowChecker
import A3m.Client.Metrics
import A3m.Python.Re
import A3m.Main.Jobs
import A3m.Server.Replacements
