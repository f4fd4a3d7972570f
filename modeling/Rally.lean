import Rally.Engine.Basic
import Rally.Engine.Scope
import Rally.Config.Json
import Rally.Config.Validation
import Rally.Config.TaskConfig
import Rally.Config.Reads
import Rally.Config.Builds
import Rally.Config.Shape
import Rally.Config.Accept
import Rally.Config.Key
import Rally.Config.Versions
import Rally.Config.Semantic
import Rally.Engine.TaskEngine
import Rally.Engine.LoadDuration
import Rally.Engine.Chunks
import Rally.Engine.Sla
import Rally.Engine.Delivery
import Rally.Engine.Orchestration
import Rally.Engine.Abort
import Rally.Engine.Termination
import Rally.Engine.Validate
import Rally.Engine.RunnerAbort
import Rally.Engine.Final
