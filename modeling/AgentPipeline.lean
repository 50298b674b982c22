import AgentPipeline.Json.Printer
import AgentPipeline.Failure
import AgentPipeline.Retry
import AgentPipeline.Figures
import AgentPipeline.Model.Catalog
import AgentPipeline.Condition.Basic
import AgentPipeline.Prompt
import AgentPipeline.State.Format
import AgentPipeline.Graph.Compile
import AgentPipeline.Graph.Summary
import AgentPipeline.Run.Worker
import AgentPipeline.Run.Ending
import AgentPipeline.Yaml.Cursor
import AgentPipeline.Yaml.Scalar
import AgentPipeline.Yaml.Token
import AgentPipeline.Yaml.Node
import AgentPipeline.Yaml.Value
import AgentPipeline.Config.Format
import AgentPipeline.Design.Document
import AgentPipeline.Simulation.Backend
import AgentPipeline.Simulation.Engine
import AgentPipeline.Simulation.Script
import AgentPipeline.Http.Dialect
import AgentPipeline.Simulation.Server
import AgentPipeline.Command.Basic
import AgentPipeline.Command.Reading
import AgentPipeline.Command.Outcome
import AgentPipeline.Main
import AgentPipeline.Proofs.Graph.Names
import AgentPipeline.Proofs.Graph.Representation
import AgentPipeline.Proofs.Graph.Routing
import AgentPipeline.Proofs.Run.Stopping
import AgentPipeline.Proofs.Run.Termination
import AgentPipeline.Proofs.Run.Counters
import AgentPipeline.Proofs.Run.Coverage
import AgentPipeline.Proofs.Run.Confluence
import AgentPipeline.Proofs.Run.Simulation
import AgentPipeline.Proofs.Text.Matching
import AgentPipeline.Proofs.Prompt.Screening
import AgentPipeline.Proofs.Run.Accumulation
import AgentPipeline.Proofs.Run.Freezing
import AgentPipeline.Proofs.Run.Steps
import AgentPipeline.Proofs.Run.Sequence
import AgentPipeline.Proofs.Run.Reasons
import AgentPipeline.Proofs.Prompt.Influence
import AgentPipeline.Proofs.Run.Refusal
import AgentPipeline.Proofs.Run.Answer
import AgentPipeline.Proofs.Design.Format
import AgentPipeline.Proofs.Graph.Fallback
import AgentPipeline.Proofs.Model.Hint
import AgentPipeline.Proofs.Run.Attempts
import AgentPipeline.Proofs.Text.Bytes
import AgentPipeline.Proofs.Credentials.Entries
import AgentPipeline.Proofs.Credentials.ByCaller
import AgentPipeline.Proofs.Credentials.Shared
import AgentPipeline.Proofs.Text.Secrecy
import AgentPipeline.Proofs.Run.Secrecy
import AgentPipeline.Proofs.Condition.Grammar
import AgentPipeline.Proofs.Decimal.Unpacking
import AgentPipeline.Proofs.Decimal.Comparison
import AgentPipeline.Proofs.State.Merging
import AgentPipeline.Proofs.Decimal.Numbers
import AgentPipeline.Proofs.Json.Reading
import AgentPipeline.Proofs.Condition.Complement
import AgentPipeline.Proofs.Design.Shape
import AgentPipeline.Proofs.Decimal.Reading
import AgentPipeline.Proofs.Decimal.Shortest
import AgentPipeline.Proofs.Condition.Display
import AgentPipeline.Proofs.Graph.Naming
import AgentPipeline.Proofs.Graph.NamedCycle
import AgentPipeline.Proofs.Run.Backoff
import AgentPipeline.Proofs.Design.Decoding
import AgentPipeline.Proofs.Model.Demand
import AgentPipeline.Proofs.Model.Completion
import AgentPipeline.Proofs.Http.Replies
