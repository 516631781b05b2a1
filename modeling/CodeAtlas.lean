import CodeAtlas.Artifact.Reader
import CodeAtlas.Config.Files
import CodeAtlas.Json.Forms
import CodeAtlas.Json.Printer
import CodeAtlas.LineIndex
import CodeAtlas.Logging.Setup
import CodeAtlas.Session
import CodeAtlas.Proofs.Caches
import CodeAtlas.Proofs.Resolver
import CodeAtlas.Proofs.Workload
import CodeAtlas.Proofs.Workload.FirstWriter
import CodeAtlas.Proofs.Workload.History
import CodeAtlas.Proofs.Workload.Moves
import CodeAtlas.Proofs.Workload.Transparency
import CodeAtlas.Proofs.Artifact
import CodeAtlas.Proofs.Bytecode
import CodeAtlas.Proofs.Instruction
import CodeAtlas.Proofs.Policy
import CodeAtlas.Proofs.Indexing
import CodeAtlas.Proofs.Metered
import CodeAtlas.Proofs.TraceStep
import CodeAtlas.Proofs.Workload.Schedule
import CodeAtlas.Proofs.Numeral
import CodeAtlas.Proofs.SourceMap
import CodeAtlas.Proofs.SourceMap.Inheritance
import CodeAtlas.Proofs.SourceMap.RoundTrip
import CodeAtlas.Proofs.Policy.Slices
import CodeAtlas.Proofs.Policy.Tolerance
import CodeAtlas.Proofs.Artifact.Eligibility
import CodeAtlas.Proofs.Workload.Failure
import CodeAtlas.Proofs.Sequence
import CodeAtlas.Proofs.Workload.Fetches
import CodeAtlas.Proofs.Workload.Creation
import CodeAtlas.Proofs.Workload.Recorded
import CodeAtlas.Proofs.Bytecode.Blocks
import CodeAtlas.Proofs.Bytecode.Linking
import CodeAtlas.Proofs.LineIndex
import CodeAtlas.Proofs.LineIndex.Channel
import CodeAtlas.Proofs.LineIndex.Listener
import CodeAtlas.Proofs.Bytecode.Layout
import CodeAtlas.Proofs.ByteOrder
import CodeAtlas.Proofs.Artifact.FirstMatch
import CodeAtlas.Proofs.Policy.Order
import CodeAtlas.Proofs.SourceMap.Covering
import CodeAtlas.Proofs.SourceMap.Faults
import CodeAtlas.Proofs.SourceMap.Segments
import CodeAtlas.Proofs.Policy.Builds
import CodeAtlas.Proofs.Policy.Slots
import CodeAtlas.Proofs.Position
import CodeAtlas.Proofs.Instruction.Concatenation
import CodeAtlas.Proofs.Trace.Answers
import CodeAtlas.Proofs.Bytecode.Metadata
import CodeAtlas.Proofs.Position.Concatenation
import CodeAtlas.Proofs.Blank
import CodeAtlas.Proofs.Address
import CodeAtlas.Proofs.Workload.Clearing
