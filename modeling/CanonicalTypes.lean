import CanonicalTypes.Binary64.Basic
import CanonicalTypes.Binary64.Layout
import CanonicalTypes.Binary64.Shortest
import CanonicalTypes.Converters.Basic
import CanonicalTypes.Converters.Codec
import CanonicalTypes.Descriptor.Basic
import CanonicalTypes.Descriptor.Codec
import CanonicalTypes.Descriptor.Conformance
import CanonicalTypes.Hash.Sha256
import CanonicalTypes.Json.Basic
import CanonicalTypes.Json.Codec
import CanonicalTypes.Json.Number
import CanonicalTypes.Json.Parser
import CanonicalTypes.Json.Printer
import CanonicalTypes.Ledger.Basic
import CanonicalTypes.Ledger.Codec
import CanonicalTypes.Proofs.Converters.Contents
import CanonicalTypes.Proofs.Converters.Log
import CanonicalTypes.Proofs.Converters.Lookup
import CanonicalTypes.Proofs.Descriptor.Building
import CanonicalTypes.Proofs.Descriptor.Evolution
import CanonicalTypes.Proofs.History
import CanonicalTypes.Proofs.Json.Lossless
import CanonicalTypes.Proofs.Json.Reading
import CanonicalTypes.Proofs.Json.Records
import CanonicalTypes.Proofs.Keyed
import CanonicalTypes.Proofs.Ledger.Conservation
import CanonicalTypes.Proofs.Resolution.Cache
import CanonicalTypes.Proofs.Resolution.CacheHistory
import CanonicalTypes.Proofs.Resolution.Coherence
import CanonicalTypes.Proofs.Resolution.Freshness
import CanonicalTypes.Proofs.Resolution.Independence
import CanonicalTypes.Proofs.Resolution.Invocations
import CanonicalTypes.Proofs.Resolution.Outcomes
import CanonicalTypes.Proofs.Resolution.Replay
import CanonicalTypes.Proofs.Resolution.Stages
import CanonicalTypes.Proofs.Resolution.Transparency
import CanonicalTypes.Proofs.Signature.Deltas
import CanonicalTypes.Proofs.Signature.Meaning
import CanonicalTypes.Proofs.Suite.Isolation
import CanonicalTypes.Proofs.Suite.Records
import CanonicalTypes.Proofs.System.Accounts
import CanonicalTypes.Proofs.System.Aggregation
import CanonicalTypes.Proofs.System.Audit
import CanonicalTypes.Proofs.System.Builtins
import CanonicalTypes.Proofs.System.Commutation
import CanonicalTypes.Proofs.System.Conservativity
import CanonicalTypes.Proofs.System.DepthLimit
import CanonicalTypes.Proofs.System.Effects
import CanonicalTypes.Proofs.System.Evolution
import CanonicalTypes.Proofs.System.Failures
import CanonicalTypes.Proofs.System.Identity
import CanonicalTypes.Proofs.System.Independence
import CanonicalTypes.Proofs.System.Installation
import CanonicalTypes.Proofs.System.Memory
import CanonicalTypes.Proofs.System.Presented
import CanonicalTypes.Proofs.System.Run
import CanonicalTypes.Proofs.System.Slices
import CanonicalTypes.Proofs.System.Traces
import CanonicalTypes.Proofs.System.Transparency
import CanonicalTypes.Proofs.System.WellFormed
import CanonicalTypes.Proofs.Tensor.Blocks
import CanonicalTypes.Proofs.Tensor.Counting
import CanonicalTypes.Proofs.Tensor.Nested
import CanonicalTypes.Proofs.Tensor.Stacking
import CanonicalTypes.Proofs.Text.Digits
import CanonicalTypes.Proofs.Types.Ancestry
import CanonicalTypes.Proofs.Types.Batch
import CanonicalTypes.Proofs.Types.Index
import CanonicalTypes.Proofs.Types.Registration
import CanonicalTypes.Proofs.Types.Surface
import CanonicalTypes.Resolution.Cache
import CanonicalTypes.Resolution.Codec
import CanonicalTypes.Resolution.Config
import CanonicalTypes.Resolution.Engine
import CanonicalTypes.Resolution.Failure
import CanonicalTypes.Resolution.Inspect
import CanonicalTypes.Resolution.Trace
import CanonicalTypes.Scenario.Answer
import CanonicalTypes.Scenario.CacheScript
import CanonicalTypes.Scenario.LedgerScript
import CanonicalTypes.Scenario.Object
import CanonicalTypes.Scenario.Run
import CanonicalTypes.Scenario.Stage
import CanonicalTypes.Scenario.Step
import CanonicalTypes.Signature.Basic
import CanonicalTypes.Signature.Check
import CanonicalTypes.Signature.Codec
import CanonicalTypes.Strategy
import CanonicalTypes.Suite.Case
import CanonicalTypes.Suite.Codec
import CanonicalTypes.Suite.Defaults
import CanonicalTypes.Suite.Fixture
import CanonicalTypes.Suite.Run
import CanonicalTypes.System.Basic
import CanonicalTypes.System.Builtins
import CanonicalTypes.System.Facade
import CanonicalTypes.Tensor.Basic
import CanonicalTypes.Tensor.Codec
import CanonicalTypes.Tensor.DType
import CanonicalTypes.Tensor.Literal
import CanonicalTypes.Tensor.Shape
import CanonicalTypes.Tensor.Stack
import CanonicalTypes.TestLog.Basic
import CanonicalTypes.TestLog.Codec
import CanonicalTypes.TestLog.Knobs
import CanonicalTypes.Text.Blank
import CanonicalTypes.Text.Digits
import CanonicalTypes.Text.Quoted
import CanonicalTypes.Text.Visible
import CanonicalTypes.Types.Ancestry
import CanonicalTypes.Types.Basic
import CanonicalTypes.Types.Evolution
import CanonicalTypes.Types.Fingerprint
import CanonicalTypes.Value.Basic
import CanonicalTypes.Value.Codec
