import FaultWitness.PostgresStream
import FaultWitness.Reported
import FaultWitness.Approvals
import FaultWitness.StoreRefinement
import FaultWitness.Checkpoints
import FaultWitness.BufferAgreement
import FaultWitness.MemoryRetention
import FaultWitness.MemoryGuarantees
import FaultWitness.IdentityPolicies
import FaultWitness.IsolationManifest
import FaultWitness.PoisonedPayloads
import FaultWitness.ClaimFairness
import FaultWitness.RelayEndpoints
import FaultWitness.ProbeTraces
import FaultWitness.Allowlisting
import FaultWitness.SealedCheckpoints
import FaultWitness.FaultOperations
import FaultWitness.FailedMetrics
import FaultWitness.SemanticInvalidation
import FaultWitness.RequestDigests
import FaultWitness.SanitizerRefusals
import FaultWitness.ReadinessRuns
import FaultWitness.ReadinessResumes
import FaultWitness.Provisioning
import FaultWitness.GatewayFailures
import FaultWitness.TraceIdentities
import FaultWitness.SpanTrees
import FaultWitness.TraceReorderings
import FaultWitness.WallTime
import FaultWitness.PoisonedStreams
import FaultWitness.RequiredPredicates
import FaultWitness.MachineValidation
import FaultWitness.PrivateReasoning
import FaultWitness.OidcRefreshes
import FaultWitness.CompilerExceptions
import FaultWitness.ChunkedScans
import FaultWitness.TrialRecords
import FaultWitness.FaultSamples
import FaultWitness.CascadeProbes
import FaultWitness.ResultScores
import FaultWitness.PayloadSecrets
import FaultWitness.PairedBootstraps
import FaultWitness.PresenceProbes
import FaultWitness.ContentDigests
import FaultWitness.SecretMigrations
