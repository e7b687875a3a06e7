import CloudCollector.Http.Service
import CloudCollector.Main
import CloudCollector.Scheduler.Basic
import CloudCollector.Proofs.Queue.Retirement
import CloudCollector.Proofs.Queue.Consolidation
import CloudCollector.Proofs.Queue.Deletion
import CloudCollector.Proofs.Queue.DependencyOrder
import CloudCollector.Proofs.Queue.Refusal
import CloudCollector.Proofs.Queue.Coalescing
import CloudCollector.Proofs.Queue.Timing
import CloudCollector.Proofs.Queue.Blacklist
import CloudCollector.Proofs.Queue.ForwardReferences
import CloudCollector.Proofs.Queue.Conservation
import CloudCollector.Proofs.Queue.Isolation
import CloudCollector.Proofs.Discovery.Emission
import CloudCollector.Proofs.Pipeline.Drain
import CloudCollector.Proofs.Pipeline.Run
import CloudCollector.Proofs.Pipeline.Isolation
import CloudCollector.Proofs.Pipeline.Consistency
import CloudCollector.Proofs.Pipeline.Discovery
import CloudCollector.Proofs.Pipeline.Interleaving
import CloudCollector.Proofs.Pipeline.Refusal
import CloudCollector.Proofs.Pipeline.GaugeLag
import CloudCollector.Proofs.Pipeline.Resolution
import CloudCollector.Proofs.Http.Ingestion
import CloudCollector.Proofs.Delivery.Independence
import CloudCollector.Proofs.Delivery.Shutdown
import CloudCollector.Proofs.Scheduler.Stopping
import CloudCollector.Proofs.Codec.RoundTrip
import CloudCollector.Proofs.Queue.Settling
import CloudCollector.Proofs.Queue.Companions
import CloudCollector.Proofs.Discovery.Parents
import CloudCollector.Proofs.Pipeline.Interpretation
import CloudCollector.Proofs.Registry
import CloudCollector.Proofs.Delivery.Startup
import CloudCollector.Proofs.Time.Calendar
import CloudCollector.Proofs.Time.Timestamp
