import StoreGraph.Index.Unique
import StoreGraph.Proofs.Dedup.Alignment
import StoreGraph.Proofs.Heeding
import StoreGraph.Proofs.Memory.Namespaces
import StoreGraph.Proofs.Memory.Snapshot
import StoreGraph.Proofs.Nest
import StoreGraph.Proofs.Redundant.Acknowledged
import StoreGraph.Proofs.Redundant.Quorum
import StoreGraph.Proofs.Redundant.Remembered
import StoreGraph.Proofs.Graph.Delivery
import StoreGraph.Proofs.Index.Relation
import StoreGraph.Proofs.Queue.Front
import StoreGraph.Proofs.Queue.Recent
import StoreGraph.Proofs.Queue.Recovery
import StoreGraph.Proofs.Queue.Session
import StoreGraph.Proofs.Queue.Size
import StoreGraph.Proofs.Queue.Walking
import StoreGraph.Proofs.Shards.Absence
import StoreGraph.Proofs.Shards.Isolation
import StoreGraph.Proofs.Shards.Lazy
import StoreGraph.Proofs.Shards.Map
import StoreGraph.Proofs.Dedup.Instances
import StoreGraph.Proofs.Record.Saved
import StoreGraph.Proofs.Resolver.FirstFailure
import StoreGraph.Proofs.Resolver.Once
import StoreGraph.Queue.Bounded
import StoreGraph.Toml.Json
import StoreGraph.Proofs.Dedup.Counting
