import QuorumRouting.Call.Concurrent
import QuorumRouting.Call.Sequential
import QuorumRouting.CommandLine.Run
import QuorumRouting.Main
import QuorumRouting.Proofs.Call.Conclusion
import QuorumRouting.Proofs.Call.Restoration
import QuorumRouting.Proofs.Call.Slots
import QuorumRouting.Proofs.Call.Tolerance
import QuorumRouting.Proofs.Health.Chronicle
import QuorumRouting.Proofs.Health.Spacing
import QuorumRouting.Proofs.Ring.Removal
import QuorumRouting.Ring.Ownership
import QuorumRouting.Service.Feed
import QuorumRouting.Service.Upkeep
import QuorumRouting.Settings.File
import QuorumRouting.Proofs.Ring.Naming
import QuorumRouting.Proofs.Service.Intake
import QuorumRouting.Proofs.Service.Rebuild
import QuorumRouting.Proofs.Balancer.Selection
import QuorumRouting.Proofs.Service.Working
import QuorumRouting.Proofs.Call.Trying
import QuorumRouting.Proofs.Call.Agreement
import QuorumRouting.Proofs.Ring.Territory
import QuorumRouting.Proofs.Service.Publication
import QuorumRouting.Proofs.Health.Independence
import QuorumRouting.Proofs.Cluster.Pacing
import QuorumRouting.Proofs.Ring.Rearrangement
import QuorumRouting.Proofs.Cluster.Replacement
import QuorumRouting.Proofs.Service.Tally
import QuorumRouting.Proofs.Service.Provenance
import QuorumRouting.Proofs.Balancer.Mending
import QuorumRouting.Proofs.Health.Failing
import QuorumRouting.Proofs.Cluster.Capacity
import QuorumRouting.Proofs.Json.Numerals
import QuorumRouting.Proofs.Json.Strings
import QuorumRouting.Proofs.Ring.Placement
import QuorumRouting.Proofs.Settings.Files
