import TrafficDirector.PortSearch
import TrafficDirector.Proofs.Dependencies
import TrafficDirector.Proofs.ProxyKind
import TrafficDirector.Proofs.Cleanup
import TrafficDirector.Proofs.Failure
import TrafficDirector.Proofs.Setup
import TrafficDirector.Proofs.Backends
import TrafficDirector.Proofs.Subclasses
import TrafficDirector.Proofs.UrlMap
import TrafficDirector.Proofs.Locality
import TrafficDirector.Proofs.Isolation
import TrafficDirector.Proofs.Recovery
import TrafficDirector.Proofs.CleanupOrder
import TrafficDirector.Proofs.Teardown
