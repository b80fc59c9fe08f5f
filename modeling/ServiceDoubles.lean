import ServiceDoubles.Proofs.Sequence.FailurePoint
import ServiceDoubles.Proofs.Storage.Replay
import ServiceDoubles.Script.Reports
import ServiceDoubles.Stamp.Race
import ServiceDoubles.Text.Utf8
import ServiceDoubles.Proofs.Scope
import ServiceDoubles.Proofs.Fixture
import ServiceDoubles.Proofs.Fixture.Teardown
import ServiceDoubles.Proofs.Client.Routing
import ServiceDoubles.Proofs.Fixture.Overlap
import ServiceDoubles.Proofs.Sequence.Agreement
import ServiceDoubles.Proofs.Storage.History
import ServiceDoubles.Proofs.Sequence.Passthrough
import ServiceDoubles.Proofs.Fixture.Buckets
import ServiceDoubles.Proofs.Stamp.Names
import ServiceDoubles.Proofs.Client.Record
import ServiceDoubles.Proofs.Scope.Unwinding
import ServiceDoubles.Proofs.Stamp.Race
import ServiceDoubles.Proofs.Fixture.Deletion
import ServiceDoubles.Proofs.Pattern.Generality
import ServiceDoubles.Proofs.Pattern.Instance
import ServiceDoubles.Proofs.Config.Cache
import ServiceDoubles.Proofs.Fixture.Leftover
import ServiceDoubles.Proofs.Storage.Matching
import ServiceDoubles.Proofs.Storage.Locality
import ServiceDoubles.Proofs.Storage.Commutation
import ServiceDoubles.Proofs.Storage.Listing
import ServiceDoubles.Proofs.Sequence.Places
import ServiceDoubles.Proofs.Sequence.StopMethod
import ServiceDoubles.Proofs.Sequence.Scoped
import ServiceDoubles.Proofs.Config.Collected
import ServiceDoubles.Proofs.Config.CommandLine
import ServiceDoubles.Proofs.Config.JsonForm
import ServiceDoubles.Proofs.Fixture.Lookup
