import RunnerFleet.Main
import RunnerFleet.Script
import RunnerFleet.Proofs.Deduplication
import RunnerFleet.Proofs.Patrolling
import RunnerFleet.Proofs.Stopping
import RunnerFleet.Proofs.Capacity
import RunnerFleet.Proofs.Exchanges
import RunnerFleet.Proofs.Blame
import RunnerFleet.Proofs.Completeness
import RunnerFleet.Proofs.Catalogue
import RunnerFleet.Proofs.Resuming
import RunnerFleet.Proofs.Admission
import RunnerFleet.Proofs.Containment
import RunnerFleet.Proofs.Configuring
import RunnerFleet.Proofs.Departing
import RunnerFleet.Proofs.Companions
import RunnerFleet.Proofs.Reporting
import RunnerFleet.Proofs.Remembering
import RunnerFleet.Proofs.Splitting
import RunnerFleet.Proofs.Registering
import RunnerFleet.Proofs.Classifying
import RunnerFleet.Proofs.Picking
import RunnerFleet.Proofs.Chronicle
import RunnerFleet.Proofs.Launching
import RunnerFleet.Proofs.Credentials
import RunnerFleet.Proofs.Discretion
import RunnerFleet.Proofs.Refreshing
import RunnerFleet.Proofs.Aside
import RunnerFleet.Proofs.Replacing
import RunnerFleet.Proofs.Overriding
import RunnerFleet.Proofs.Examining
import RunnerFleet.Proofs.Visiting
import RunnerFleet.Proofs.Matching
import RunnerFleet.Proofs.Merging
import RunnerFleet.Proofs.Parsing
import RunnerFleet.Proofs.Digits
import RunnerFleet.Proofs.Counting
import RunnerFleet.Proofs.Failing
