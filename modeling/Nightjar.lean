import Nightjar.AcceptanceChecks.Proofs.Flights
import Nightjar.Approval.Proofs.Canonical
import Nightjar.Audit.Proofs.Journal
import Nightjar.Cli.Proofs.DryRun
import Nightjar.Cli.Proofs.HomeSnapshot
import Nightjar.Cli.Proofs.Untrusted
import Nightjar.Flight.Proofs.AuditBlind
import Nightjar.Flight.Proofs.Cleanup
import Nightjar.Flight.Proofs.Protected
import Nightjar.Home.Proofs.GreatCircle
import Nightjar.Policy.Proofs.Monotone
import Nightjar.Replay.Proofs.Location
import Nightjar.Security.Proofs.PolicyHash
import Nightjar.Service.Proofs.Framing
import Nightjar.Client.Phase0Map
import Nightjar.Client.Proofs.Decision
import Nightjar.Client.Proofs.Markup
import Nightjar.Client.Proofs.Track
import Nightjar.AcceptanceHarness
import Nightjar.AcceptanceHarness.Proofs.Acceptance
