import SocketGateway.Loopback.Rehearsal
import SocketGateway.Loopback.Script
import SocketGateway.Main
import SocketGateway.Proofs.Lifecycle
import SocketGateway.Proofs.Restarts
import SocketGateway.Proofs.Vacancy
import SocketGateway.Proofs.Membership
import SocketGateway.Proofs.Cycle
import SocketGateway.Proofs.Occupancy
import SocketGateway.Proofs.Farewell
import SocketGateway.Proofs.Course
import SocketGateway.Proofs.Outcomes
import SocketGateway.Proofs.Errands
import SocketGateway.Proofs.Trigger
import SocketGateway.Proofs.RoundTrip
import SocketGateway.Proofs.Grammar
import SocketGateway.Proofs.Routing
import SocketGateway.Proofs.Conversation
import SocketGateway.Proofs.Departures
import SocketGateway.Proofs.Precedence
import SocketGateway.Proofs.Rebinding
import SocketGateway.Proofs.Drains
import SocketGateway.Proofs.Delivery
import SocketGateway.Proofs.Silence
import SocketGateway.Proofs.Names
import SocketGateway.Proofs.Overrides
import SocketGateway.Proofs.Reports
import SocketGateway.Proofs.Views
import SocketGateway.Proofs.NormalForm
