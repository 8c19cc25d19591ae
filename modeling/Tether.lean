import Tether.Config.Codec
import Tether.Config.Environment
import Tether.Crypto.Gcm
import Tether.Proofs.Backoff.Grants
import Tether.Proofs.Config.Layers
import Tether.Proofs.Config.Recovered
import Tether.Proofs.Config.Stack
import Tether.Proofs.Crypto.Authenticated
import Tether.Proofs.Crypto.Separation
import Tether.Proofs.Engine.Backend
import Tether.Proofs.Engine.Callers
import Tether.Proofs.Engine.Offers
import Tether.Proofs.Engine.Sessions
import Tether.Proofs.Engine.Verdicts
import Tether.Proofs.Heartbeat
import Tether.Proofs.Json.Faults
import Tether.Proofs.Json.Meaning
import Tether.Proofs.Json.Spelled
import Tether.Proofs.Link.Revival
import Tether.Proofs.Link.Stream
import Tether.Proofs.Message.Accepted
import Tether.Proofs.Message.Agreement
import Tether.Proofs.Message.Viewed
import Tether.Proofs.Signing.Canonical
import Tether.Proofs.Signing.Wire
import Tether.Proofs.Simulation.Finality
import Tether.Proofs.Simulation.Lenient
import Tether.Proofs.Simulation.Mail
import Tether.Proofs.Simulation.Notice
import Tether.Proofs.Simulation.Restart
import Tether.Proofs.Simulation.Secrets
import Tether.Proofs.Simulation.Silence
import Tether.Simulation.Schedule
import Tether.Simulation.Trace
import Tether.WebSocket
