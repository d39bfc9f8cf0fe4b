import DuplexAudio.Device.Reload
import DuplexAudio.Device.Session
import DuplexAudio.Json.Reader
import DuplexAudio.Main
import DuplexAudio.Text.Utf8
import DuplexAudio.Proofs.Exclusivity
import DuplexAudio.Proofs.Negotiation.Satisfiability
import DuplexAudio.Proofs.Negotiation.Schedule
import DuplexAudio.Proofs.Lifecycle.Records
import DuplexAudio.Proofs.Device.Accounting
import DuplexAudio.Proofs.Device.Atomicity
import DuplexAudio.Proofs.Device.Commitment
import DuplexAudio.Proofs.Device.Attachment
import DuplexAudio.Proofs.Lifecycle.Need
import DuplexAudio.Proofs.Lifecycle.Discipline
import DuplexAudio.Proofs.Document.Provenance
import DuplexAudio.Proofs.Mode.Origin
import DuplexAudio.Proofs.RateMask.Bits
import DuplexAudio.Proofs.Negotiation.LegalRates
import DuplexAudio.Proofs.Negotiation.Disabled
import DuplexAudio.Proofs.Negotiation.Congruence
import DuplexAudio.Proofs.Negotiation.Overflow
import DuplexAudio.Proofs.Negotiation.Exactness
import DuplexAudio.Proofs.Negotiation.SingleRate
import DuplexAudio.Proofs.Negotiation.Stability
import DuplexAudio.Proofs.Device.PortNames
import DuplexAudio.Proofs.Device.Offer
import DuplexAudio.Proofs.Device.Alike
import DuplexAudio.Proofs.Device.Overflow
import DuplexAudio.Proofs.Device.Slaved
import DuplexAudio.Proofs.Device.Visit
import DuplexAudio.Proofs.Simulation.Outcome
import DuplexAudio.Proofs.Device.Isolation
import DuplexAudio.Proofs.Store.Place
import DuplexAudio.Proofs.Store.Confinement
import DuplexAudio.Proofs.Store.Fallbacks
import DuplexAudio.Proofs.Store.ProfileMap
import DuplexAudio.Proofs.Store.Reload
import DuplexAudio.Proofs.Transport.Replay
import DuplexAudio.Proofs.Interval.Algebra
import DuplexAudio.Proofs.Interval.Grammar
import DuplexAudio.Proofs.Negotiation.Hulls
