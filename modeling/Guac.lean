import Guac.Protocol.BalanceLiveness
import Guac.Protocol.OneChannel
import Guac.Protocol.Lossless
import Guac.Protocol.Resynchronisation
import Guac.Node.Signing
import Guac.Node.Enforceability
import Guac.Node.Equivocation
import Guac.Node.Commitment
import Guac.Node.Confirmation
import Guac.Node.Accrual
import Guac.Node.Payment
import Guac.Node.Rollback
import Guac.Network.Crossing
import Guac.Network.Solvency
import Guac.Network.Opening
import Guac.Network.Agreement
import Guac.Network.PacketLoss
import Guac.Network.Rest
import Guac.Network.Service
import Guac.Network.Escape
import Guac.Foundation.Ticket
import Guac.Http.Nonce
import Guac.Http.Lookup
import Guac.Network.ChainAnswers
import Guac.Node.Rejection
import Guac.Node.Overflow
import Guac.Node.Amount
import Guac.Node.Slots
import Guac.Node.FirstContact
import Guac.Node.Wallet
import Guac.Node.StateMachine
import Guac.Node.Ledger
import Guac.Node.Queue
import Guac.Node.Squatting
import Guac.Network.OverHttp
import Guac.Network.Contract
