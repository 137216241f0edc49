import Orbis.Crypto.Dkg.Reshare
import Orbis.Crypto.ShareProofs
import Orbis.Node.Sign.Finalize
import Orbis.Node.Sign.SingleUse
import Orbis.Node.Pet.Decision
import Orbis.Node.Pet.Initiator
import Orbis.Node.Dkg.PhaseOrder
import Orbis.Node.Dkg.ShareRace
import Orbis.Node.Dkg.ShareRetry
import Orbis.Node.Dkg.SelectionAgreement
import Orbis.Node.Dkg.DurableWrites
import Orbis.Node.Dkg.HealthCheck
import Orbis.Node.ContextBinding
import Orbis.Node.JtiReplay
import Orbis.Node.PetGenerations
import Orbis.Node.Reporting.RepairPage
import Orbis.Node.Reporting.AckEquivocation
import Orbis.Node.Transport.Abort
import Orbis.Node.Transport.Committees
import Orbis.Node.Transport.Participants
import Orbis.Node.Transport.SessionIds
import Orbis.Node.Reporting.KeyRotation
import Orbis.Node.Reporting.UnauthorizedRequest
import Orbis.Node.Reporting.ShareAttribution
