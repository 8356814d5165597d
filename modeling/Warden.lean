import Warden.Main
import Warden.Proofs.Blocks
import Warden.Proofs.Configuration
import Warden.Proofs.Escalation
import Warden.Proofs.Recovery
import Warden.Proofs.Secrecy
import Warden.Proofs.SecretLine
import Warden.Proofs.ShedSchedule
import Warden.Proofs.Delivery
import Warden.Proofs.OutputHistory
import Warden.Proofs.AddressLookup
import Warden.Proofs.OwnReport
import Warden.Proofs.FlagAlgebra
import Warden.Proofs.Hosting
import Warden.Proofs.MissingFigures
import Warden.Proofs.Modes
import Warden.Proofs.FlagNames
import Warden.Proofs.CommandLine.Grammar
import Warden.Proofs.ReportCap
import Warden.Proofs.OutputText
import Warden.Proofs.Restarts
import Warden.Proofs.AllOrNone
import Warden.Proofs.MailSteps
import Warden.Proofs.WrittenLists
