import MuxConsole.Main
import MuxConsole.Proofs.Peer.Locality
import MuxConsole.Proofs.Peer.Loading
import MuxConsole.Proofs.Session.Gate
import MuxConsole.Proofs.Session.Causes
import MuxConsole.Proofs.Network.Intake
import MuxConsole.Proofs.Network.Answers
import MuxConsole.Proofs.Network.Faults
import MuxConsole.Proofs.Network.Pairing
import MuxConsole.Proofs.Network.Handshake
import MuxConsole.Proofs.Network.Segmentation
import MuxConsole.Proofs.Network.Requests
import MuxConsole.Proofs.Config.Editing
import MuxConsole.Proofs.Config.Answer
import MuxConsole.Proofs.Config.Views
import MuxConsole.Proofs.Remote.Control
import MuxConsole.Proofs.Command.Output
import MuxConsole.Proofs.Command.Saved
import MuxConsole.Proofs.Command.Changes
import MuxConsole.Proofs.Input.State
import MuxConsole.Proofs.Input.Independence
import MuxConsole.Proofs.Input.Reencoding
import MuxConsole.Proofs.Input.Generations
import MuxConsole.Proofs.Records
import MuxConsole.Proofs.Report.Listing
import MuxConsole.Proofs.Report.Fetch
