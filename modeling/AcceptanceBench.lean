import AcceptanceBench.Main
import AcceptanceBench.Proofs.Balance
import AcceptanceBench.Proofs.Coherence
import AcceptanceBench.Proofs.Description
import AcceptanceBench.Proofs.Echo
import AcceptanceBench.Proofs.Forms
import AcceptanceBench.Proofs.FullClosing
import AcceptanceBench.Proofs.Handle
import AcceptanceBench.Proofs.HexWire
import AcceptanceBench.Proofs.Isolation
import AcceptanceBench.Proofs.LastingCheck
import AcceptanceBench.Proofs.LatestReply
import AcceptanceBench.Proofs.LosslessPort
import AcceptanceBench.Proofs.Moment
import AcceptanceBench.Proofs.Opening
import AcceptanceBench.Proofs.Outbound
import AcceptanceBench.Proofs.Parts
import AcceptanceBench.Proofs.Past
import AcceptanceBench.Proofs.PastChannels
import AcceptanceBench.Proofs.Precedence
import AcceptanceBench.Proofs.Removal
import AcceptanceBench.Proofs.Renewal
import AcceptanceBench.Proofs.Roster
import AcceptanceBench.Proofs.Rounds
import AcceptanceBench.Proofs.Scene
import AcceptanceBench.Proofs.SerialExpect
import AcceptanceBench.Proofs.Serving
import AcceptanceBench.Proofs.Snapshots
import AcceptanceBench.Proofs.SpuriousWakeup
import AcceptanceBench.Proofs.Stream
import AcceptanceBench.Proofs.TearDown
import AcceptanceBench.Proofs.TextDevice
import AcceptanceBench.Proofs.TimeoutReport
import AcceptanceBench.Proofs.WaitEnd
import AcceptanceBench.Proofs.WaitMirror
import AcceptanceBench.Proofs.WellFormed
import AcceptanceBench.Proofs.Wording
import AcceptanceBench.Step.Buffer
import AcceptanceBench.Step.Scheduler
import AcceptanceBench.Step.SerialPort
import AcceptanceBench.Step.Session
import AcceptanceBench.Step.Usb
