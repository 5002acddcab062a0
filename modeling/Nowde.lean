import Nowde.Lib.Run
import Nowde.Lib.Clock
import Nowde.Lib.Slots
import Nowde.Lib.Heard
import Nowde.Lib.LossCount
import Nowde.Lib.Registry
import Nowde.Lib.Mirror
import Nowde.Lib.Sections
import Nowde.Lib.Channel
import Nowde.Lib.Cascade
import Nowde.Lib.Ledger
import Nowde.Lib.Gossip
import Nowde.Lib.Lines
import Nowde.Lib.Past
import Nowde.Spec.Config
import Nowde.Spec.State
import Nowde.Spec.Receiver
import Nowde.Spec.Relay
import Nowde.Spec.Sender
import Nowde.Spec.Sysex7
import Nowde.Spec.Ota
import Nowde.Spec.Update
import Nowde.Spec.Sysex
import Nowde.Spec.Midi
import Nowde.Spec.Node
import Nowde.Spec.Task
import Nowde.Spec.MeshClock
import Nowde.Spec.ClockedNode
import Nowde.Spec.Tools
import Nowde.Spec.HostParse
import Nowde.Spec.UsbOut
import Nowde.Spec.UsbPump
import Nowde.Spec.UsbLog
import Nowde.Spec.Ui
import Nowde.Spec.HostMidi
import Nowde.Proof.ReceivePath
import Nowde.Proof.NewestFrame
import Nowde.Proof.Commands
import Nowde.Proof.HostIndex
import Nowde.Proof.Isolation
import Nowde.Proof.HostOnly
import Nowde.Proof.OtaSession
import Nowde.Proof.UsbInput
import Nowde.Proof.OtaPlain
import Nowde.Proof.OtaAcked
import Nowde.Proof.RelayTables
import Nowde.Proof.Flooding
import Nowde.Proof.TaskLoop
import Nowde.Proof.Timeouts
import Nowde.Proof.Gaps
import Nowde.Proof.Outputs
import Nowde.Proof.HostOutput
import Nowde.Proof.Modes
import Nowde.Proof.StopPolicy
import Nowde.Proof.Exclusive
import Nowde.Proof.Peers
import Nowde.Proof.CStrings
import Nowde.Proof.ReceiverMap
import Nowde.Proof.LayerChange
import Nowde.Proof.WellFormed
import Nowde.Proof.Contiguous
import Nowde.Proof.MeshNode
import Nowde.Proof.Mesh
import Nowde.Proof.Authentic
import Nowde.Proof.Storm
import Nowde.Proof.Coverage
import Nowde.Proof.OutputQueue
import Nowde.Proof.Resync
import Nowde.Proof.Transport
import Nowde.Proof.Position
import Nowde.Proof.Copies
import Nowde.Proof.Generations
import Nowde.Proof.Replies
import Nowde.Proof.HostPath
import Nowde.Proof.SelfHeal
import Nowde.Proof.Uninterrupted
import Nowde.Proof.SevenBit
import Nowde.Proof.TornRead
import Nowde.Proof.Timecode
import Nowde.Proof.Packetisers
import Nowde.Proof.HopLimit
import Nowde.Proof.ShortFrames
import Nowde.Proof.LayerKept
import Nowde.Proof.Deadlines
import Nowde.Proof.RelaySteps
import Nowde.Proof.StaleMedia
import Nowde.Proof.Handover
import Nowde.Proof.HonestReport
import Nowde.Proof.MeshClock
import Nowde.Proof.ClockMesh
import Nowde.Proof.ClockRuns
import Nowde.Proof.Beacons
import Nowde.Proof.ClockedMesh
import Nowde.Proof.ClockedNode
import Nowde.Proof.MeshPosition
import Nowde.Proof.LogLines
import Nowde.Proof.Settings
import Nowde.Proof.StatusLight
import Nowde.Proof.Provenance
import Nowde.Proof.ReadBack
import Nowde.Proof.Requests
import Nowde.Proof.SlavesShown
