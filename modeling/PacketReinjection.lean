import PacketReinjection.Description
import PacketReinjection.EntryPoints
import PacketReinjection.Main
import PacketReinjection.Proofs.CallDiscipline
import PacketReinjection.Proofs.Command.Atomicity
import PacketReinjection.Proofs.Command.Codec
import PacketReinjection.Proofs.Command.ReplyCodec
import PacketReinjection.Proofs.EntryPoints.Engine
import PacketReinjection.Proofs.Header.Comments
import PacketReinjection.Proofs.Header.Scanning
import PacketReinjection.Proofs.Header.Words
import PacketReinjection.Proofs.IdleLoop
import PacketReinjection.Proofs.Mapped.Footprint
import PacketReinjection.Proofs.Nesting
import PacketReinjection.Proofs.Pipeline
import PacketReinjection.Proofs.Preemption.Safety
import PacketReinjection.Proofs.Queue.Removal
import PacketReinjection.Proofs.Router.ControlHistory
import PacketReinjection.Proofs.Simulation.Abandonment
import PacketReinjection.Proofs.Simulation.DrainOrder
import PacketReinjection.Proofs.Simulation.Dumps
import PacketReinjection.Proofs.Simulation.Filtering
import PacketReinjection.Proofs.Simulation.Startup
import PacketReinjection.Proofs.Simulation.StatusHistory
import PacketReinjection.Proofs.Simulation.Transmitter
import PacketReinjection.Proofs.Tunable.Agreement
import PacketReinjection.Scripted
import PacketReinjection.Tunable.Declaration
