import PacketReinjection.Proofs.Masks
import PacketReinjection.Proofs.Simulation.Registers
import PacketReinjection.Proofs.Simulation.Run

/-!
# `Proofs.Simulation.Transmitter` — what the transmitter sends for a packet

Two of the transmitter's registers outlive the packet that was written to them. A payload stays until
the next key, whoever brings that; and the source address register holds the route of the last packet
beside the source id, though it is the register that start-up takes the id from. That no packet goes
out with the payload or the route of another is an invariant of whole runs.

## Contents
- **`DumpedPacket.entry`**, **`DumpedPacket.reduced`** — what is sent for a packet, in numbers.
- **`Transmitter`** and **`transmitter_perform`** — the registers after every operation;
  `transmitSource_perform`, the id in the memory.
- **`Faithful`**, the invariant, and **`reinjection_faithful`**.
-/

namespace PacketReinjection

/-! ## Packets in numbers -/

namespace DumpedPacket

/-- What is sent for a packet by a node with the given source id: bits 16 to 23 of the header, the id
    beside bits 24 to 26, the payload if bit 17 announces one, and the key. -/
def entry (id : UInt32) (p : DumpedPacket) : TransmittedPacket where
  control := p.header &&& 0x00ff0000
  sourceAddress := id ||| (p.header &&& 0x07000000)
  payload := if p.header.toBitVec.getLsbD 17 then some p.payload else none
  key := p.key

/-- What is left of a packet that was sent: bits 16 to 26 of its header, its key, and its payload if it
    had one. -/
def reduced (p : DumpedPacket) : DumpedPacket where
  header := p.header &&& 0x07ff0000
  key := p.key
  payload := if p.header.toBitVec.getLsbD 17 then p.payload else 0

variable (p : DumpedPacket)

/-- With no payload left over, the transmitter sends the entry. -/
theorem image_none (id : UInt32) : p.image id none = p.entry id := rfl

/-- An id of sixteen bits does not reach into the route, so the entry shows what is left of the packet. -/
theorem asDumped_entry {id : UInt32} (hid : id &&& Header.routeMask = 0) :
    (p.entry id).asDumped = p.reduced := by
  have hparts : (0x07ff0000 : UInt32) = 0x00ff0000 ||| 0x07000000 := by decide
  have hroute : (id ||| (p.header &&& 0x07000000)) &&& Header.routeMask = p.header &&& 0x07000000 := by
    rw [Simulation.bits_or_and, hid, UInt32.zero_or, UInt32.and_assoc]
    rfl
  have hheader : p.header &&& 0x07ff0000
      = (p.header &&& 0x00ff0000) ||| (p.header &&& 0x07000000) := by
    rw [hparts, UInt32.and_comm, Simulation.bits_or_and, UInt32.and_comm _ p.header,
      UInt32.and_comm _ p.header]
  unfold TransmittedPacket.asDumped entry reduced
  simp only [hroute, hheader]
  cases p.header.toBitVec.getLsbD 17 <;> rfl

end DumpedPacket

/-! ## The transmitter -/

/-- Only a start-up changes the source id in the memory. -/
theorem Performed.Explained.transmitSource {h : Performed} (hx : h.Explained)
    (hop : h.operation.isStart = false) : h.after.transmitSource = h.before.transmitSource := by
  cases hx with
  | started source => exact absurd hop (by simp [Operation.isStart])
  | @captured op e trace p status _ hp hs =>
    obtain ⟨-, hr⟩ | ⟨-, -, hr⟩ | ⟨-, -, hr⟩ := e.receive_cases p status <;> simp [hr]
  | sent _ hp => rfl
  | requested _ hcaptured hsent hafter =>
    rw [hafter]
    cases h.operation.request? h.before.running with
    | none => rfl
    | some request =>
      obtain ⟨sub, value⟩ := request
      cases sub <;> rfl

namespace Simulation

/-- The registers that packets go through, and the packets that went. -/
structure Transmitter where
  address : UInt32
  /-- A payload written since the last packet left. -/
  left : Option UInt32
  log : List TransmittedPacket

/-- The transmitter of a simulated node. -/
def transmitter (s : Simulation) : Transmitter := ⟨s.sourceAddress, s.txData, s.transmitted⟩

/-- The transmitter after a packet, sent with the given source id. -/
def Transmitter.fire (t : Transmitter) (id : UInt32) (p : DumpedPacket) : Transmitter where
  address := id ||| p.routeBits
  left := none
  log := t.log ++ [p.image id t.left]

theorem Outside.transmitter {s s' : Simulation} (hs : Outside s s') : s'.transmitter = s.transmitter := by
  cases hs with
  | dump p =>
    unfold injectDump
    split <;> rfl
  | block blocked => rfl

section Operations

open Routine

variable {n : Node Simulation} {op : Operation}

/-- The transmitter fires for the packet that the record tells of, and is left alone if there is none. -/
def Fires (n : Node Simulation) (op : Operation) : Prop :=
  (n.perform op).2.hardware.transmitter
    = (n.perform op).1.sent?.elim n.hardware.transmitter
        (n.hardware.transmitter.fire n.engine.transmitSource)

/-- Among the handlers only a drain that sends reaches the transmitter. -/
theorem HandlerStep.transmitter {o : HandlerOutcome} {n' : Node Simulation} (h : HandlerStep n o n') :
    n'.hardware.transmitter
      = (Outcome.handled o).sent?.elim n.hardware.transmitter
          (n.hardware.transmitter.fire n.engine.transmitSource) := by
  cases h <;> rfl

theorem fires_interrupt {source : InterruptSource} (hop : op.interrupt? = some source) :
    Fires n op := by
  obtain ⟨hnode, houtcome⟩ := perform_interrupt hop n
  rw [Fires, hnode, (handlerStep_dispatch source n).transmitter, Performed.sent?, houtcome]

theorem fires_start (n : Node Simulation) : Fires n .start := by
  rw [Fires, perform_start_hardware]
  rfl

/-- Start-up takes the source id from the register. -/
theorem run_start_transmitSource (n : Node Simulation) :
    (start.run n).2.engine.transmitSource = n.hardware.sourceAddress &&& sourceIdMask := by
  rw [run_start]
  rfl

/-- A message that did what was decided. -/
theorem fires_of_decided {d : Decision} (hsent : (n.perform op).1.sent? = none)
    (hd : (n.perform op).1.Decided n.hardware d) : Fires n op := by
  rw [Fires, hsent, perform_hardware, hd.calls]
  cases d with
  | carryOut sub value => cases sub <;> rfl
  | refuse error => rfl

/-- **The transmitter after every operation**: it fires for a packet that is sent, and for nothing
    else. -/
theorem transmitter_perform (n : Node Simulation) (op : Operation) : Fires n op := by
  obtain rfl | ⟨source, hop⟩ | ⟨hop, -, d, hd⟩ := perform_kinds n op
  · exact fires_start n
  · exact fires_interrupt hop
  · exact fires_of_decided (sent?_of_no_interrupt hop n) hd

/-- **The source id after every operation**: only a start-up looks at the register. -/
theorem transmitSource_perform (n : Node Simulation) (op : Operation) :
    (n.perform op).2.engine.transmitSource =
      if op.isStart then n.hardware.sourceAddress &&& sourceIdMask else n.engine.transmitSource := by
  cases hop : op.isStart with
  | true =>
    cases op with
    | start =>
      rw [perform_start, run_start_transmitSource]
      rfl
    | _ => exact absurd hop (by simp [Operation.isStart])
  | false => exact (perform_explained op n).transmitSource hop

end Operations

/-! ## Runs -/

/-- A node that sends under a source id: memory and register agree on the id, no payload is left over,
    and after what was logged earlier the log holds the entries of the packets sent. -/
structure Faithful (id : UInt32) (earlier : List TransmittedPacket) (history : List Performed)
    (n : Node Simulation) : Prop where
  source : n.engine.transmitSource = id
  address : n.hardware.sourceAddress &&& sourceIdMask = id
  spent : n.hardware.txData = none
  log : n.hardware.transmitted = earlier ++ (sentPackets history).map (DumpedPacket.entry id)

section Faithful

variable {id : UInt32} {earlier : List TransmittedPacket} {history : List Performed}
  {n : Node Simulation}

/-- **Every operation stays faithful.** -/
theorem Faithful.perform (hn : Faithful id earlier history n) (op : Operation) :
    Faithful id earlier (history ++ [(n.perform op).1]) (n.perform op).2 := by
  have hfires : (n.perform op).2.hardware.transmitter = _ := transmitter_perform n op
  have hsource : (n.perform op).2.engine.transmitSource = id := by
    rw [transmitSource_perform, hn.address, hn.source, ite_self]
  cases hsent : (n.perform op).1.sent? with
  | none =>
    rw [hsent] at hfires
    obtain ⟨haddress, hleft, hlog⟩ := Transmitter.mk.inj hfires
    refine ⟨hsource, ?_, hleft.trans hn.spent, ?_⟩
    · rw [haddress, hn.address]
    · rw [hlog, hn.log]
      simp [sentPackets, hsent]
  | some p =>
    rw [hsent] at hfires
    obtain ⟨haddress, hleft, hlog⟩ := Transmitter.mk.inj hfires
    refine ⟨hsource, ?_, hleft, ?_⟩
    · -- The id is there already masked, and the route is no part of what the mask keeps.
      have hroute : p.routeBits &&& sourceIdMask = 0 := by
        rw [DumpedPacket.routeBits, UInt32.and_assoc]
        exact UInt32.and_zero
      rw [haddress, bits_or_and, hroute, UInt32.or_zero, hn.source, ← hn.address, UInt32.and_assoc,
        UInt32.and_self]
    · rw [hlog]
      show n.hardware.transmitted ++ [p.image n.engine.transmitSource n.hardware.txData] = _
      rw [hn.spent, p.image_none, hn.source, hn.log]
      simp [sentPackets, hsent]

theorem Faithful.outside (hn : Faithful id earlier history n) {s : Simulation}
    (hs : Outside n.hardware s) : Faithful id earlier history { n with hardware := s } := by
  obtain ⟨haddress, hleft, hlog⟩ := Transmitter.mk.inj hs.transmitter
  exact ⟨hn.source, by rw [haddress, hn.address], hleft.trans hn.spent, hlog.trans hn.log⟩

/-- A start-up takes its id from the register. -/
theorem faithful_start (hspent : n.hardware.txData = none) :
    Faithful (n.hardware.sourceAddress &&& sourceIdMask) n.hardware.transmitted
      [(n.perform .start).1] (n.perform .start).2 := by
  obtain ⟨haddress, hleft, hlog⟩ := Transmitter.mk.inj (fires_start n)
  refine ⟨transmitSource_perform n .start, by rw [haddress], hleft.trans hspent, hlog.trans ?_⟩
  exact (List.append_nil _).symm

/-- **What is sent for a packet is the packet.** In a run that begins with a start-up, the log gains one
    entry for each packet sent, in order: the packet's own words under the id that the register held at
    first. Neither the routes written to the register nor the start-ups that read it again change the
    id, and a payload goes out with its packet or not at all. -/
theorem reinjection_faithful (n : Node Simulation) (hspent : n.hardware.txData = none)
    (os : List Occurrence) :
    let r := run (.operation .start :: os) n
    let id := n.hardware.sourceAddress &&& 0x0000ffff
    r.2.hardware.transmitted
        = n.hardware.transmitted ++ (sentPackets r.1).map (DumpedPacket.entry id)
      ∧ r.2.hardware.transmitted.map TransmittedPacket.asDumped
        = n.hardware.transmitted.map TransmittedPacket.asDumped
          ++ (sentPackets r.1).map DumpedPacket.reduced
      ∧ r.2.engine.transmitSource = id ∧ r.2.hardware.sourceAddress &&& 0x0000ffff = id := by
  intro r id
  have hall : Faithful id n.hardware.transmitted r.1 r.2 :=
    run_preserves (fun _ _ op hn => hn.perform op) (fun _ _ _ hs hn => hn.outside hs) os
      (faithful_start hspent)
  have hid : id &&& Header.routeMask = 0 := by
    show n.hardware.sourceAddress &&& 0x0000ffff &&& Header.routeMask = 0
    rw [UInt32.and_assoc]
    exact UInt32.and_zero
  refine ⟨hall.log, ?_, hall.source, hall.address⟩
  rw [hall.log, List.map_append, List.map_map]
  congr 1
  exact List.map_congr_left fun p _ => p.asDumped_entry hid

end Faithful

/-- Two packets with a restart between them. The second brings no payload and another route, and goes out
    under the same id. -/
theorem reinjection_faithful_restarted :
    let n := Node.fresh { fresh with sourceAddress := 0xabcd1234 } EngineConfig.standard
    let os : List Occurrence := [.dump ⟨0x01020000, 1, 5⟩, .service, .tick, .operation .start,
      .dump ⟨0x02000000, 2, 9⟩, .service, .tick]
    let r := run (.operation .start :: os) n
    n.hardware.txData = none
      ∧ r.2.hardware.transmitted
        = [⟨0x00020000, 0x01001234, some 5, 1⟩, ⟨0, 0x02001234, none, 2⟩] := by
  intro n os r
  have hspent : n.hardware.txData = none := rfl
  obtain ⟨hlog, -⟩ := reinjection_faithful n hspent os
  exact ⟨hspent, hlog.trans (by decide)⟩

end Simulation

end PacketReinjection
