import PacketReinjection.Proofs.Counters
import PacketReinjection.Proofs.Masks
import PacketReinjection.Proofs.Simulation.Registers
import PacketReinjection.Proofs.Simulation.Run

/-!
# `Proofs.Simulation.StatusHistory` — get-status reports the command history

The wait fields live in the router's control register, the class mask in the engine's filter, the
counters in the engine's statistics. All three are set by start-up and by accepted requests, and by
nothing else, so a report can be told from the history: the last accepted request of a kind since the
last start-up, the configured value if there was none, and the numbers of events since the last reset.

## Contents
- **`lastAccepted`** — the last accepted value of a request since the last start-up.
- **One operation.** `Explained.settings`, `settings_perform`: configuration and filter.
- **`Remembers`** — what a history says of a node; `remembers_start`, `Remembers.perform`.
- **`Reports`** and **`status_reports_history`**.
-/

namespace PacketReinjection

open Router (WaitField)

/-! ## The last accepted value -/

/-- The value of a request, if the record accepted one of that kind. -/
def Performed.acceptedValue? (sub : SubCommand) (h : Performed) : Option UInt32 :=
  h.accepted?.bind fun request => if request.1 = sub then some request.2 else none

/-- The records after the last start-up; all of them, if there was none. -/
def sinceStart (history : List Performed) : List Performed :=
  history.rtakeWhile fun h => !h.operation.isStart

/-- The value of the last accepted request of a kind since the last start-up. -/
def lastAccepted (sub : SubCommand) (history : List Performed) : Option UInt32 :=
  ((sinceStart history).filterMap (Performed.acceptedValue? sub)).getLast?

section LastAccepted

variable {history : List Performed} {h : Performed}

theorem lastAccepted_concat_start (sub : SubCommand) (hop : h.operation.isStart = true) :
    lastAccepted sub (history ++ [h]) = none := by
  have hsince : sinceStart (history ++ [h]) = [] :=
    List.rtakeWhile_concat_neg _ _ _ (by simp [hop])
  rw [lastAccepted, hsince]
  rfl

theorem lastAccepted_concat (sub : SubCommand) (hop : h.operation.isStart = false) :
    lastAccepted sub (history ++ [h]) = (h.acceptedValue? sub).or (lastAccepted sub history) := by
  have hsince : sinceStart (history ++ [h]) = sinceStart history ++ [h] :=
    List.rtakeWhile_concat_pos _ _ _ (by simp [hop])
  rw [lastAccepted, hsince, List.filterMap_append, lastAccepted]
  cases hvalue : h.acceptedValue? sub with
  | none => simp [hvalue]
  | some value => simp [hvalue]

end LastAccepted

/-! ## One operation -/

/-- The filter after an operation. -/
def Performed.filterAfter (h : Performed) : ClassFilter :=
  if h.operation.isStart then
    ClassFilter.ofMask h.before.config.classMask
  else
    ((h.acceptedValue? .setPacketClasses).map ClassFilter.ofMask).getD h.before.filter

/-- A handler of an interrupt line leaves configuration and filter alone. -/
theorem Performed.Explained.settings {h : Performed} (hx : h.Explained)
    (hop : h.operation.interrupt?.isSome = true) :
    h.after.config = h.before.config ∧ h.after.filter = h.before.filter := by
  cases hx with
  | started source => exact absurd hop (by simp [Operation.interrupt?])
  | @captured op e trace p status _ hp hs =>
    obtain ⟨-, hr⟩ | ⟨-, -, hr⟩ | ⟨-, -, hr⟩ := e.receive_cases p status <;>
      simp [hr]
  | sent _ hp => exact ⟨rfl, rfl⟩
  | requested _ hcaptured hsent hafter =>
    rw [hafter, Operation.request?_of_interrupt hop]
    exact ⟨rfl, rfl⟩

/-- A message leaves the configuration alone, and the filter too unless it was accepted for it. -/
theorem Performed.Decided.settings {S : Type} [Platform S] {s : S} {h : Performed} {d : Decision}
    (hd : h.Decided s d) (hop : h.operation.isStart = false) :
    h.after.config = h.before.config ∧ h.after.filter = h.filterAfter := by
  rw [filterAfter, hop, acceptedValue?, hd.accepted?_eq, hd.after]
  cases d with
  | carryOut sub value => cases sub <;> exact ⟨rfl, rfl⟩
  | refuse error => exact ⟨rfl, rfl⟩

/-- **Configuration and filter after every operation.** -/
theorem settings_perform {S : Type} [Platform S] (n : Node S) (op : Operation) :
    (n.perform op).1.after.config = n.engine.config
      ∧ (n.perform op).1.after.filter = (n.perform op).1.filterAfter := by
  obtain rfl | ⟨source, hop⟩ | ⟨-, hkind, d, hd⟩ := perform_kinds n op
  · obtain ⟨source, hafter⟩ := memory_start n
    have hnode : (n.perform .start).1.after = n.engine.restarted source := by
      rw [← hafter]
      simp only [Node.perform, Operation.routine, Routine.run_bind]
      rfl
    rw [hnode]
    exact ⟨rfl, rfl⟩
  · -- A handler is asked for nothing, so that nothing was accepted.
    have hhandler : op.interrupt?.isSome = true := Option.isSome_of_eq_some hop
    have hkind : (n.perform op).1.operation.isStart = false := Operation.isStart_of_interrupt hhandler
    have hnone : (n.perform op).1.accepted? = none :=
      Performed.accepted?_of_none (Operation.request?_of_interrupt hhandler)
    obtain ⟨hconfig, hfilter⟩ := (perform_explained op n).settings hhandler
    refine ⟨hconfig, hfilter.trans ?_⟩
    rw [Performed.filterAfter, hkind, Performed.acceptedValue?, hnone]
    rfl
  · exact hd.settings hkind

/-- The request that sets a wait field. -/
def Router.WaitField.request : WaitField → SubCommand
  | primary => .setTimeout
  | emergency => .setEmergencyTimeout

/-- **A wait field after an operation** is the value that was accepted for it, if one was. -/
theorem extract_controlAfter {h : Performed} (hop : h.operation.isStart = false)
    (hfits : ∀ sub value, h.accepted? = some (sub, value) → sub.refusal? value = none)
    (f : WaitField) (control : UInt32) :
    (f.extract (h.controlAfter control)).toUInt32
      = (h.acceptedValue? f.request).getD (f.extract control).toUInt32 := by
  rw [Performed.controlAfter, hop, Performed.acceptedValue?]
  cases haccepted : h.accepted? with
  | none => rfl
  | some request =>
    obtain ⟨sub, value⟩ := request
    have hfit := hfits sub value haccepted
    -- A request sets its own field, with a value that fits, and leaves the other one.
    have hown (g : WaitField) (hle : value ≤ WaitField.maxValue) :
        (g.extract (g.replace control value)).toUInt32 = value := by
      rw [g.extract_replace, WaitField.toUInt32_toUInt8 hle]
    have hother {g g' : WaitField} (hne : g' ≠ g) :
        (g'.extract (g.replace control value)).toUInt32 = (g'.extract control).toUInt32 := by
      rw [WaitField.extract_replace_of_ne hne]
    cases sub with
    | setTimeout =>
      cases f with
      | primary => exact hown .primary (SubCommand.le_of_fits (.inl rfl) hfit)
      | emergency => exact hother (by decide)
    | setEmergencyTimeout =>
      cases f with
      | primary => exact hother (by decide)
      | emergency => exact hown .emergency (SubCommand.le_of_fits (.inr rfl) hfit)
    | setPacketClasses | getStatus | resetCounters | exit => cases f <;> rfl

/-! ## What a history says of a node -/

namespace Simulation

/-- What a history since a start-up says of a node with a given configuration. -/
structure Remembers (config : EngineConfig) (history : List Performed) (n : Node Simulation) :
    Prop where
  settings : n.engine.config = config
  wait : ∀ f : WaitField, (f.extract n.hardware.routerControl).toUInt32
    = (lastAccepted f.request history).getD
        (f.configuredValue config.primaryWait config.emergencyWait).toUInt32
  filter : n.engine.filter
    = ClassFilter.ofMask ((lastAccepted .setPacketClasses history).getD config.classMask)
  accounts : Performed.ledger.Accounts history n.engine

section Remembers

variable {config : EngineConfig} {history : List Performed} {n : Node Simulation}

/-- A start-up forgets every request and applies the configuration. -/
theorem remembers_start (hconfig : n.engine.config = config)
    (haccounts : Performed.ledger.Accounts history n.engine) :
    Remembers config (history ++ [(n.perform .start).1]) (n.perform .start).2 := by
  obtain ⟨hkept, hfilter⟩ := settings_perform n .start
  have hstart : (n.perform .start).1.operation.isStart = true := rfl
  refine ⟨hkept.trans hconfig, fun f => ?_, ?_, ?_⟩
  · rw [lastAccepted_concat_start _ hstart, (registered_start n).control, Performed.controlAfter,
      hstart, if_pos rfl, Router.extract_configured]
    show (f.configuredValue n.engine.config.primaryWait n.engine.config.emergencyWait).toUInt32 = _
    rw [hconfig]
    rfl
  · rw [lastAccepted_concat_start _ hstart]
    refine hfilter.trans ?_
    show ClassFilter.ofMask n.engine.config.classMask = _
    rw [hconfig]
    rfl
  · exact Ledger.Accounts.step haccounts (perform_explained .start n).entry

/-- **Every operation keeps the memory of the history.** -/
theorem Remembers.perform (hn : Remembers config history n) (op : Operation) :
    Remembers config (history ++ [(n.perform op).1]) (n.perform op).2 := by
  cases hop : op.isStart with
  | true =>
    cases op with
    | start => exact remembers_start hn.settings hn.accounts
    | _ => exact Bool.noConfusion hop
  | false =>
    have hkind : (n.perform op).1.operation.isStart = false := hop
    obtain ⟨hkept, hfilter⟩ := settings_perform n op
    refine ⟨hkept.trans hn.settings, fun f => ?_, ?_, ?_⟩
    · have hfits (sub : SubCommand) (value : UInt32)
          (haccepted : (n.perform op).1.accepted? = some (sub, value)) : sub.refusal? value = none :=
        refusal?_of_accepted n op haccepted
      rw [lastAccepted_concat _ hkind, (registers_perform n op).control,
        extract_controlAfter hkind hfits, hn.wait f]
      cases (n.perform op).1.acceptedValue? f.request <;> rfl
    · rw [lastAccepted_concat _ hkind]
      refine hfilter.trans ?_
      have hbefore : (n.perform op).1.before.filter = n.engine.filter := rfl
      rw [Performed.filterAfter, hkind, hbefore, hn.filter]
      cases (n.perform op).1.acceptedValue? .setPacketClasses <;> rfl
    · exact Ledger.Accounts.step hn.accounts (perform_explained op n).entry

/-- The outside world touches neither the memory nor the control register. -/
theorem Remembers.outside (hn : Remembers config history n) {s : Simulation}
    (hs : Outside n.hardware s) : Remembers config history { n with hardware := s } := by
  refine ⟨hn.settings, fun f => ?_, hn.filter, hn.accounts⟩
  rw [← hn.wait f, ← hs.routerControl]

/-- **A run that begins with a start-up remembers its history**, whatever the registers held before. -/
theorem remembers_run (hardware : Simulation) (config : EngineConfig) (os : List Occurrence) :
    Remembers config (run (.operation .start :: os) (Node.fresh hardware config)).1
      (run (.operation .start :: os) (Node.fresh hardware config)).2 := by
  have hstart : Remembers config ([] ++ [((Node.fresh hardware config).perform .start).1])
      ((Node.fresh hardware config).perform .start).2 :=
    remembers_start rfl (Ledger.Accounts.fresh config)
  exact run_preserves (fun _ _ op hn => hn.perform op) (fun _ _ _ hs hn => hn.outside hs) os hstart

end Remembers

/-! ## The report -/

/-- A report that tells the history: accepted requests since the last start-up, and events since the last
    reset of the counters. -/
structure Reports (config : EngineConfig) (history : List Performed) (report : StatusReport) :
    Prop where
  primary : report.primaryWait
    = (lastAccepted .setTimeout history).getD config.primaryWait.toUInt32
  emergency : report.emergencyWait
    = (lastAccepted .setEmergencyTimeout history).getD config.emergencyWait.toUInt32
  classes : report.classMask
    = (lastAccepted .setPacketClasses history).getD config.classMask &&& 0xf
  counters : report.statistics.Counts (Performed.ledger.events history)

theorem Remembers.reports {config : EngineConfig} {history : List Performed} {n : Node Simulation}
    (hn : Remembers config history n) : Reports config history (presentStatus n) where
  primary := hn.wait .primary
  emergency := hn.wait .emergency
  classes := by
    show n.engine.filter.mask = _
    rw [hn.filter, ClassFilter.mask_ofMask]
    rfl
  counters := hn.accounts.counts

/-- **Get-status reports the command history.** After any run that begins with a start-up, and as long as
    the engine runs, every frame that asks for the status is answered with what the history calls for. -/
theorem status_reports_history (hardware : Simulation) (config : EngineConfig) (os : List Occurrence)
    (bytes : List UInt8) {value : UInt32} (hbytes : frameRequest? bytes = some (.getStatus, value))
    (hrunning :
      (run (.operation .start :: os) (Node.fresh hardware config)).2.engine.running = true) :
    let r := run (.operation .start :: os) (Node.fresh hardware config)
    ∃ reply report, ((handleFrame bytes).run r.2).1 = some reply ∧ reply.status = .ok report
      ∧ Reports config r.1 report := by
  intro r
  have hdecision : frameDecision bytes = .carryOut .getStatus value :=
    frameDecision_of_request hbytes rfl
  obtain ⟨hdropped, -, -, -⟩ | ⟨envelope, -, -, hreply, -, -⟩ := handleFrame_cases bytes r.2
  · rcases hdropped with hstopped | ⟨error, herror⟩
    · exact absurd hrunning (by simp [r, hstopped])
    · exact absurd hbytes (by simp [frameRequest?_of_peek_error herror])
  · refine ⟨_, presentStatus r.2, hreply, ?_, (remembers_run hardware config os).reports⟩
    rw [hdecision]
    exact ReplyFrame.status_ofVerdict envelope (presentStatus r.2)

/-- A timeout is set, another one refused; a class mask is set that has a bit too many; a packet is
    captured. The report shows the first timeout, the low bits of the mask, and one packet. -/
theorem status_reports_history_refused_between :
    let os : List Occurrence :=
      [.operation (.frame (CommandMessage.request .setTimeout 0x33).toBytes),
        .operation (.frame (CommandMessage.request .setTimeout 0x100).toBytes),
        .operation (.frame (CommandMessage.request .setPacketClasses 0x15).toBytes),
        .dump ⟨0, 7, 0⟩, .service]
    let r := run (.operation .start :: os) (Node.fresh fresh EngineConfig.standard)
    ∃ reply report, ((handleFrame CommandMessage.getStatus.toBytes).run r.2).1 = some reply
      ∧ reply.status = .ok report ∧ report.primaryWait = 0x33 ∧ report.classMask = 5
      ∧ report.dropped.toNat = 1 := by
  intro os r
  obtain ⟨reply, report, hreply, hstatus, hreports⟩ :=
    status_reports_history fresh EngineConfig.standard os CommandMessage.getStatus.toBytes
      (by decide : frameRequest? CommandMessage.getStatus.toBytes = some (.getStatus, 0)) (by decide)
  have hprimary : lastAccepted .setTimeout r.1 = some 0x33 := by decide
  have hclasses : lastAccepted .setPacketClasses r.1 = some 0x15 := by decide
  have hdropped : Performed.ledger.events r.1 .dropped = 1 := by decide
  refine ⟨reply, report, hreply, hstatus, ?_, ?_, ?_⟩
  · rw [hreports.primary, hprimary]
    rfl
  · rw [hreports.classes, hclasses]
    rfl
  · exact (hreports.counters .dropped).trans (by rw [hdropped]; rfl)

end Simulation

end PacketReinjection
