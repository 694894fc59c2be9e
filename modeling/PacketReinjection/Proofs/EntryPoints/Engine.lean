import PacketReinjection.Proofs.EntryPoints.Message
import PacketReinjection.Proofs.Finality

/-!
# `Proofs.EntryPoints.Engine` — behind the entry points there is one engine, built once

Whatever order the entry points are called in, they amount to one engine. As long as no complete
description was handed over there is none, and a call does nothing but say so. The first complete
description builds it. From then on each call does what the engine's own method does, on the registers
of that description, and no later initialisation is heard.

Calls may be nested: the idle loop sleeps, and the interrupts that wake it make calls of their own. The
simulation is therefore proved by recursion over the calls, with one lemma for the loop.

## Contents
- **`EntryCall`**, **`EntryAnswer`** — `Firmware.call`, `Firmware.callAll`: the calls on the firmware.
- **Without an engine.** `EntryCall.unready`, `callAll_unready`.
- **With an engine.** `Node.serve`, `Node.serveAll`: the calls as methods of an engine;
  `callAll_ofNode`, by `idleLoop_map`.
- **`flagTold_serveAll`** and **`Firmware.one_engine`**.
-/

namespace PacketReinjection

open Mapped Firmware

/-! ## Calls -/

/-- A call of an entry point, or a change from outside. -/
inductive EntryCall where
  | initialise (description : Option Description)
  | start
  | isRunning
  | interrupt (source : InterruptSource)
  | message (hasBuffer hasLengthSlot : Bool) (buffer : List UInt8) (length capacity : Nat)
  /-- The idle loop, with the calls that the interrupts make at each wake. After these it is woken by
      an exit command. -/
  | run (wakes : List (List EntryCall))
  /-- Registers and callbacks change for reasons of their own. -/
  | board (b : Board)

/-- What a call gives. -/
inductive EntryAnswer where
  | status (s : EntryStatus)
  | flag (running : Bool)
  | nothing
  | handled (h : Handled)
  /-- The status of the idle loop, with what was given to the calls at each wake. -/
  | ran (s : EntryStatus) (wakes : List (List EntryAnswer))

/-- The number that a call returns: the code of its status, or one where the engine runs. -/
def EntryAnswer.number? : EntryAnswer → Option Int
  | status s | ran s _ => some s.code
  | flag running => some (if running then 1 else 0)
  | handled h => some h.status.code
  | nothing => none

/-- What handling a message left behind, if the call was one. -/
def EntryAnswer.handled? : EntryAnswer → Option Handled
  | handled h => some h
  | status _ | flag _ | nothing | ran _ _ => none

namespace Firmware

/-- The exit command as a message, in a buffer of its own length. -/
def wakeByExit (p : Firmware) : List EntryAnswer × Firmware :=
  let r := p.handleMessage true true CommandMessage.exit.toBytes messageLength messageLength
  ([.handled r.1], r.2)

mutual

/-- A call on the firmware. -/
def call : EntryCall → Firmware → EntryAnswer × Firmware
  | .initialise description, p => let r := p.initialise description; (.status r.1, r.2)
  | .start, p => let r := p.startEngine; (.status r.1, r.2)
  | .isRunning, p => (.flag p.isRunning, p)
  | .interrupt source, p => (.nothing, p.interrupt source)
  | .message hasBuffer hasLengthSlot buffer length capacity, p =>
    let r := p.handleMessage hasBuffer hasLengthSlot buffer length capacity
    (.handled r.1, r.2)
  | .run wakes, p =>
    let r := p.runEngine wakeByExit (callWakes wakes)
    (.ran r.1 r.2.1, r.2.2)
  | .board b, p => (.nothing, { p with board := b })

/-- Calls on the firmware, one after the other. -/
def callAll : List EntryCall → Firmware → List EntryAnswer × Firmware
  | [], p => ([], p)
  | c :: cs, p =>
    let first := call c p
    let later := callAll cs first.2
    (first.1 :: later.1, later.2)

/-- The wakes of the idle loop. -/
def callWakes : List (List EntryCall) → List (Firmware → List EntryAnswer × Firmware)
  | [] => []
  | w :: ws => callAll w :: callWakes ws

end

theorem callAll_append (cs cs' : List EntryCall) (p : Firmware) :
    p.callAll (cs ++ cs') =
      ((p.callAll cs).1 ++ ((p.callAll cs).2.callAll cs').1, ((p.callAll cs).2.callAll cs').2) := by
  induction cs generalizing p with
  | nil => simp only [List.nil_append, callAll]
  | cons c cs ih => simp only [List.cons_append, callAll, ih]

end Firmware

/-! ## Without an engine -/

/-- What is wrong with the arguments of a message, if anything is. -/
def argumentFault? (hasBuffer hasLengthSlot : Bool) (length capacity : Nat) : Option EntryStatus :=
  if !hasBuffer || !hasLengthSlot then
    some .nullPointer
  else if length > capacity then
    some .bufferTooSmall
  else
    none

namespace EntryCall

/-- Whether the call builds an engine where there is none: it hands over a description with the bases of
    the router, the communications controller, the timer and the interrupt controller, and with the three
    callbacks. -/
def builds : EntryCall → Bool
  | initialise (some d) =>
    d.hasRouter && d.hasComms && d.hasTimer && d.hasVic
      && d.hasMaskCallback && d.hasRestoreCallback && d.hasWaitCallback
  | initialise none | start | isRunning | interrupt _ | message _ _ _ _ _ | run _ | board _ => false

/-- What a call gives where there is no engine. -/
def unready : EntryCall → EntryAnswer
  | initialise _ => .status .nullPointer
  | start => .status .notInitialised
  | isRunning => .flag false
  | interrupt _ | board _ => .nothing
  | message hasBuffer hasLengthSlot buffer length capacity =>
    .handled
      ⟨(argumentFault? hasBuffer hasLengthSlot length capacity).getD .notInitialised, none, buffer⟩
  | run _ => .ran .notInitialised []

/-- The board after a call where there is no engine. -/
def boardAfter (b : Board) : EntryCall → Board
  | board b' => b'
  | initialise _ | start | isRunning | interrupt _ | message _ _ _ _ _ | run _ => b

end EntryCall

namespace Firmware

/-- Firmware without an engine. -/
def unbuilt (b : Board) : Firmware := ⟨b, [], none⟩

/-- Without an engine a call gives its answer for that case and does nothing. -/
theorem call_unready {c : EntryCall} (hc : c.builds = false) (b : Board) :
    (unbuilt b).call c = (c.unready, unbuilt (c.boardAfter b)) := by
  cases c with
  | initialise description =>
    cases description with
    | none => rfl
    | some d =>
      have hincomplete : d.isComplete = false := hc
      simp [call, initialise, unbuilt, hincomplete, EntryCall.unready, EntryCall.boardAfter]
  | message hasBuffer hasLengthSlot buffer length capacity =>
    simp only [call, handleMessage, EntryCall.unready, argumentFault?]
    split
    · rfl
    · split <;> rfl
  | _ => rfl

/-- A complete description builds the engine. -/
theorem call_build {d : Description} (hd : (EntryCall.initialise (some d)).builds = true) (b : Board) :
    (unbuilt b).call (.initialise (some d)) =
      (.status .ok, ofNode (Node.fresh ⟨d, b⟩ EngineConfig.standard)) := by
  have hcomplete : d.isComplete = true := hd
  simp [call, initialise, unbuilt, hcomplete, ofNode, Node.fresh]

/-- **Without an engine nothing happens**, whatever is called. -/
theorem callAll_unready {cs : List EntryCall} (hcs : ∀ c ∈ cs, c.builds = false) (b : Board) :
    (unbuilt b).callAll cs = (cs.map EntryCall.unready, unbuilt (cs.foldl EntryCall.boardAfter b)) := by
  induction cs generalizing b with
  | nil => rfl
  | cons c cs ih =>
    obtain ⟨hc, hcs⟩ := List.forall_mem_cons.mp hcs
    simp only [callAll, call_unready hc, ih hcs, List.map_cons, List.foldl_cons]

end Firmware

/-! ## With an engine -/

/-- The method of the engine behind the entry of a line. -/
def InterruptSource.method : InterruptSource → Operation
  | .droppedPacket => .capture
  | .timerTick => .timerTick
  | .transmitterReady => .transmitterReady
  | .command => .dispatch .command

theorem InterruptSource.interrupt?_method (source : InterruptSource) :
    source.method.interrupt? = some source := by
  cases source <;> rfl

/-- What calls gave, with the records of the methods behind them. -/
structure Served (α : Type) where
  answer : α
  records : List Performed

namespace Node

/-- A message, handled by the engine and answered in its buffer. -/
def serveMessage (hasBuffer hasLengthSlot : Bool) (buffer : List UInt8) (length capacity : Nat)
    (n : Node MappedHardware) : Served Handled × Node MappedHardware :=
  match argumentFault? hasBuffer hasLengthSlot length capacity with
  | some status => (⟨⟨status, none, buffer⟩, []⟩, n)
  | none =>
    let r := n.perform (.frame (buffer.take length))
    (⟨deliver buffer capacity r.1.reply?, [r.1]⟩, r.2)

/-- The exit command, handled by the engine. -/
def serveExit (n : Node MappedHardware) : Served (List EntryAnswer) × Node MappedHardware :=
  let r := n.serveMessage true true CommandMessage.exit.toBytes messageLength messageLength
  (⟨[.handled r.1.answer], r.1.records⟩, r.2)

mutual

/-- A call as a method of an engine on its hardware. -/
def serve : EntryCall → Node MappedHardware → Served EntryAnswer × Node MappedHardware
  | .initialise none, n => (⟨.status .nullPointer, []⟩, n)
  | .initialise (some _), n => (⟨.status .alreadyInitialised, []⟩, n)
  | .start, n => let r := n.perform .start; (⟨.status .ok, [r.1]⟩, r.2)
  | .isRunning, n => (⟨.flag n.engine.running, []⟩, n)
  | .interrupt source, n => let r := n.perform source.method; (⟨.nothing, [r.1]⟩, r.2)
  | .message hasBuffer hasLengthSlot buffer length capacity, n =>
    let r := n.serveMessage hasBuffer hasLengthSlot buffer length capacity
    (⟨.handled r.1.answer, r.1.records⟩, r.2)
  | .run wakes, n =>
    let r := n.idle serveExit (serveWakes wakes)
    (⟨.ran .ok (r.1.map Served.answer), r.1.flatMap Served.records⟩, r.2)
  | .board b, n => (⟨.nothing, []⟩, { n with hardware := { n.hardware with board := b } })

/-- Calls as methods of an engine, one after the other. -/
def serveAll : List EntryCall → Node MappedHardware → Served (List EntryAnswer) × Node MappedHardware
  | [], n => (⟨[], []⟩, n)
  | c :: cs, n =>
    let first := serve c n
    let later := serveAll cs first.2
    (⟨first.1.answer :: later.1.answer, first.1.records ++ later.1.records⟩, later.2)

/-- The wakes of an engine's idle loop. -/
def serveWakes : List (List EntryCall) →
    List (Node MappedHardware → Served (List EntryAnswer) × Node MappedHardware)
  | [] => []
  | w :: ws => serveAll w :: serveWakes ws

end

end Node

/-! ## The simulation -/

/-- A wake of one loop that does what a wake of another does, seen through a map of the states and one of
    the answers. -/
def WakesAlike {σ τ α β : Type} (state : τ → σ) (answer : β → α) (wake : σ → α × σ)
    (wake' : τ → β × τ) : Prop :=
  ∀ t, wake (state t) = (answer (wake' t).1, state (wake' t).2)

/-- **Idle loops are alike if their wakes are**, and if they agree when to sleep and on what a sleep
    does. -/
theorem idleLoop_map {σ τ α β : Type} {state : τ → σ} {answer : β → α} {running : σ → Bool}
    {running' : τ → Bool} {sleep : σ → σ} {sleep' : τ → τ} {last : σ → α × σ} {last' : τ → β × τ}
    {wakes : List (σ → α × σ)} {wakes' : List (τ → β × τ)}
    (hrunning : ∀ t, running (state t) = running' t) (hsleep : ∀ t, sleep (state t) = state (sleep' t))
    (hlast : WakesAlike state answer last last')
    (hwakes : List.Forall₂ (WakesAlike state answer) wakes wakes') (t : τ) :
    idleLoop running sleep last wakes (state t) =
      let r := idleLoop running' sleep' last' wakes' t
      (r.1.map answer, state r.2) := by
  -- Either loop is left where the other is, and a sleep that ends alike goes on alike.
  induction hwakes generalizing t with
  | nil =>
    simp only [idleLoop, hrunning, hsleep, hlast (sleep' t)]
    split <;> rfl
  | cons hwake _ ih =>
    simp only [idleLoop, hrunning, hsleep, hwake (sleep' t), ih]
    split <;> rfl

namespace Firmware

theorem interrupt_ofNode (source : InterruptSource) (n : Node MappedHardware) :
    (ofNode n).interrupt source = ofNode (n.perform source.method).2 := by
  rw [(perform_interrupt source.interrupt?_method n).1]
  rfl

theorem startEngine_ofNode (n : Node MappedHardware) :
    (ofNode n).startEngine = (.ok, ofNode (n.perform .start).2) := by
  rw [perform_start]
  rfl

/-- With an engine, the message entry handles a frame and delivers its reply. -/
theorem handleMessage_serveMessage (hasBuffer hasLengthSlot : Bool) (buffer : List UInt8)
    (length capacity : Nat) (n : Node MappedHardware) :
    (ofNode n).handleMessage hasBuffer hasLengthSlot buffer length capacity =
      let r := n.serveMessage hasBuffer hasLengthSlot buffer length capacity
      (r.1.answer, ofNode r.2) := by
  unfold Node.serveMessage argumentFault?
  by_cases hmissing : (!hasBuffer || !hasLengthSlot) = true
  · simp only [handleMessage, if_pos hmissing]
  · by_cases houtside : length > capacity
    · simp only [handleMessage, if_neg hmissing, if_pos houtside]
    · obtain ⟨rfl, rfl⟩ : hasBuffer = true ∧ hasLengthSlot = true := by simpa using hmissing
      obtain ⟨hreply, hnode⟩ := perform_frame n (buffer.take length)
      rw [handleMessage_ofNode n (Nat.not_lt.mp houtside)]
      simp only [if_neg hmissing, if_neg houtside, hreply, hnode]

/-- The idle loop on the firmware is the engine's, if their wakes are alike. -/
theorem runEngine_ofNode {α β : Type} {answer : β → α} {last : Firmware → α × Firmware}
    {last' : Node MappedHardware → β × Node MappedHardware} {wakes : List (Firmware → α × Firmware)}
    {wakes' : List (Node MappedHardware → β × Node MappedHardware)}
    (hlast : WakesAlike ofNode answer last last')
    (hwakes : List.Forall₂ (WakesAlike ofNode answer) wakes wakes') (n : Node MappedHardware) :
    (ofNode n).runEngine last wakes =
      let r := n.idle last' wakes'
      (.ok, r.1.map answer, ofNode r.2) := by
  have hrunning (m : Node MappedHardware) : (ofNode m).isRunning = m.engine.running := rfl
  have hsleep (m : Node MappedHardware) :
      (((ofNode m).run? Routine.waitForInterrupt).map (·.2)).getD (ofNode m)
        = ofNode (Routine.waitForInterrupt.run m).2 := rfl
  have hbuilt : (ofNode n).engine.isSome = true := rfl
  rw [runEngine, if_pos hbuilt]
  exact congrArg (EntryStatus.ok, ·) (idleLoop_map hrunning hsleep hlast hwakes n)

theorem wakeByExit_ofNode : WakesAlike ofNode Served.answer wakeByExit Node.serveExit := by
  intro n
  simp only [wakeByExit, Node.serveExit, handleMessage_serveMessage]

/-! With an engine, every call does what the engine's method does. The recursion is that of the calls:
the idle loop is alike for alike wakes, and a wake is a list of calls again. -/

mutual

theorem call_ofNode (c : EntryCall) (n : Node MappedHardware) :
    (ofNode n).call c = ((n.serve c).1.answer, ofNode (n.serve c).2) := by
  cases c with
  | initialise description =>
    cases description <;> simp only [call, Node.serve] <;> rfl
  | start => simp only [call, Node.serve, startEngine_ofNode]
  | isRunning =>
    simp only [call, Node.serve]
    rfl
  | interrupt source => simp only [call, Node.serve, interrupt_ofNode]
  | message hasBuffer hasLengthSlot buffer length capacity =>
    simp only [call, Node.serve, handleMessage_serveMessage]
  | run wakes =>
    simp only [call, Node.serve, runEngine_ofNode wakeByExit_ofNode (callWakes_ofNode wakes)]
  | board b =>
    simp only [call, Node.serve]
    rfl

theorem callAll_ofNode (cs : List EntryCall) (n : Node MappedHardware) :
    (ofNode n).callAll cs = ((n.serveAll cs).1.answer, ofNode (n.serveAll cs).2) := by
  cases cs with
  | nil => simp only [callAll, Node.serveAll]
  | cons c cs => simp only [callAll, Node.serveAll, call_ofNode c, callAll_ofNode cs]

theorem callWakes_ofNode (ws : List (List EntryCall)) :
    List.Forall₂ (WakesAlike ofNode Served.answer) (callWakes ws) (Node.serveWakes ws) := by
  cases ws with
  | nil =>
    simp only [callWakes, Node.serveWakes]
    exact .nil
  | cons w ws =>
    simp only [callWakes, Node.serveWakes]
    exact .cons (fun n => callAll_ofNode w n) (callWakes_ofNode ws)

end

end Firmware

/-! ## The flag -/

theorem flagTold_serveMessage (hasBuffer hasLengthSlot : Bool) (buffer : List UInt8)
    (length capacity : Nat) (n : Node MappedHardware) :
    FlagTold n ((n.serveMessage hasBuffer hasLengthSlot buffer length capacity).1.records,
      (n.serveMessage hasBuffer hasLengthSlot buffer length capacity).2) := by
  unfold Node.serveMessage
  cases argumentFault? hasBuffer hasLengthSlot length capacity with
  | none => exact flagTold_perform n _
  | some status => exact .none rfl

theorem flagTold_serveExit (n : Node MappedHardware) :
    FlagTold n (n.serveExit.1.records, n.serveExit.2) :=
  flagTold_serveMessage _ _ _ _ _ n

mutual

theorem flagTold_serve (c : EntryCall) (n : Node MappedHardware) :
    FlagTold n ((n.serve c).1.records, (n.serve c).2) := by
  cases c with
  | initialise description =>
    cases description <;> simp only [Node.serve] <;> exact .none rfl
  | start =>
    simp only [Node.serve]
    exact flagTold_perform n .start
  | isRunning =>
    simp only [Node.serve]
    exact .none rfl
  | interrupt source =>
    simp only [Node.serve]
    exact flagTold_perform n source.method
  | message hasBuffer hasLengthSlot buffer length capacity =>
    simp only [Node.serve]
    exact flagTold_serveMessage hasBuffer hasLengthSlot buffer length capacity n
  | run wakes =>
    simp only [Node.serve]
    exact flagTold_idleLoop Served.records flagTold_serveExit (flagTold_serveWakes wakes) n
  | board b =>
    simp only [Node.serve]
    exact .none rfl

theorem flagTold_serveAll (cs : List EntryCall) (n : Node MappedHardware) :
    FlagTold n ((n.serveAll cs).1.records, (n.serveAll cs).2) := by
  cases cs with
  | nil =>
    simp only [Node.serveAll]
    exact .none rfl
  | cons c cs =>
    simp only [Node.serveAll]
    exact (flagTold_serve c n).append (flagTold_serveAll cs _)

theorem flagTold_serveWakes (ws : List (List EntryCall)) :
    ∀ wake ∈ Node.serveWakes ws, ∀ n, FlagTold n ((wake n).1.records, (wake n).2) := by
  cases ws with
  | nil =>
    simp only [Node.serveWakes]
    exact fun _ hwake => absurd hwake List.not_mem_nil
  | cons w ws =>
    simp only [Node.serveWakes]
    exact List.forall_mem_cons.mpr ⟨flagTold_serveAll w, flagTold_serveWakes ws⟩

end

namespace Firmware

/-- **Behind the entry points there is one engine, built once.** Before the first complete description
    every call does nothing but say that there is no engine, and then that description builds it, on the
    board as it is by then. From there on, calls nested in the idle loop included, every answer and every
    effect is that of the methods of this engine, and it runs until they have executed an exit. -/
theorem one_engine (b : Board) (before : List EntryCall) (d : Description) (after : List EntryCall)
    (hbefore : ∀ c ∈ before, c.builds = false) (hd : (EntryCall.initialise (some d)).builds = true) :
    let b' := before.foldl EntryCall.boardAfter b
    let served := (Node.fresh ⟨d, b'⟩ EngineConfig.standard).serveAll after
    (unbuilt b).callAll before = (before.map EntryCall.unready, unbuilt b')
      ∧ (unbuilt b).callAll (before ++ .initialise (some d) :: after) =
        (before.map EntryCall.unready ++ .status .ok :: served.1.answer, ofNode served.2)
      ∧ (ofNode served.2).isRunning = !served.1.records.any Performed.exits := by
  intro b' served
  have hunready := callAll_unready hbefore b
  refine ⟨hunready, ?_, flagTold_serveAll after _⟩
  rw [callAll_append, hunready]
  simp only [callAll, call_build hd, callAll_ofNode]
  rfl

/-- Failed attempts before the engine is built, one for every part that may be missing; then a start, an
    initialisation that is not heard, a status request whose report takes 40 of the buffer's 42 bytes, and
    the idle loop, which a tick does not end and an exit does. -/
theorem one_engine_exited :
    let d : Description := ⟨true, true, true, true, true, true, true, true, 200, -1, 0, 0, 0, 0⟩
    let incomplete : List Description :=
      [{ d with hasRouter := false }, { d with hasComms := false }, { d with hasTimer := false },
        { d with hasVic := false }, { d with hasMaskCallback := false },
        { d with hasRestoreCallback := false }, { d with hasWaitCallback := false }]
    let before : List EntryCall :=
      [.start, .initialise none, .isRunning] ++ incomplete.map (.initialise <| some ·)
    let buffer := CommandMessage.getStatus.toBytes ++ List.replicate 18 7
    let after : List EntryCall :=
      [.start, .initialise (some d), .initialise none, .message true true buffer 24 42,
        .run [[.interrupt .timerTick, .isRunning]]]
    let p := unbuilt Board.zeroed
    let whole := p.callAll (before ++ .initialise (some d) :: after)
    (∀ c ∈ before, c.builds = false) ∧ (EntryCall.initialise (some d)).builds = true
      ∧ (p.callAll before).1.map EntryAnswer.number? =
        [some (-3), some (-2), some 0] ++ List.replicate 7 (some (-2))
      ∧ (whole.1.drop before.length).map EntryAnswer.number? =
        [some 0, some 0, some (-4), some (-2), some 0, some 0]
      ∧ whole.1.filterMap EntryAnswer.handled? =
        [⟨.ok, some 40, [135, 255, 255, 1, 0, 0, 0, 0, 128, 0, 0, 0, 79, 0, 0, 0] ++ List.replicate 20 0
          ++ [1, 0, 0, 0, 7, 7]⟩]
      ∧ whole.2.isRunning = false := by
  intro d incomplete before buffer after p whole
  have hbefore : ∀ c ∈ before, c.builds = false := by decide
  have hd : (EntryCall.initialise (some d)).builds = true := rfl
  obtain ⟨hunready, hserved, hflag⟩ := one_engine Board.zeroed before d after hbefore hd
  have hwhole : whole = _ := hserved
  rw [show p.callAll before = _ from hunready, hwhole]
  refine ⟨hbefore, hd, by decide, by decide +kernel, by decide +kernel, hflag.trans ?_⟩
  decide

end Firmware

end PacketReinjection
