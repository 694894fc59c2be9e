import PacketReinjection.Event
import PacketReinjection.Platform

/-!
# `Routine` — handlers as data

A handler is a tree: it ends, or it takes one step and goes on with what the step gave. A step is a
call on the hardware, an access to the engine's memory, or an event for the log. The tree is finite
along every path, runs over every platform, and shows each point at which another handler may come in
between.

## Contents
- **`Step`**, **`Routine`** — the tree, a lawful monad.
- **Single steps.** One routine per call, access and event.
- **`withFastMasked`** — a routine with the fast interrupt masked around it.
- **`Node`** and **`Routine.run`** — an engine on its hardware, and a routine running there.
-/

namespace PacketReinjection

/-- One step of a routine. -/
inductive Step where
  | call (c : Call)
  | access (a : Access)
  | log (e : Event)

/-- The type of what a step gives. -/
@[reducible]
def Step.Result : Step → Type
  | .call c => c.Answer
  | .access a => a.Result
  | .log _ => Unit

/-- A handler that ends with a value of type `α`. -/
inductive Routine (α : Type) where
  | done (a : α)
  | step (s : Step) (next : s.Result → Routine α)

namespace Routine

variable {α β γ : Type}

/-- Go on with a second routine after the first. -/
protected def bind : Routine α → (α → Routine β) → Routine β
  | done a, f => f a
  | step s next, f => step s fun r => (next r).bind f

instance : Monad Routine where
  pure := done
  bind := Routine.bind

theorem pure_eq_done (a : α) : (pure a : Routine α) = done a := rfl

theorem bind_eq (x : Routine α) (f : α → Routine β) : (x >>= f) = x.bind f := rfl

theorem bind_done (x : Routine α) : x.bind done = x := by
  induction x with
  | done a => rfl
  | step s next ih => simp only [Routine.bind, ih]

theorem bind_bind (x : Routine α) (f : α → Routine β) (g : β → Routine γ) :
    (x.bind f).bind g = x.bind fun a => (f a).bind g := by
  induction x with
  | done a => rfl
  | step s next ih => simp only [Routine.bind, ih]

instance : LawfulMonad Routine :=
  LawfulMonad.mk' Routine bind_done (fun _ _ => rfl) bind_bind

/-! ## Single steps -/

/-- Take one step and end with what it gave. -/
def take (s : Step) : Routine s.Result := step s done

/-- Read a router register. -/
def readRouter (r : RouterRegister) : Routine UInt32 := take (.call (.readRouter r))

/-- Write a router register. -/
def writeRouter (r : RouterRegister) (value : UInt32) : Routine Unit :=
  take (.call (.writeRouter r value))

/-- Read a register of the comms controller. -/
def readComms (r : CommsRegister) : Routine UInt32 := take (.call (.readComms r))

/-- Write a register of the comms controller. -/
def writeComms (r : CommsRegister) (value : UInt32) : Routine Unit :=
  take (.call (.writeComms r value))

/-- Write a timer register. -/
def writeTimer (r : TimerRegister) (value : UInt32) : Routine Unit :=
  take (.call (.writeTimer r value))

/-- Write a register of the interrupt controller. -/
def writeVic (r : VicRegister) (value : UInt32) : Routine Unit :=
  take (.call (.writeVic r value))

/-- Mask the fast interrupt. -/
def maskFast : Routine UInt32 := take (.call .maskFast)

/-- Restore the state of the fast interrupt. -/
def restoreFast (saved : UInt32) : Routine Unit := take (.call (.restoreFast saved))

/-- The processor clock in megahertz. -/
def readClock : Routine UInt32 := take (.call .readClock)

/-- Route a line to its handler. -/
def bindInterrupt (source : InterruptSource) : Routine Unit := take (.call (.bind source))

/-- Sleep until an interrupt has been serviced. -/
def waitForInterrupt : Routine Unit := take (.call .wait)

/-- Access the engine's memory. -/
def access (a : Access) : Routine a.Result := take (.access a)

/-- Log an event. -/
def log (e : Event) : Routine Unit := take (.log e)

/-- End the interrupt in progress. -/
def acknowledge : Routine Unit := writeVic .vectorAddress 0

/-- Run `body` with the fast interrupt masked, and restore afterwards what was there before. -/
def withFastMasked (body : Routine α) : Routine α := do
  let saved ← maskFast
  let result ← body
  restoreFast saved
  return result

/-- Run `body` inside `depth` masked sections, one in the other. -/
def nestFastMasked (body : Routine α) : Nat → Routine α
  | 0 => body
  | depth + 1 => withFastMasked (nestFastMasked body depth)

end Routine

/-! ## Running -/

/-- An engine on its hardware, with the log so far, oldest event first. -/
structure Node (S : Type) where
  hardware : S
  engine : Engine
  events : List Event

namespace Node

/-- A node before start-up. -/
def fresh {S : Type} (hardware : S) (config : EngineConfig) : Node S :=
  ⟨hardware, Engine.fresh config, []⟩

variable {S : Type} [Platform S]

/-- Take one step on a node. -/
def take : (s : Step) → Node S → s.Result × Node S
  | .call c, n => let r := Platform.call c n.hardware; (r.1, { n with hardware := r.2 })
  | .access a, n => let r := a.apply n.engine; (r.1, { n with engine := r.2 })
  | .log e, n => ((), { n with events := n.events ++ [e] })

end Node

namespace Routine

variable {S : Type} [Platform S] {α β : Type}

/-- Run a routine on a node, step by step. -/
def run : Routine α → Node S → α × Node S
  | done a, n => (a, n)
  | step s next, n => let r := n.take s; (next r.1).run r.2

theorem run_pure (a : α) (n : Node S) : (pure a : Routine α).run n = (a, n) := rfl

theorem run_bind (x : Routine α) (f : α → Routine β) (n : Node S) :
    (x >>= f).run n = let r := x.run n; (f r.1).run r.2 := by
  rw [bind_eq]
  induction x generalizing n with
  | done a => rfl
  | step s next ih => exact ih _ _

theorem run_take (s : Step) (n : Node S) : (take s).run n = n.take s := rfl

end Routine

end PacketReinjection
