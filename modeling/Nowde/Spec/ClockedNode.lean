import Nowde.Spec.MeshClock
import Nowde.Spec.Task

/-!
# A node and its mesh clock

The receive callback shows each frame to the mesh clock first, the ESP-NOW task ends each round with the
clock's loop, and what the handlers read of the mesh time and of the sync state is read from the clock.
-/

namespace Nowde

/-- A node with its mesh clock. -/
structure ClockedNode where
  node : Node
  clock : MeshClock := {}

/-- What the timers show while a handler runs. -/
structure Timers where
  millis : UInt32
  micros : UInt64

/-- What can happen to a node with a clock; `draw` is the number behind the clock's `random`. -/
inductive ClockedEvent
  | radio (env : Env) (src : Mac) (data : List UInt8)
  | usb (env : Env) (packet : MidiEventPacket)
  | task (env : Env) (draw : ℕ)

namespace ClockedNode

variable (lib : UpdateLib) (build : Build) (t : Timers) (c : ClockedNode)

/-- What the handlers read: the times are the timers' and the clock's. -/
def env (env : Env) : Env :=
  { env with
    millis := t.millis
    meshMillis := fun _ => c.clock.meshMillis t.micros
    syncState := c.clock.getSyncState t.millis }

/-- The event as the node without a clock sees it. -/
def event : ClockedEvent → Event
  | .radio env src data => .radio (c.env t env) src data
  | .usb env packet => .usb (c.env t env) packet
  | .task env _ => .task (c.env t env)

/-- The clock after the event, and the beacon it sends; `out` is what the node sends. -/
def clockAfter (out : List Out) : ClockedEvent → MeshClock × Option (List UInt8)
  | .radio _ _ data =>
    (if data.length < 1 then c.clock else (c.clock.handleReceive t.micros t.millis data).1, none)
  | .usb .. => (c.clock, none)
  | .task _ draw =>
    let clock := if Out.meshClockReset ∈ out then c.clock.reset else c.clock
    clock.loop t.millis draw fun _ => clock.meshMicros t.micros

/-- One event, with the reboot it may bring. -/
def step (e : ClockedEvent) : ClockedNode × List Out × Option (List UInt8) :=
  let r := c.node.step lib build (c.event t e)
  if reboots r.2 then (⟨r.1, {}⟩, r.2, none)
  else
    let k := c.clockAfter t r.2 e
    (⟨r.1, k.1⟩, r.2, k.2)

end ClockedNode

end Nowde
