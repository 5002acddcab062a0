import Nowde.Lib.Channel
import Nowde.Spec.State

/-!
# The USB output queue (`usb_out.cpp`)

`usbOutMidi` may be called by any context at any moment. `usbOutPump` runs in the MIDI task only
and takes its steps one by one: it receives the head, offers it to the TinyUSB FIFO, and on a
refusal either puts it back or drops the queue. The packets are numbered as they are accepted,
so that two equal packets stay apart.
-/

namespace Nowde

open Channel (Entry)

/-- `MIDI_QUEUE_PACKETS`. -/
def midiQueuePackets : ℕ := 1024

/-- `USB_STALL_DROP_MS`. -/
def usbStallDropMs : UInt32 := 200

/-- The packets `usbOutPump` may take in one call. -/
def pumpBudget : ℕ := 64

/-- Where the MIDI task stands in `usbOutPump()`. -/
inductive PumpAt
  /-- Not in the pump. -/
  | outside
  /-- Before the loop's condition, with this much budget left. -/
  | loop (budget : ℕ)
  /-- `xQueueReceive` gave the packet: `writePacket` is next. -/
  | write (budget : ℕ) (packet : Entry MidiEventPacket)
  /-- `writePacket` refused: `millis()` is read next. -/
  | refused (packet : Entry MidiEventPacket)
  /-- `xQueueSendToFront` is next. -/
  | putBack (packet : Entry MidiEventPacket)
  /-- `xQueueReset` is next. -/
  | reset (packet : Entry MidiEventPacket)

/-- The packet the pump has in hand. -/
def PumpAt.held : PumpAt → List (Entry MidiEventPacket)
  | .outside => []
  | .loop _ => []
  | .write _ packet => [packet]
  | .refused packet => [packet]
  | .putBack packet => [packet]
  | .reset packet => [packet]

/-- The statics of `usb_out.cpp` and of `usbOutPump`, with the true time and the number of packets
accepted so far. A queue not created yet is `none`. -/
structure UsbOut where
  midiQueue : Option (List (Entry MidiEventPacket)) := none
  pump : PumpAt := .outside
  stalledSince : UInt32 := 0
  time : ℕ := 0
  accepted : ℕ := 0

/-- One step of one context, or time passing. -/
inductive UsbStep
  | usbOutInit
  | usbOutMidi (packet : MidiEventPacket)
  /-- The pump's next step; `taken` is the FIFO's answer if that is `writePacket`. -/
  | usbOutPump (taken : Bool)
  | wait (ms : ℕ)

/-- What can be observed of the queue. -/
inductive UsbNote
  /-- `usbOutMidi` returned true. -/
  | accepted (packet : Entry MidiEventPacket)
  /-- `MIDI.writePacket`, with its answer and the time. -/
  | write (packet : Entry MidiEventPacket) (taken : Bool) (time : ℕ)
  /-- `xQueueReset`, with what it and the pump drop. -/
  | reset (dropped : List (Entry MidiEventPacket)) (time : ℕ)

/-- `usbOutMidi(packet)`: `xQueueSend` with no wait. -/
def usbOutMidi (s : UsbOut) (packet : MidiEventPacket) : UsbOut × List UsbNote :=
  match s.midiQueue with
  | none => (s, [])
  | some queue =>
    if queue.length < midiQueuePackets then
      ({ s with midiQueue := some (queue ++ [(s.accepted, packet)]), accepted := s.accepted + 1 },
        [.accepted (s.accepted, packet)])
    else (s, [])

/-- The next step of `usbOutPump()`. -/
def usbOutPump (s : UsbOut) (taken : Bool) : UsbOut × List UsbNote :=
  match s.pump with
  | .outside => ({ s with pump := .loop pumpBudget }, [])
  | .loop budget =>
    match budget, s.midiQueue with
    | budget + 1, some (packet :: queue) =>
      ({ s with midiQueue := some queue, pump := .write budget packet }, [])
    | _, _ => ({ s with pump := .outside }, [])
  | .write budget packet =>
    if taken then
      ({ s with stalledSince := 0, pump := .loop budget }, [.write packet true s.time])
    else ({ s with pump := .refused packet }, [.write packet false s.time])
  | .refused packet =>
    let now := UInt32.ofNat s.time
    if s.stalledSince = 0 then ({ s with stalledSince := now, pump := .putBack packet }, [])
    else if now - s.stalledSince > usbStallDropMs then ({ s with pump := .reset packet }, [])
    else ({ s with pump := .putBack packet }, [])
  | .putBack packet =>
    match s.midiQueue with
    | none => ({ s with pump := .outside }, [])
    | some queue =>
      -- a full queue refuses the packet, and the result is not looked at
      if queue.length < midiQueuePackets then
        ({ s with midiQueue := some (packet :: queue), pump := .outside }, [])
      else ({ s with pump := .outside }, [])
  | .reset packet =>
    ({ s with midiQueue := s.midiQueue.map (fun _ => []), pump := .outside },
      [.reset (packet :: s.midiQueue.getD []) s.time])

/-- One step of the system around the queue. -/
def usbStep (s : UsbOut) : UsbStep → UsbOut × List UsbNote
  | .usbOutInit => (if s.midiQueue.isNone then { s with midiQueue := some [] } else s, [])
  | .usbOutMidi packet => usbOutMidi s packet
  | .usbOutPump taken => usbOutPump s taken
  | .wait ms => ({ s with time := s.time + ms }, [])

end Nowde
