import Nowde.Lib.Lines
import Nowde.Spec.UsbOut
import Nowde.Spec.UsbPump

/-!
# The log over USB (`usb_out.cpp`)

On the composite build whatever is printed goes to a ring of bytes. The MIDI task takes them out in chunks,
cuts them into lines and enqueues each as a LOG frame, while a host has enabled the log. The ring is FreeRTOS's:
a send takes all the bytes or none, and a chunk taken out keeps its room until it is given back. How full
the output queue is at each packet is given from outside: every context enqueues there.
-/

namespace Nowde

/-- `LOG_RING_BYTES`. -/
def logRingBytes : ℕ := 8192
/-- `LOG_LINE_MAX`. -/
def logLineMax : ℕ := 100
/-- The most that one `xRingbufferReceiveUpTo` gives. -/
def logChunkMax : ℕ := 128

/-- The statics of the log, and the chunk that `pumpLog` has taken out. -/
structure UsbLog where
  logRing : List UInt8 := []
  item : List UInt8 := []
  logEnabled : Bool := false
  logHistory : Bool := true
  lineBuf : List UInt8 := []

/-- One step of one context. -/
inductive UsbLogStep
  /-- `UsbLog::write(buffer, size)`, of any context. -/
  | write (buffer : List UInt8)
  /-- `usbOutLogEnable(on)`. -/
  | enable (on : Bool)
  /-- `xRingbufferReceiveUpTo` in `pumpLog`, which gives `n` bytes. -/
  | receive (n : ℕ)
  /-- The rest of the round of `pumpLog`: at packet `i` of its LOG frame `k` the queue holds `queued k i`. -/
  | giveBack (queued : ℕ → ℕ → ℕ)

/-- Printable ASCII: `c == '\r' || c < 0x20 || c >= 0x80` is skipped. -/
def loggable (c : UInt8) : Bool := c ≠ 0x0D ∧ ¬c < 0x20 ∧ ¬c ≥ 0x80

/-- One byte of a chunk in `pumpLog`, with the line buffer: the lines it enqueues. -/
def logByte (lineBuf : List UInt8) (c : UInt8) : List UInt8 × List (List UInt8) :=
  let full := c = 0x0A ∨ lineBuf.length ≥ logLineMax
  let sent := if full ∧ lineBuf.length > 0 then [lineBuf] else []
  let lineBuf := if full then [] else lineBuf
  if c = 0x0A then (lineBuf, sent)
  else if loggable c then (lineBuf ++ [c], sent)
  else (lineBuf, sent)

/-- A call of `enqueueLogFrame`: the text, and how many packets `midiQueue` holds at each `usbOutMidi`. -/
structure LogFrame where
  text : List UInt8
  queued : ℕ → ℕ

/-- `enqueueLogFrame(text, len)`: the packets that it enqueues. A full queue ends the frame. -/
def LogFrame.enqueued (f : LogFrame) : List MidiEventPacket :=
  ((logPackets f.text).zipIdx.takeWhile fun p => f.queued p.2 < midiQueuePackets).map Prod.fst

/-- `UsbLog::write(buffer, size)`: what it returns is whether it took the bytes. -/
def usbLogWrite (s : UsbLog) (buffer : List UInt8) : UsbLog × Bool :=
  if buffer.length = 0 then (s, false)
  else if s.logRing.length + s.item.length + buffer.length ≤ logRingBytes then
    ({ s with logRing := s.logRing ++ buffer }, true)
  else (s, false)

/-- One step, and its calls of `enqueueLogFrame`. -/
def UsbLog.step (s : UsbLog) : UsbLogStep → UsbLog × List LogFrame
  | .write buffer => ((usbLogWrite s buffer).1, [])
  | .enable on => ({ s with logEnabled := on, logHistory := false }, [])
  | .receive n =>
    -- nobody listens yet: the boot log is kept for later
    if ¬s.logEnabled ∧ s.logHistory then (s, [])
    else if s.item = [] then
      let n := min n logChunkMax
      ({ s with logRing := s.logRing.drop n, item := s.logRing.take n }, [])
    else (s, [])
  | .giveBack queued =>
    if s.logEnabled then
      let r := Mealy.run logByte s.lineBuf s.item
      ({ s with item := [], lineBuf := r.1 }, r.2.zipIdx.map fun line => ⟨line.1, queued line.2⟩)
    else ({ s with item := [] }, [])

end Nowde
