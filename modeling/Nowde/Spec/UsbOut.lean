import Nowde.Lib.Sections
import Nowde.Spec.Tools

/-!
# USB output (`usb_out.cpp`, `midi.cpp`, `sysex.cpp`)

Three contexts enqueue USB-MIDI packets for the host: the MIDI task, the ESP-NOW task and the ESP-NOW
receive callback. Some senders hold `usbOutLock` around their packets. Each message is given as
its packets, in order, with what its sender does about the lock.
-/

namespace Nowde

open Sections (Message)

/-! ## Time code -/

/-- `Smpte`. -/
structure Smpte where
  frames : UInt8
  seconds : UInt8
  minutes : UInt8
  hours : UInt8

/-- `toSmpte(positionMs)`. -/
def toSmpte (positionMs : UInt32) : Smpte :=
  let totalFrames := positionMs * mtcFramerate / 1000
  { frames := (totalFrames % mtcFramerate).toUInt8
    seconds := (totalFrames / mtcFramerate % 60).toUInt8
    minutes := (totalFrames / (mtcFramerate * 60) % 60).toUInt8
    hours := (totalFrames / (mtcFramerate * 3600) % 24).toUInt8 }

/-- `sendQuarterFrame(piece, nibble)`. -/
def quarterFrame (piece nibble : UInt8) : MidiEventPacket :=
  ⟨0x02, 0xF1, (piece <<< 4) ||| (nibble &&& 0x0F), 0⟩

/-- The eight pieces of `midiSendTimeCode(positionMs)`; the rate code is 3, 30 fps. -/
def timeCodePackets (positionMs : UInt32) : List MidiEventPacket :=
  let t := toSmpte positionMs
  let framerateCode : UInt8 := 3
  [quarterFrame 0 (t.frames &&& 0x0F), quarterFrame 1 ((t.frames >>> 4) &&& 0x01),
    quarterFrame 2 (t.seconds &&& 0x0F), quarterFrame 3 ((t.seconds >>> 4) &&& 0x03),
    quarterFrame 4 (t.minutes &&& 0x0F), quarterFrame 5 ((t.minutes >>> 4) &&& 0x03),
    quarterFrame 6 (t.hours &&& 0x0F), quarterFrame 7 (((t.hours >>> 4) &&& (0x01 : UInt8)) ||| (framerateCode <<< 1))]

/-- The packets of `midiSendFullFrame(positionMs)`: `F0 7F 7F 01 01 hh mm ss ff F7`. -/
def fullFramePackets (positionMs : UInt32) : List MidiEventPacket :=
  let t := toSmpte positionMs
  [⟨0x04, 0xF0, 0x7F, 0x7F⟩, ⟨0x04, 0x01, 0x01, ((3 : UInt8) <<< 5) ||| (t.hours &&& 0x1F)⟩,
    ⟨0x04, t.minutes, t.seconds, t.frames⟩, ⟨0x05, 0xF7, 0, 0⟩]

/-! ## SysEx -/

/-- The send loop of `sendHello()` and `sendRunningState()`: it looks for `F7` in each three bytes. -/
def endPackets : List UInt8 → List MidiEventPacket
  | [] => []
  | [a] => if a = sysexEnd then [⟨0x05, a, 0, 0⟩] else [⟨0x04, a, 0, 0⟩]
  | [a, b] =>
    if a = sysexEnd then ⟨0x05, a, 0, 0⟩ :: endPackets [b]
    else if b = sysexEnd then [⟨0x06, a, b, 0⟩]
    else [⟨0x04, a, b, 0⟩]
  | a :: b :: c :: rest =>
    if a = sysexEnd then ⟨0x05, a, 0, 0⟩ :: endPackets (b :: c :: rest)
    else if b = sysexEnd then ⟨0x06, a, b, 0⟩ :: endPackets (c :: rest)
    else if c = sysexEnd then ⟨0x07, a, b, c⟩ :: endPackets rest
    else ⟨0x04, a, b, c⟩ :: endPackets rest

/-- The packets of `sendHello()`. -/
def helloPackets (message : List UInt8) : List MidiEventPacket := endPackets message

/-- The packets of one chunk of `sendRunningState()`. -/
def runningStatePackets (message : List UInt8) : List MidiEventPacket := endPackets message

/-- The packets of `sendSysExBytes(message, len)`, cut as the host's driver cuts its own. -/
def sysExBytesPackets (message : List UInt8) : List MidiEventPacket := Host.sysexPackets message

/-- The send loop of `sendErrorReport()` after its first packet: only an `F7` left alone gets a code of
its own. -/
def errorReportTail : List UInt8 → List MidiEventPacket
  | [] => []
  | [a] => if a = sysexEnd then [⟨0x05, a, 0, 0⟩] else [⟨0x04, a, 0, 0⟩]
  | [a, b] => [⟨0x04, a, b, 0⟩]
  | a :: b :: c :: rest => ⟨0x04, a, b, c⟩ :: errorReportTail rest

/-- The packets of `sendErrorReport()`. -/
def errorReportPackets : List UInt8 → List MidiEventPacket
  | [] => []
  | [a] => [⟨0x04, a, 0, 0⟩]
  | [a, b] => [⟨0x04, a, b, 0⟩]
  | a :: b :: c :: rest => ⟨0x04, a, b, c⟩ :: errorReportTail rest

/-- The bytes of `enqueueLogFrame(text, len)`. -/
def logMessage (text : List UInt8) : List UInt8 :=
  [sysexStart, sysexManufacturerId, sysexCmdLog] ++ text.map (· &&& 0x7F) ++ [sysexEnd]

/-- The packets of `enqueueLogFrame(text, len)`. -/
def logPackets (text : List UInt8) : List MidiEventPacket := Host.sysexPackets (logMessage text)

/-! ## Messages -/

/-- A message to the host, or a line of the log. -/
inductive UsbMsg
  | host (m : HostMsg)
  | log (text : List UInt8)

/-- **What is enqueued for a message**, and whether under `usbOutLock`. -/
def HostMsg.usb : HostMsg → Message MidiEventPacket
  | .cc number value => { locked := false, ahead := [⟨0x0B, 0xB0, number &&& 0x7F, value &&& 0x7F⟩] }
  | .timeCode positionMs => { locked := true, ahead := timeCodePackets positionMs }
  | .fullFrame positionMs => { locked := true, ahead := fullFramePackets positionMs }
  | .start => { locked := false, ahead := [⟨0x0F, 0xFA, 0, 0⟩] }
  | .stop => { locked := false, ahead := [⟨0x0F, 0xFC, 0, 0⟩] }
  | .hello message => { locked := true, ahead := helloPackets message }
  | .sysExBytes message => { locked := true, ahead := sysExBytesPackets message }
  | .runningState message => { locked := false, ahead := runningStatePackets message }
  | .errorReport message => { locked := false, ahead := errorReportPackets message }

def UsbMsg.usb : UsbMsg → Message MidiEventPacket
  | .host m => m.usb
  | .log text => { locked := true, ahead := logPackets text }

/-! ## Contexts -/

/-- The contexts that enqueue. -/
inductive UsbContext
  | midiTask
  | espnowTask
  | recvCallback
deriving DecidableEq

/-- The three contexts, each with its messages before it, and the lock free. -/
def usbStart (messages : UsbContext → List UsbMsg) : Sections.State UsbContext MidiEventPacket where
  todo k := (messages k).map UsbMsg.usb

/-- The queue once the contexts have taken their turns as `turns` says. -/
def usbQueue (messages : UsbContext → List UsbMsg) (turns : List UsbContext) :
    List (Sections.Entry UsbContext MidiEventPacket) :=
  (Mealy.run Sections.step (usbStart messages) turns).2

/-- A packet of a SysEx message, by its code index number. -/
def MidiEventPacket.isSysEx (p : MidiEventPacket) : Bool := 0 < cinDataBytes (p.header &&& 0x0F)

/-- A single-byte real-time packet. -/
def MidiEventPacket.isRealtime (p : MidiEventPacket) : Bool := p.header &&& 0x0F = 0x0F

end Nowde
