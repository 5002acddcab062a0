import Nowde.Spec.Sysex

/-!
# USB input (`midi.cpp`)

`midiProcess` reads USB-MIDI packets one by one, puts SysEx frames back together and hands each
complete one to `handleSysExMessage`, whose length parameter is a `uint8_t`.
-/

namespace Nowde

/-- `SYSEX_BUFFER_SIZE`. -/
def sysexBufferSize : ℕ := 512

/-- `hostLinked()`. -/
def hostLinked (now lastHostRxTime : UInt32) : Bool :=
  lastHostRxTime ≠ 0 ∧ now - lastHostRxTime < hostLinkTimeoutMs

/-- `dataBytes` of a SysEx code index number, 0 for the others. -/
def cinDataBytes (cin : UInt8) : ℕ :=
  if cin = 0x4 then 3 else if cin = 0x5 then 1 else if cin = 0x6 then 2 else if cin = 0x7 then 3 else 0

/-- One byte into the buffer; a full buffer only notes the overflow. -/
def SysexParser.push (s : SysexParser) (b : UInt8) : SysexParser :=
  if s.buffer.length < sysexBufferSize then { s with buffer := s.buffer ++ [b] }
  else { s with sysexOverflow := true }

/-- The byte loop: up to the first `F7`, which ends the frame and resets the parser. The frame
is handed on unless it overflowed. -/
def SysexParser.feed (s : SysexParser) : List UInt8 → SysexParser × Option (List UInt8)
  | [] => (s, none)
  | b :: bs =>
    let s := s.push b
    if b = sysexEnd then ({}, if s.sysexOverflow then none else some s.buffer) else feed s bs

/-- `F0` in `byte1` starts a frame over; the overflow mark stays. -/
def SysexParser.begin (s : SysexParser) (byte1 : UInt8) : SysexParser :=
  if byte1 = sysexStart then { s with inSysex := true, buffer := [] } else s

/-- The parser on one packet. -/
def SysexParser.packet (s : SysexParser) (p : MidiEventPacket) : SysexParser × Option (List UInt8) :=
  let dataBytes := cinDataBytes (p.header &&& 0x0F)
  if dataBytes > 0 then
    let s := s.begin p.byte1
    if s.inSysex then s.feed ([p.byte1, p.byte2, p.byte3].take dataBytes) else (s, none)
  else (s, none)

/-- The loop body of `midiProcess()`. -/
def midiPacket (lib : UpdateLib) (env : Env) (n : Node) (p : MidiEventPacket) : Node × List Out :=
  let r := n.parser.packet p
  let n := { n with
    hostResumed := if hostLinked env.millis n.lastHostRxTime then n.hostResumed else true
    lastHostRxTime := env.millis
    parser := r.1 }
  match r.2 with
  | none => (n, [])
  | some message => handleSysExMessage lib env n message (UInt8.ofNat message.length)

/-- `midiProcess()` on the packets waiting, each read at its own instant. -/
def midiProcess (lib : UpdateLib) (n : Node) (packets : List (Env × MidiEventPacket)) : Node × List Out :=
  packets.foldl (fun r p => let m := midiPacket lib p.1 r.1 p.2; (m.1, r.2 ++ m.2)) (n, [])

end Nowde
