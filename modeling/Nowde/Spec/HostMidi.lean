import Nowde.Spec.UsbOut

/-!
# What the host reads (`tools/nowde-cli.py`)

The host's driver puts messages back together from USB-MIDI packets by their code index numbers. The
tool's `Node._on` shows the timecode of MTC quarter-frames and full frames.
-/

namespace Nowde

/-- **The complete messages of a packet sequence**, `begun` being the SysEx bytes so far: a packet of
code 5, 6 or 7 ends a SysEx message. -/
def usbMessages (begun : List UInt8) : List MidiEventPacket → List (List UInt8)
  | [] => []
  | p :: rest =>
    let cin := p.header &&& 0x0F
    if cin = 0x04 then usbMessages (begun ++ [p.byte1, p.byte2, p.byte3]) rest
    else if cin = 0x05 then (begun ++ [p.byte1]) :: usbMessages [] rest
    else if cin = 0x06 then (begun ++ [p.byte1, p.byte2]) :: usbMessages [] rest
    else if cin = 0x07 then (begun ++ [p.byte1, p.byte2, p.byte3]) :: usbMessages [] rest
    else if cin = 0x02 then [p.byte1, p.byte2] :: usbMessages begun rest
    else if cin = 0x0B then [p.byte1, p.byte2, p.byte3] :: usbMessages begun rest
    else if cin = 0x0F then [p.byte1] :: usbMessages begun rest
    else usbMessages begun rest

section Packets

variable (begun : List UInt8) (a b c : UInt8) (rest : List MidiEventPacket)

@[simp] theorem usbMessages_nil : usbMessages begun [] = [] := rfl

@[simp] theorem usbMessages_more :
    usbMessages begun (⟨0x04, a, b, c⟩ :: rest) = usbMessages (begun ++ [a, b, c]) rest := by
  simp [usbMessages, show (4 : UInt8) &&& 15 = 4 from rfl]

@[simp] theorem usbMessages_one :
    usbMessages begun (⟨0x05, a, b, c⟩ :: rest) = (begun ++ [a]) :: usbMessages [] rest := by
  simp [usbMessages, show (5 : UInt8) &&& 15 = 5 from rfl]

@[simp] theorem usbMessages_two :
    usbMessages begun (⟨0x06, a, b, c⟩ :: rest) = (begun ++ [a, b]) :: usbMessages [] rest := by
  simp [usbMessages, show (6 : UInt8) &&& 15 = 6 from rfl]

@[simp] theorem usbMessages_three :
    usbMessages begun (⟨0x07, a, b, c⟩ :: rest) = (begun ++ [a, b, c]) :: usbMessages [] rest := by
  simp [usbMessages, show (7 : UInt8) &&& 15 = 7 from rfl]

@[simp] theorem usbMessages_common :
    usbMessages begun (⟨0x02, a, b, c⟩ :: rest) = [a, b] :: usbMessages begun rest := by
  simp [usbMessages, show (2 : UInt8) &&& 15 = 2 from rfl]

end Packets

namespace Host

/-- A timecode as the tool shows it. -/
@[ext]
structure Timecode where
  hr : ℕ
  mn : ℕ
  sec : ℕ
  fr : ℕ
deriving DecidableEq

/-- `Node._on` on a quarter-frame message; piece 7 shows the timecode of all eight. -/
def onQuarterFrame (qf : ℕ → UInt8) (frameType frameValue : UInt8) : (ℕ → UInt8) × Option Timecode :=
  let qf := Function.update qf frameType.toNat frameValue
  (qf, if frameType = 7 then
    some { hr := (qf 6 ||| ((qf 7 &&& 1) <<< 4)).toNat
           mn := (qf 4 ||| (qf 5 <<< 4)).toNat
           sec := (qf 2 ||| (qf 3 <<< 4)).toNat
           fr := (qf 0 ||| (qf 1 <<< 4)).toNat }
    else none)

/-- `Node._on` on the data of a SysEx message: a full frame is shown. -/
def onSysex (data : List UInt8) : Option Timecode :=
  if data.length = 8 ∧ data.take 4 = [127, 127, 1, 1] then
    some { hr := (byteAt data 4 &&& 0x1F).toNat, mn := (byteAt data 5).toNat
           sec := (byteAt data 6).toNat, fr := (byteAt data 7).toNat }
  else none

/-- `Node._on(msg)`, of the MTC messages. -/
def on (qf : ℕ → UInt8) : List UInt8 → (ℕ → UInt8) × Option Timecode
  | [] => (qf, none)
  | status :: data =>
    if status = 0xF1 then onQuarterFrame qf (byteAt data 0 >>> 4) (byteAt data 0 &&& 0x0F)
    else if status = 0xF0 then (qf, onSysex data.dropLast)
    else (qf, none)

/-- The timecodes shown for a sequence of messages. -/
def shown (qf : ℕ → UInt8) : List (List UInt8) → List Timecode
  | [] => []
  | msg :: rest => (on qf msg).2.toList ++ shown (on qf msg).1 rest

end Host

end Nowde
