import Nowde.Spec.UsbOut

/-!
# SysEx messages in one piece

`usbOutLock` is there so that a message of several packets "stays contiguous in the queue". Time code,
full frames, `HELLO`, the log and what `sendSysExBytes` sends are enqueued under it; `RUNNING_STATE`
chunks, `ERROR_REPORT` and CC messages are not.

* `usbQueue_iff`: the SysEx messages of a run stay in one piece **exactly** when no packet but a
  real-time one meets a message underway, one of the two without the lock.
* `usbQueue_forall_iff`: in every order of the contexts exactly when, of any two messages of different contexts
  that can meet so, both senders take the lock.
* `usbQueue_of_locked`: so without those three senders every run is in order.
* `ccInAck_breaks`: a CC lands inside an `OTA_ACK`.
-/

namespace Nowde

open Sections (Contiguous Clear)

/-- **SysEx messages are contiguous**: only real-time packets stand between the packets of one. -/
def SysExContiguous (queue : List (Sections.Entry UsbContext MidiEventPacket)) : Prop :=
  Contiguous (fun p => p.isSysEx = true) (fun p => p.isRealtime = true) queue

/-- The context about to take its turn meets no SysEx message underway, unless both senders hold
`usbOutLock` around their packets. -/
def MeetsNone (s : Sections.State UsbContext MidiEventPacket) (k : UsbContext) : Prop :=
  Clear (fun p => p.isSysEx = true) (fun p => p.isRealtime = true) s k

/-- The messages whose senders take the lock, and the real-time ones, which need none. -/
def UsbMsg.isCovered : UsbMsg → Bool
  | .host (.cc ..) | .host (.runningState _) | .host (.errorReport _) => false
  | _ => true

section Queue

variable (messages : UsbContext → List UsbMsg) (turns : List UsbContext)

theorem usb_sent (m : UsbMsg) : m.usb.sent = [] := by
  cases m with
  | log text => rfl
  | host m => cases m <;> rfl

theorem usbStart_fresh : Sections.Fresh (usbStart messages) := by
  refine ⟨rfl, fun k m hm => ?_⟩
  obtain ⟨msg, -, rfl⟩ := List.mem_map.1 hm
  exact usb_sent msg

/-- **The SysEx messages of a run are contiguous** while no packet that is not real-time is enqueued
with another context in the middle of one, the sender of either not holding the lock; and in a run to
the end, **only** then. -/
theorem usbQueue_iff :
    (Mealy.Guarded Sections.step MeetsNone (usbStart messages) turns → SysExContiguous (usbQueue messages turns)) ∧
      ((∀ k, (Mealy.run Sections.step (usbStart messages) turns).1.todo k = []) →
        SysExContiguous (usbQueue messages turns) →
          Mealy.Guarded Sections.step MeetsNone (usbStart messages) turns) := by
  refine ⟨fun hnone => Sections.contiguous_of_clear (usbStart_fresh messages) hnone, fun hdone hcont => ?_⟩
  exact (Sections.contiguous_iff (usbStart_fresh messages) hdone).1 hcont

/-- A real-time packet is no packet of a SysEx message. -/
theorem not_isSysEx_of_isRealtime {p : MidiEventPacket} (h : p.isRealtime = true) : ¬p.isSysEx = true := by
  have hcin : p.header &&& 0x0F = 0x0F := by simpa [MidiEventPacket.isRealtime] using h
  unfold MidiEventPacket.isSysEx
  rw [hcin]
  decide

/-- A message with a packet that is not real-time. -/
def UsbMsg.Interrupts (m : UsbMsg) : Prop := m.usb.Interrupts fun p => p.isRealtime = true

/-- A message with a SysEx packet before its last. -/
def UsbMsg.Breakable (m : UsbMsg) : Prop := m.usb.Breakable fun p => p.isSysEx = true

/-- **In every order of the contexts the SysEx messages are contiguous exactly when**, wherever one context has a
message that is not real-time and another a SysEx message of several packets, both senders take the lock. -/
theorem usbQueue_forall_iff :
    (∀ turns, SysExContiguous (usbQueue messages turns)) ↔
      ∀ k k', k' ≠ k → ∀ m ∈ messages k, ∀ m' ∈ messages k', m.Interrupts → m'.Breakable →
        m.usb.locked = true ∧ m'.usb.locked = true := by
  refine (Sections.contiguous_forall_iff (usbStart_fresh messages)).trans ?_
  constructor
  · intro h k k' hk m hm m' hm'
    exact h k k' hk m.usb (List.mem_map_of_mem hm) m'.usb (List.mem_map_of_mem hm')
  · intro h k k' hk m hm m' hm'
    obtain ⟨msg, hmsg, rfl⟩ := List.mem_map.1 hm
    obtain ⟨msg', hmsg', rfl⟩ := List.mem_map.1 hm'
    exact h k k' hk msg hmsg msg' hmsg'

/-- A message of a covered sender is under the lock, or real-time. -/
theorem UsbMsg.locked_or_realtime {m : UsbMsg} (h : m.isCovered = true) :
    m.usb.locked = true ∨ ∀ p ∈ m.usb.sent ++ m.usb.ahead, p.isRealtime = true := by
  cases m with
  | log text => exact Or.inl rfl
  | host m =>
    cases m with
    | timeCode | fullFrame | hello | sysExBytes => exact Or.inl rfl
    | start | stop =>
      refine Or.inr fun p hp => ?_
      rw [List.mem_singleton.1 hp]
      rfl
    | cc | runningState | errorReport => cases h

/-- **Where every sender takes the lock** but those of real-time messages, all runs are contiguous. -/
theorem usbQueue_of_locked (h : ∀ k, ∀ m ∈ messages k, m.isCovered = true) :
    SysExContiguous (usbQueue messages turns) := by
  refine (usbQueue_forall_iff messages).2 (fun k k' hk m hm m' hm' hinterrupts hbreakable => ⟨?_, ?_⟩) turns
  · obtain ⟨p, hp, hslow⟩ := hinterrupts
    exact (UsbMsg.locked_or_realtime (h k m hm)).resolve_right fun hall => hslow (hall p hp)
  · obtain ⟨l₁, a, b, l₂, hpackets, hsysex⟩ := hbreakable
    refine (UsbMsg.locked_or_realtime (h k' m' hm')).resolve_right fun hall => ?_
    exact not_isSysEx_of_isRealtime (hall a (by rw [hpackets]; simp)) hsysex

end Queue

/-! ## A message broken -/

/-- The MIDI task acknowledges a chunk of an update, and the ESP-NOW task finds the link lost. -/
def ackAndLinkLoss : UsbContext → List UsbMsg
  | .midiTask => [.host (.sysExBytes [sysexStart, sysexManufacturerId, sysexCmdOtaAck, 0, 0, sysexEnd])]
  | .espnowTask => [.host (.cc 100 0)]
  | .recvCallback => []

/-- **The CC comes between the packets** of the acknowledgement, which holds the lock. -/
theorem ccInAck_breaks :
    ¬∀ (messages : UsbContext → List UsbMsg) (turns : List UsbContext), SysExContiguous (usbQueue messages turns) := by
  intro hall
  have hqueue : usbQueue ackAndLinkLoss [.midiTask, .midiTask, .espnowTask, .midiTask] =
      [] ++ ⟨.midiTask, 1, ⟨0x04, 0xF0, 0x7D, 0x23⟩⟩ :: [⟨.espnowTask, 1, ⟨0x0B, 0xB0, 100, 0⟩⟩] ++
        ⟨.midiTask, 1, ⟨0x07, 0, 0, 0xF7⟩⟩ :: [] := rfl
  rcases hall _ _ [] _ _ _ [] hqueue ⟨rfl, rfl⟩ rfl _ (List.mem_singleton_self _) with ⟨hcontext, -⟩ | hrealtime
  · cases hcontext
  · exact absurd hrealtime (by decide)

end Nowde
