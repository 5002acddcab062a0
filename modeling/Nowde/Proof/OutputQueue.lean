import Nowde.Lib.Clock
import Nowde.Spec.UsbPump

/-!
# The output queue keeps packets in order

`channel` maps the queue with the packet in the pump's hand to a channel of `Lib.Channel`: a
packet taken by the FIFO is delivered, a reset discards, and putting a packet back changes nothing
as long as the queue has room for it. A put-back into a full queue is the one step that loses a
packet.
-/

namespace Nowde

open Channel (Entry)

/-! ## The record -/

def UsbNote.accepts : UsbNote → List (Entry MidiEventPacket)
  | .accepted packet => [packet]
  | _ => []

def UsbNote.handsOver : UsbNote → List (Entry MidiEventPacket)
  | .write packet true _ => [packet]
  | _ => []

def UsbNote.drops : UsbNote → List (Entry MidiEventPacket)
  | .reset dropped _ => dropped
  | _ => []

/-- The packets `usbOutMidi` accepted. -/
def acceptedPackets (log : List UsbNote) : List (Entry MidiEventPacket) := log.flatMap UsbNote.accepts

/-- The packets the FIFO took. -/
def handedOver (log : List UsbNote) : List (Entry MidiEventPacket) := log.flatMap UsbNote.handsOver

/-- The packets that went with a reset of the whole queue. -/
def droppedPackets (log : List UsbNote) : List (Entry MidiEventPacket) := log.flatMap UsbNote.drops

/-- Every write of the record was refused. -/
def AllRefused (log : List UsbNote) : Prop := ∀ packet taken time, UsbNote.write packet taken time ∈ log → taken = false

/-- A write was refused at `since` and so was every one after it. -/
def RefusedSince (log : List UsbNote) (since : ℕ) : Prop :=
  ∃ before packet after, log = before ++ UsbNote.write packet false since :: after ∧ AllRefused after

/-- Every write has been refused for more than `USB_STALL_DROP_MS`. -/
def Stalled (log : List UsbNote) (now : ℕ) : Prop := ∃ since, RefusedSince log since ∧ since + usbStallDropMs.toNat < now

/-- **The queue keeps its packets**: what the FIFO took is a subsequence of what was accepted, no
packet twice; each accepted packet was handed over, is held, is queued or went with a reset; and
each reset ended a stall. -/
structure KeepsPackets (s : UsbOut) (log : List UsbNote) : Prop where
  inOrder : (handedOver log).Sublist (acceptedPackets log)
  once : (acceptedPackets log).Nodup
  kept : (acceptedPackets log).Perm
    (handedOver log ++ (s.pump.held ++ s.midiQueue.getD []) ++ droppedPackets log)
  justified : ∀ before dropped time after, log = before ++ UsbNote.reset dropped time :: after → Stalled before time

/-- `xQueueSend` would succeed. -/
def UsbOut.hasRoom (s : UsbOut) : Bool :=
  match s.midiQueue with
  | none => false
  | some queue => queue.length < midiQueuePackets

/-- The pump is about to put a packet back into a queue that producers have filled meanwhile. -/
def PutBackFails (s : UsbOut) : UsbStep → Prop
  | .usbOutPump _ => ∃ packet, s.pump = .putBack packet ∧ s.hasRoom = false
  | _ => False

/-! ## The queue as a channel -/

/-- The held packet and the queue behind it. -/
def UsbOut.channel (s : UsbOut) : Channel.State MidiEventPacket :=
  { pending := s.pump.held ++ s.midiQueue.getD [], next := s.accepted }

/-- What the pump's next step is on the channel. -/
def pumpActs (s : UsbOut) (taken : Bool) : List (Channel.Act MidiEventPacket) :=
  match s.pump with
  | .write _ _ => if taken then [.deliver] else []
  | .putBack _ => if s.hasRoom then [] else [.lose]
  | .reset _ => [.discard]
  | _ => []

def channelActs (s : UsbOut) : UsbStep → List (Channel.Act MidiEventPacket)
  | .usbOutMidi packet => if s.hasRoom then [.accept packet] else []
  | .usbOutPump taken => pumpActs s taken
  | _ => []

/-- The record of the queue and that of the channel tell the same. -/
def SameRecord (log : List UsbNote) (notes : List (Channel.Note MidiEventPacket)) : Prop :=
  acceptedPackets log = Channel.accepted notes ∧ handedOver log = Channel.delivered notes ∧
    droppedPackets log = Channel.discarded notes

theorem sameRecord_append {log log' : List UsbNote} {notes notes' : List (Channel.Note MidiEventPacket)}
    (h : SameRecord log notes) (h' : SameRecord log' notes') : SameRecord (log ++ log') (notes ++ notes') := by
  obtain ⟨ha, hd, hr⟩ := h
  obtain ⟨ha', hd', hr'⟩ := h'
  simp only [SameRecord, acceptedPackets, handedOver, droppedPackets, Channel.accepted, Channel.delivered,
    Channel.discarded, List.flatMap_append] at *
  exact ⟨by rw [ha, ha'], by rw [hd, hd'], by rw [hr, hr']⟩

theorem usbOutMidi_channel (s : UsbOut) (packet : MidiEventPacket) :
    let r := Mealy.run Channel.step s.channel (channelActs s (.usbOutMidi packet))
    r.1 = (usbOutMidi s packet).1.channel ∧ SameRecord (usbOutMidi s packet).2 r.2 ∧ Channel.lost r.2 = [] := by
  unfold channelActs usbOutMidi UsbOut.hasRoom
  rcases hq : s.midiQueue with _ | queue
  · exact ⟨rfl, ⟨rfl, rfl, rfl⟩, rfl⟩
  · by_cases hroom : queue.length < midiQueuePackets
    · simp only [hroom, decide_true, if_true]
      refine ⟨?_, ⟨rfl, rfl, rfl⟩, rfl⟩
      simp [Mealy.run, Channel.step, UsbOut.channel, hq]
    · simp only [hroom, decide_false, Bool.false_eq_true, if_false]
      exact ⟨rfl, ⟨rfl, rfl, rfl⟩, rfl⟩

theorem usbOutPump_channel (s : UsbOut) (taken : Bool) :
    let r := Mealy.run Channel.step s.channel (pumpActs s taken)
    r.1 = (usbOutPump s taken).1.channel ∧ SameRecord (usbOutPump s taken).2 r.2 ∧
      (Channel.lost r.2 = [] ↔ ¬PutBackFails s (.usbOutPump taken)) := by
  unfold pumpActs usbOutPump PutBackFails UsbOut.hasRoom UsbOut.channel
  rcases hpump : s.pump with _ | budget | ⟨budget, packet⟩ | packet | packet | packet
  · exact ⟨rfl, ⟨rfl, rfl, rfl⟩, by simp [Channel.lost]⟩
  · rcases budget with _ | budget <;> rcases hq : s.midiQueue with _ | _ | ⟨packet, queue⟩ <;>
      exact ⟨by simp [PumpAt.held], ⟨rfl, rfl, rfl⟩, by simp [Channel.lost]⟩
  · cases taken
    · exact ⟨rfl, ⟨rfl, rfl, rfl⟩, by simp [Channel.lost]⟩
    · exact ⟨rfl, ⟨rfl, rfl, rfl⟩, by simp [Mealy.run, Channel.step, PumpAt.held, Channel.lost, Channel.Note.loses]⟩
  · dsimp only
    split_ifs <;> exact ⟨rfl, ⟨rfl, rfl, rfl⟩, by simp [Channel.lost]⟩
  · rcases hq : s.midiQueue with _ | queue
    · exact ⟨rfl, ⟨rfl, rfl, rfl⟩, by simp [Mealy.run, Channel.step, PumpAt.held, Channel.lost, Channel.Note.loses]⟩
    · by_cases hroom : queue.length < midiQueuePackets
      · simp only [hroom, decide_true, if_true]
        exact ⟨rfl, ⟨rfl, rfl, rfl⟩, by simp [Channel.lost]⟩
      · -- `xQueueSendToFront` fails on a full queue, and nobody looks
        simp only [hroom, decide_false, Bool.false_eq_true, if_false]
        exact ⟨by simp [Mealy.run, Channel.step, PumpAt.held], ⟨rfl, rfl, rfl⟩,
          by simp [Mealy.run, Channel.step, PumpAt.held, Channel.lost, Channel.Note.loses]⟩
  · refine ⟨?_, ⟨rfl, rfl, ?_⟩, ?_⟩
    · rcases hq : s.midiQueue with _ | queue <;> simp [Mealy.run, Channel.step, PumpAt.held]
    · simp [Mealy.run, Channel.step, PumpAt.held, droppedPackets, UsbNote.drops, Channel.discarded,
        Channel.Note.discards]
    · simp [Mealy.run, Channel.step, Channel.lost, Channel.Note.loses]

/-- **One step of the queue is its acts on the channel**, and loses a packet exactly when a
put-back fails. -/
theorem usbStep_channel (s : UsbOut) (e : UsbStep) :
    let r := Mealy.run Channel.step s.channel (channelActs s e)
    r.1 = (usbStep s e).1.channel ∧ SameRecord (usbStep s e).2 r.2 ∧
      (Channel.lost r.2 = [] ↔ ¬PutBackFails s e) := by
  cases e with
  | usbOutInit =>
    rcases hq : s.midiQueue with _ | queue <;>
      exact ⟨by simp [usbStep, UsbOut.channel, channelActs, hq], ⟨rfl, rfl, rfl⟩, by simp [channelActs, PutBackFails, Channel.lost]⟩
  | usbOutMidi packet =>
    obtain ⟨hstate, hrecord, hlost⟩ := usbOutMidi_channel s packet
    exact ⟨hstate, hrecord, by simp [hlost, PutBackFails]⟩
  | usbOutPump taken => exact usbOutPump_channel s taken
  | wait ms => exact ⟨rfl, ⟨rfl, rfl, rfl⟩, by simp [channelActs, PutBackFails, Channel.lost]⟩

/-! ## The stall timer -/

section Stall

variable {log log' : List UsbNote} {since now later : ℕ}

theorem RefusedSince.append (h : RefusedSince log since) (hall : AllRefused log') :
    RefusedSince (log ++ log') since := by
  obtain ⟨before, packet, after, rfl, hafter⟩ := h
  refine ⟨before, packet, after ++ log', by simp, ?_⟩
  intro p taken time hmem
  rcases List.mem_append.1 hmem with h | h
  · exact hafter p taken time h
  · exact hall p taken time h

theorem Stalled.append (h : Stalled log now) (hle : now ≤ later) (hall : AllRefused log') :
    Stalled (log ++ log') later := by
  obtain ⟨since, hsince, hlong⟩ := h
  exact ⟨since, hsince.append hall, by omega⟩

/-- What the statics know: `stalledSince` is no earlier than a refused write since which all were
refused, and the pump decides to reset only in a stall. -/
structure StallKnown (s : UsbOut) (log : List UsbNote) : Prop where
  timer : s.stalledSince ≠ 0 →
    ∃ start since, s.stalledSince = UInt32.ofNat start ∧ start ≤ s.time ∧ since ≤ start ∧ RefusedSince log since
  refused : ∀ packet, s.pump = .refused packet → ∃ since, since ≤ s.time ∧ RefusedSince log since
  deciding : ∀ packet, s.pump = .reset packet → Stalled log s.time

/-- A step that writes nothing, leaves the timer and does not turn to a decision keeps what is known. -/
theorem StallKnown.frame {s t : UsbOut} (h : StallKnown s log) (hsince : t.stalledSince = s.stalledSince)
    (htime : s.time ≤ t.time) (hall : AllRefused log')
    (hrefused : ∀ packet, t.pump = .refused packet → s.pump = .refused packet)
    (hreset : ∀ packet, t.pump = .reset packet → s.pump = .reset packet) : StallKnown t (log ++ log') := by
  refine ⟨?_, ?_, ?_⟩
  · intro hne
    rw [hsince] at hne ⊢
    obtain ⟨start, since, heq, hstart, hle, hknown⟩ := h.timer hne
    exact ⟨start, since, heq, by omega, hle, hknown.append hall⟩
  · intro packet hp
    obtain ⟨since, hle, hknown⟩ := h.refused packet (hrefused packet hp)
    exact ⟨since, by omega, hknown.append hall⟩
  · intro packet hp
    exact (h.deciding packet (hreset packet hp)).append htime hall

theorem allRefused_nil : AllRefused [] := by
  intro packet taken time hmem
  cases hmem

/-- The `millis()` comparison fires only when the refusals are older than the threshold. -/
theorem stalled_of_fires {s : UsbOut} (h : StallKnown s log) (hne : s.stalledSince ≠ 0)
    (hfires : UInt32.ofNat s.time - s.stalledSince > usbStallDropMs) : Stalled log s.time := by
  obtain ⟨start, since, heq, hstart, hle, hknown⟩ := h.timer hne
  have hdiff : usbStallDropMs.toNat < (UInt32.ofNat s.time - UInt32.ofNat start).toNat := by
    rw [heq] at hfires
    exact UInt32.lt_iff_toNat_lt.1 hfires
  rw [WrapClock.toNat_ofNat_sub_ofNat] at hdiff
  have hage := WrapClock.wrapDiff_le (by decide : 0 < 2 ^ 32) hstart
  exact ⟨since, hknown, by omega⟩

theorem stallKnown_write {s : UsbOut} (h : StallKnown s log) (budget : ℕ) (packet : Entry MidiEventPacket)
    (taken : Bool) (hpump : s.pump = .write budget packet) :
    StallKnown (usbOutPump s taken).1 (log ++ (usbOutPump s taken).2) := by
  unfold usbOutPump
  rw [hpump]
  cases taken with
  | true =>
    refine ⟨?_, ?_, ?_⟩
    · intro hne
      exact absurd rfl hne
    · intro p hp
      cases hp
    · intro p hp
      cases hp
  | false =>
    have hall : AllRefused [UsbNote.write packet false s.time] := by
      intro p t time hmem
      have := List.mem_singleton.1 hmem
      injection this
    refine ⟨?_, ?_, ?_⟩
    · intro hne
      obtain ⟨start, since, heq, hstart, hle, hknown⟩ := h.timer hne
      exact ⟨start, since, heq, hstart, hle, hknown.append hall⟩
    · -- this write is the refused one that a timer started now counts from
      intro p hp
      exact ⟨s.time, le_refl _, log, packet, [], rfl, allRefused_nil⟩
    · intro p hp
      cases hp

theorem stallKnown_refused {s : UsbOut} (h : StallKnown s log) (packet : Entry MidiEventPacket) (taken : Bool)
    (hpump : s.pump = .refused packet) :
    StallKnown (usbOutPump s taken).1 (log ++ (usbOutPump s taken).2) := by
  obtain ⟨since, hle, hknown⟩ := h.refused packet hpump
  unfold usbOutPump
  rw [hpump]
  dsimp only
  split_ifs with hzero hfires
  · rw [List.append_nil]
    refine ⟨?_, ?_, ?_⟩
    · intro hne
      exact ⟨s.time, since, rfl, le_refl _, hle, hknown⟩
    · intro p hp
      cases hp
    · intro p hp
      cases hp
  · rw [List.append_nil]
    refine ⟨h.timer, ?_, ?_⟩
    · intro p hp
      cases hp
    · intro p hp
      have hstall : Stalled log s.time := stalled_of_fires h hzero hfires
      exact hstall
  · rw [List.append_nil]
    refine ⟨h.timer, ?_, ?_⟩
    · intro p hp
      cases hp
    · intro p hp
      cases hp

theorem stallKnown_pump {s : UsbOut} (h : StallKnown s log) (taken : Bool) :
    StallKnown (usbOutPump s taken).1 (log ++ (usbOutPump s taken).2) := by
  rcases hpump : s.pump with _ | budget | ⟨budget, packet⟩ | packet | packet | packet
  · unfold usbOutPump
    rw [hpump]
    exact h.frame rfl (le_refl _) allRefused_nil (by simp) (by simp)
  · unfold usbOutPump
    rw [hpump]
    dsimp only
    split <;> exact h.frame rfl (le_refl _) allRefused_nil (by simp) (by simp)
  · exact stallKnown_write h budget packet taken hpump
  · exact stallKnown_refused h packet taken hpump
  · unfold usbOutPump
    rw [hpump]
    dsimp only
    split
    · exact h.frame rfl (le_refl _) allRefused_nil (by simp) (by simp)
    · split <;> exact h.frame rfl (le_refl _) allRefused_nil (by simp) (by simp)
  · unfold usbOutPump
    rw [hpump]
    refine h.frame rfl (le_refl _) ?_ (by simp) (by simp)
    intro p t time hmem
    cases List.mem_singleton.1 hmem

/-- **Each step keeps what is known of the stall.** -/
theorem stallKnown_step {s : UsbOut} (h : StallKnown s log) (e : UsbStep) :
    StallKnown (usbStep s e).1 (log ++ (usbStep s e).2) := by
  cases e with
  | usbOutInit =>
    unfold usbStep
    dsimp only
    split <;> exact h.frame rfl (le_refl _) allRefused_nil (fun _ hp => hp) (fun _ hp => hp)
  | usbOutMidi packet =>
    unfold usbStep usbOutMidi
    dsimp only
    rcases s.midiQueue with _ | queue
    · exact h.frame rfl (le_refl _) allRefused_nil (fun _ hp => hp) (fun _ hp => hp)
    · dsimp only
      split
      · refine h.frame rfl (le_refl _) ?_ (fun _ hp => hp) (fun _ hp => hp)
        intro p t time hmem
        cases List.mem_singleton.1 hmem
      · exact h.frame rfl (le_refl _) allRefused_nil (fun _ hp => hp) (fun _ hp => hp)
  | usbOutPump taken => exact stallKnown_pump h taken
  | wait ms =>
    exact h.frame rfl (Nat.le_add_right _ _) allRefused_nil (fun _ hp => hp) (fun _ hp => hp)

/-- Every reset of the record ended a stall. -/
def ResetsJustified (log : List UsbNote) : Prop :=
  ∀ before dropped time after, log = before ++ UsbNote.reset dropped time :: after → Stalled before time

theorem resetsJustified_snoc {n : UsbNote} (h : ResetsJustified log)
    (hlast : ∀ dropped time, n = .reset dropped time → Stalled log time) : ResetsJustified (log ++ [n]) := by
  intro before dropped time after heq
  rcases List.eq_nil_or_concat after with rfl | ⟨front, last, rfl⟩
  · obtain ⟨h1, h2⟩ := List.append_inj' heq rfl
    rw [← h1]
    exact hlast dropped time (by simpa using h2)
  · have hsplit : log ++ [n] = (before ++ UsbNote.reset dropped time :: front) ++ [last] := by
      simpa using heq
    exact h before dropped time front (List.append_inj' hsplit rfl).1

/-- A step records at most one thing, a reset only when the pump had decided on it. -/
theorem usbStep_record (s : UsbOut) (e : UsbStep) :
    (usbStep s e).2 = [] ∨ ∃ n, (usbStep s e).2 = [n] ∧
      ∀ dropped time, n = .reset dropped time → time = s.time ∧ ∃ packet, s.pump = .reset packet := by
  cases e with
  | usbOutInit => exact Or.inl rfl
  | usbOutMidi packet =>
    unfold usbStep usbOutMidi
    dsimp only
    split
    · exact Or.inl rfl
    · split
      · exact Or.inr ⟨_, rfl, by simp⟩
      · exact Or.inl rfl
  | usbOutPump taken =>
    unfold usbStep usbOutPump
    rcases hpump : s.pump with _ | budget | ⟨budget, packet⟩ | packet | packet | packet <;> dsimp only
    · exact Or.inl rfl
    · split <;> exact Or.inl rfl
    · split <;> exact Or.inr ⟨_, rfl, by simp⟩
    · split_ifs <;> exact Or.inl rfl
    · split
      · exact Or.inl rfl
      · split <;> exact Or.inl rfl
    · refine Or.inr ⟨_, rfl, ?_⟩
      intro dropped time heq
      injection heq with hdropped htime
      exact ⟨htime.symm, packet, rfl⟩
  | wait ms => exact Or.inl rfl

theorem resets_step {s : UsbOut} (h : StallKnown s log ∧ ResetsJustified log) (e : UsbStep) :
    StallKnown (usbStep s e).1 (log ++ (usbStep s e).2) ∧ ResetsJustified (log ++ (usbStep s e).2) := by
  obtain ⟨hknown, hjust⟩ := h
  refine ⟨stallKnown_step hknown e, ?_⟩
  rcases usbStep_record s e with hnil | ⟨n, hone, hreset⟩
  · rwa [hnil, List.append_nil]
  · rw [hone]
    apply resetsJustified_snoc hjust
    intro dropped time heq
    obtain ⟨rfl, packet, hpump⟩ := hreset dropped time heq
    exact hknown.deciding packet hpump

/-- **In every run a reset comes only after a stall.** -/
theorem resets_run (steps : List UsbStep) : ResetsJustified (Mealy.run usbStep {} steps).2 := by
  have hstart : StallKnown {} [] ∧ ResetsJustified [] := by
    refine ⟨⟨by simp, by simp, by simp⟩, ?_⟩
    intro before dropped time after heq
    simp at heq
  have hall : Mealy.Guarded usbStep (fun _ _ => True) {} steps := Mealy.guarded_of_forall (fun _ _ => trivial) _ _
  have := Mealy.trace_inv (fun s log => StallKnown s log ∧ ResetsJustified log)
    (fun s log e h _ => resets_step h e) hstart hall
  simpa using this.2

end Stall

/-! ## Whole runs -/

/-- The run of the channel that stands for a run of the queue. -/
def channelRun (steps : List UsbStep) : Channel.State MidiEventPacket × List (Channel.Note MidiEventPacket) :=
  Mealy.run Channel.step {} (Mealy.shadow usbStep channelActs {} steps)

/-- **Every run of the queue is a run of the channel.** -/
theorem usb_refines_channel (steps : List UsbStep) :
    (channelRun steps).1 = (Mealy.run usbStep {} steps).1.channel ∧
      SameRecord (Mealy.run usbStep {} steps).2 (channelRun steps).2 :=
  Mealy.run_shadow UsbOut.channel channelActs SameRecord ⟨rfl, rfl, rfl⟩
    (fun _ _ _ _ h h' => sameRecord_append h h')
    (fun s e => ⟨(usbStep_channel s e).1, (usbStep_channel s e).2.1⟩) {} steps

/-- The channel loses nothing exactly in the runs with no failed put-back. -/
theorem channel_lost_iff (steps : List UsbStep) :
    Channel.lost (channelRun steps).2 = [] ↔
      Mealy.Guarded usbStep (fun s e => ¬PutBackFails s e) {} steps := by
  have hiff : (∀ n ∈ (channelRun steps).2, n.loses = []) ↔ _ :=
    Mealy.forall_mem_shadow_iff UsbOut.channel channelActs (fun s e => (usbStep_channel s e).1) {} steps
  have hguard : Mealy.Guarded usbStep (fun s e => ∀ n ∈ (Mealy.run Channel.step s.channel (channelActs s e)).2,
      n.loses = []) {} steps ↔ Mealy.Guarded usbStep (fun s e => ¬PutBackFails s e) {} steps := by
    constructor <;> apply Mealy.Guarded.mono <;> intro s e
    · intro h
      exact (usbStep_channel s e).2.2.1 (List.flatMap_eq_nil_iff.2 h)
    · intro h
      exact List.flatMap_eq_nil_iff.1 ((usbStep_channel s e).2.2.2 h)
  exact List.flatMap_eq_nil_iff.trans (hiff.trans hguard)

/-- **A run's end accounts for every packet exactly when no put-back failed**; order and resets are
right in any case. -/
theorem keepsPackets_end (steps : List UsbStep) :
    KeepsPackets (Mealy.run usbStep {} steps).1 (Mealy.run usbStep {} steps).2 ↔
      Mealy.Guarded usbStep (fun s e => ¬PutBackFails s e) {} steps := by
  obtain ⟨hstate, hacc, hdel, hdrop⟩ := usb_refines_channel steps
  have hledger : Channel.Ledger (channelRun steps).1 (channelRun steps).2 := Channel.ledger_run _
  have hiff := hledger.conserved_iff
  rw [← hacc, ← hdel, ← hdrop, hstate] at hiff
  rw [← channel_lost_iff, ← hiff]
  constructor
  · intro h
    exact h.kept
  · intro hperm
    refine ⟨?_, ?_, hperm, resets_run steps⟩
    · rw [hacc, hdel]
      exact hledger.delivered_sublist
    · rw [hacc]
      exact hledger.accepted_nodup

/-- **The host output queue keeps its packets all along a run exactly when no put-back ever finds
the queue filled by the producers.** -/
theorem keepsPackets_iff (steps : List UsbStep) :
    (∀ pre post, steps = pre ++ post →
        KeepsPackets (Mealy.run usbStep {} pre).1 (Mealy.run usbStep {} pre).2) ↔
      Mealy.Guarded usbStep (fun s e => ¬PutBackFails s e) {} steps := by
  constructor
  · intro h
    exact (keepsPackets_end steps).1 (h steps [] (by simp))
  · intro h pre post heq
    rw [heq, Mealy.guarded_append] at h
    exact (keepsPackets_end pre).2 h.1

/-! ## A packet lost -/

/-- `n` packets accepted with the pump outside. -/
theorem run_offers (p : MidiEventPacket) (n : ℕ) (s : UsbOut) (queue : List (Entry MidiEventPacket))
    (hs : s.midiQueue = some queue) (hroom : queue.length + n ≤ midiQueuePackets) :
    ∃ queue', (Mealy.run usbStep s (List.replicate n (.usbOutMidi p))).1 =
      { s with midiQueue := some queue', accepted := s.accepted + n } ∧ queue'.length = queue.length + n := by
  induction n generalizing s queue with
  | zero => exact ⟨queue, by simp [← hs], by simp⟩
  | succ n ih =>
    have hlt : queue.length < midiQueuePackets := by omega
    have hone : (usbStep s (.usbOutMidi p)).1 =
        { s with midiQueue := some (queue ++ [(s.accepted, p)]), accepted := s.accepted + 1 } := by
      simp [usbStep, usbOutMidi, hs, hlt]
    have hlen : (queue ++ [(s.accepted, p)]).length + n ≤ midiQueuePackets := by
      simp only [List.length_append, List.length_singleton]
      omega
    obtain ⟨queue', hrun, hlength⟩ := ih (usbStep s (.usbOutMidi p)).1 (queue ++ [(s.accepted, p)])
      (by rw [hone]) hlen
    refine ⟨queue', ?_, ?_⟩
    · rw [List.replicate_succ, Mealy.run_cons, hrun, hone]
      simp only [UsbOut.mk.injEq, true_and]
      omega
    · rw [hlength]
      simp only [List.length_append, List.length_singleton]
      omega

/-- The queue is filled, its head refused, and one more packet accepted before the put-back. -/
def fillRace (p : MidiEventPacket) : List UsbStep :=
  [.usbOutInit] ++ List.replicate midiQueuePackets (.usbOutMidi p) ++
    [.usbOutPump false, .usbOutPump false, .usbOutPump false, .usbOutPump false, .usbOutMidi p,
      .usbOutPump false]

/-- The pump's steps of `fillRace`, from a full queue. -/
theorem putBackFails_of_full (p : MidiEventPacket) (s : UsbOut) (queue : List (Entry MidiEventPacket))
    (hs : s.midiQueue = some queue) (hpump : s.pump = .outside) (hsince : s.stalledSince = 0)
    (hfull : queue.length = midiQueuePackets) :
    ¬Mealy.Guarded usbStep (fun s e => ¬PutBackFails s e) s
      [.usbOutPump false, .usbOutPump false, .usbOutPump false, .usbOutPump false, .usbOutMidi p,
        .usbOutPump false] := by
  rcases queue with _ | ⟨packet, rest⟩
  · simp [midiQueuePackets] at hfull
  · have hrest : rest.length + 1 = midiQueuePackets := by simpa using hfull
    have hroom : rest.length < midiQueuePackets := by omega
    simp [usbStep, usbOutPump, usbOutMidi, PutBackFails, UsbOut.hasRoom, hs, hpump, hsince, pumpBudget,
      hroom, hrest]
    exact ⟨_, _, rfl⟩

/-- **One packet refused while the queue fills up is gone.** -/
theorem refused_packet_lost :
    ¬KeepsPackets (Mealy.run usbStep {} (fillRace ⟨0x0B, 0xB0, 7, 100⟩)).1
      (Mealy.run usbStep {} (fillRace ⟨0x0B, 0xB0, 7, 100⟩)).2 := by
  rw [keepsPackets_end]
  unfold fillRace
  rw [List.append_assoc, Mealy.guarded_append, Mealy.guarded_append]
  rintro ⟨-, -, hg⟩
  obtain ⟨queue, hrun, hlen⟩ := run_offers ⟨0x0B, 0xB0, 7, 100⟩ midiQueuePackets
    (Mealy.run usbStep {} [.usbOutInit]).1 [] rfl (by simp)
  rw [hrun] at hg
  exact putBackFails_of_full ⟨0x0B, 0xB0, 7, 100⟩ _ queue rfl rfl rfl (by simpa using hlen) hg

end Nowde
