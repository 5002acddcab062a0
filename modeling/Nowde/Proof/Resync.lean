import Nowde.Proof.HostIndex
import Nowde.Proof.Outputs
import Nowde.Proof.UsbInput

/-!
# A complete message is handled once

The parser's three statics survive any input. A message that starts afresh finds the in-message
flag and the index set right by its `F0`, but an overflow mark left by a frame that was never
ended stays until the next `F7`, which is that of the message itself.

* `handledOnce_iff`: a complete message is handled once exactly when the mark is clear as it starts.
* `overflow_run`: after any run from boot it is set exactly when some frame has had more than 512 bytes
  since the node last booted, and no `F7` has come since that frame started.
-/

namespace Nowde

/-- A call of `handleSysExMessage(data, length)`. -/
structure SysexCall where
  env : Env
  data : List UInt8
  length : UInt8

/-- The call a packet brings, if any. -/
def Node.sysexCalls (n : Node) (p : Env × MidiEventPacket) : List SysexCall :=
  (n.parser.packet p.2).2.toList.map fun message => ⟨p.1, message, UInt8.ofNat message.length⟩

section Calls

variable (lib : UpdateLib)

/-- The calls `midiProcess` makes, in order. -/
def midiCalls : Node → List (Env × MidiEventPacket) → List SysexCall
  | _, [] => []
  | n, p :: ps => n.sysexCalls p ++ midiCalls (midiPacket lib p.1 n p.2).1 ps

/-- A packet notes the host and makes its calls. -/
theorem midiPacket_calls (n : Node) (p : Env × MidiEventPacket) :
    midiPacket lib p.1 n p.2 =
      Mealy.run (fun n c => handleSysExMessage lib c.env n c.data c.length) (usbRead p.1 n p.2)
        (n.sysexCalls p) := by
  unfold midiPacket Node.sysexCalls
  dsimp only
  cases hm : (n.parser.packet p.2).2 with
  | none => rfl
  | some message => simp [usbRead]

/-- No frame touches the parser. -/
theorem parser_handleSysExMessage (env : Env) (n : Node) (data : List UInt8) (length : UInt8) :
    (handleSysExMessage lib env n data length).1.parser = n.parser := by
  cases hc : sysexCommand data length.toNat with
  | none => rw [handleSysExMessage_of_none lib env n hc]
  | some c =>
    rw [handleSysExMessage_of_command lib env n hc]
    exact congrArg (·.1) (execute_aside lib env n data length.toNat c)

theorem parser_midiPacket (n : Node) (p : Env × MidiEventPacket) :
    (midiPacket lib p.1 n p.2).1.parser = (n.parser.receive p).1 := by
  unfold midiPacket SysexParser.receive
  dsimp only
  cases (n.parser.packet p.2).2 with
  | none => rfl
  | some message => exact parser_handleSysExMessage lib _ _ _ _

/-- **The calls are the frames the parser completes.** -/
theorem midiCalls_eq (n : Node) (packets : List (Env × MidiEventPacket)) :
    midiCalls lib n packets = (Mealy.run SysexParser.receive n.parser packets).2.map fun f =>
      ⟨f.1, f.2, UInt8.ofNat f.2.length⟩ := by
  induction packets generalizing n with
  | nil => rfl
  | cons p ps ih =>
    have hone : n.sysexCalls p = (n.parser.receive p).2.map fun f =>
        ⟨f.1, f.2, UInt8.ofNat f.2.length⟩ := by
      unfold Node.sysexCalls SysexParser.receive
      rw [List.map_map]
      rfl
    rw [midiCalls, ih, parser_midiPacket, hone, Mealy.run_cons, List.map_append]

end Calls

/-! ## A complete message -/

/-- A complete SysEx message of at most 255 bytes. -/
structure CompleteMessage (message : List UInt8) : Prop where
  shape : ∃ body : List UInt8, message = sysexStart :: body ++ [sysexEnd] ∧ ∀ b ∈ body, b < 0x80
  short : message.length ≤ 255

/-- `handleSysExMessage` is called once, with these bytes and their number. -/
def HandledOnce (lib : UpdateLib) (n : Node) (packets : List (Env × MidiEventPacket)) (message : List UInt8) : Prop :=
  (midiCalls lib n packets).map (fun c => (c.data, c.length.toNat)) = [(message, message.length)]

/-- **A complete message is handled once, after any history, exactly when the overflow mark is clear
as it starts.** -/
theorem handledOnce_iff (lib : UpdateLib) (build : Build) (n₀ : Node) (history : List Event)
    {message : List UInt8} (hmessage : CompleteMessage message) {packets : List (Env × MidiEventPacket)}
    (hp : Carries (packets.map Prod.snd) message) :
    let n := (Mealy.run (Node.step lib build) n₀ history).1
    HandledOnce lib n packets message ↔ n.parser.sysexOverflow = false := by
  intro n
  obtain ⟨⟨body, rfl, hbody⟩, hshort⟩ := hmessage
  have hlow : ∀ c : UInt8, 0x80 ≤ c → c ∉ body := by
    intro c hc hmem
    exact absurd (hbody c hmem) (UInt8.not_lt.2 hc)
  have hroom : body.length + 2 ≤ 255 := by
    simp only [List.length_append, List.length_cons, List.length_nil] at hshort
    omega
  -- what the history left in the buffer goes with 0xF0; only the overflow mark stays
  obtain ⟨env, hrun⟩ := received_carries (s := n.parser) hp rfl (hlow sysexEnd (by decide))
    (hlow sysexStart (by decide)) (by unfold sysexBufferSize; omega) rfl
  unfold HandledOnce
  rw [midiCalls_eq, hrun]
  cases n.parser.sysexOverflow with
  | true => simp
  | false =>
    have hlen : (UInt8.ofNat (sysexStart :: body ++ [sysexEnd]).length).toNat =
        (sysexStart :: body ++ [sysexEnd]).length := by
      rw [UInt8.toNat_ofNat']
      exact Nat.mod_eq_of_lt (by omega)
    simp only [Bool.false_eq_true, if_false, List.map_cons, List.map_nil, hlen]

/-! ## When the mark is set -/

/-- **A frame has outgrown the buffer and has not ended**: from a packet that starts it on there are more than 512 data
bytes before any other frame starts, and no `F7` since. -/
def Overruns (packets : List MidiEventPacket) : Prop :=
  ∃ before p more after, packets = before ++ p :: more ++ after ∧ Starts p ∧ (∀ q ∈ more, ¬Starts q) ∧
    sysexBufferSize < (carried (p :: more)).length ∧ sysexEnd ∉ carried (p :: more ++ after)

section Mark

variable {s : SysexParser} {packets : List MidiEventPacket} {q : MidiEventPacket}

/-- An end byte resets the parser. -/
theorem SysexParser.feed_reset {bytes : List UInt8} (h : sysexEnd ∈ bytes) : (s.feed bytes).1 = {} := by
  induction bytes generalizing s with
  | nil => cases h
  | cons b bs ih =>
    simp only [SysexParser.feed]
    split
    · rfl
    · next hne => exact ih ((List.mem_cons.1 h).resolve_left (Ne.symm hne))

/-- The buffer keeps within its size. -/
theorem SysexParser.feed_length {bytes : List UInt8} (h : s.buffer.length ≤ sysexBufferSize) :
    (s.feed bytes).1.buffer.length ≤ sysexBufferSize := by
  induction bytes generalizing s with
  | nil => exact h
  | cons b bs ih =>
    have hpush : (s.push b).buffer.length ≤ sysexBufferSize := by
      unfold SysexParser.push
      split
      · next hroom =>
        rw [List.length_append, List.length_singleton]
        exact hroom
      · exact h
    simp only [SysexParser.feed]
    split
    · exact Nat.zero_le _
    · exact ih hpush

theorem length_carried_le (q : MidiEventPacket) : (carried [q]).length ≤ 3 := by
  simp [carried]

theorem Overruns.snoc (h : Overruns packets) (hfree : sysexEnd ∉ carried [q]) : Overruns (packets ++ [q]) := by
  obtain ⟨before, p, more, after, rfl, hp, hmore, hlong, hopen⟩ := h
  refine ⟨before, p, more, after ++ [q], by simp, hp, hmore, hlong, ?_⟩
  rw [← List.append_assoc, carried_append, List.mem_append, not_or]
  exact ⟨hopen, hfree⟩

/-- What the parser's statics say of the packets before. -/
structure ParserInv (s : SysexParser) (packets : List MidiEventPacket) : Prop where
  opened : s.inSysex = true → ∃ before p more, packets = before ++ p :: more ∧ Starts p ∧ (∀ q ∈ more, ¬Starts q) ∧
    sysexEnd ∉ carried (p :: more) ∧ (s.sysexOverflow = false → s.buffer = carried (p :: more))
  overrun : s.sysexOverflow = true → s.inSysex = true ∧ Overruns packets

/-- **One packet.** -/
theorem ParserInv.packet (h : ParserInv s packets) (q : MidiEventPacket) :
    ParserInv (s.packet q).1 (packets ++ [q]) := by
  have hreset : ParserInv {} (packets ++ [q]) := ⟨fun hin => (by cases hin), fun hover => (by cases hover)⟩
  by_cases hstart : Starts q
  · rw [SysexParser.packet_starts hstart]
    by_cases hend : sysexEnd ∈ carried [q]
    · rw [SysexParser.feed_reset hend]
      exact hreset
    · -- a new frame, with room for its first bytes
      rw [SysexParser.feed_of_not_mem hend (by have := length_carried_le q; simp [sysexBufferSize]; omega)]
      exact ⟨fun _ => ⟨packets, q, [], rfl, hstart, by simp, hend, fun _ => rfl⟩,
        fun hover => ⟨rfl, (h.overrun hover).2.snoc hend⟩⟩
  · cases hin : s.inSysex with
    | false =>
      rw [SysexParser.packet_idle hin hstart]
      exact ⟨fun hopen => absurd (hin.symm.trans hopen) (by decide),
        fun hover => absurd (hin.symm.trans (h.overrun hover).1) (by decide)⟩
    | true =>
      rw [SysexParser.packet_more hin hstart]
      by_cases hend : sysexEnd ∈ carried [q]
      · rw [SysexParser.feed_reset hend]
        exact hreset
      · obtain ⟨before, p, more, hpackets, hp, hmore, hfree, hbuffer⟩ := h.opened hin
        obtain ⟨-, hin', added, hadded, -, hover⟩ := SysexParser.feed_noEnd (s := s) hend
        have hcut : carried (p :: (more ++ [q])) = carried (p :: more) ++ carried [q] :=
          carried_append (p :: more) [q]
        have hmore' : ∀ x ∈ more ++ [q], ¬Starts x := by
          simp only [List.mem_append, List.mem_singleton]
          rintro x (hx | rfl)
          · exact hmore x hx
          · exact hstart
        have hfree' : sysexEnd ∉ carried (p :: (more ++ [q])) := by
          rw [hcut, List.mem_append, not_or]
          exact ⟨hfree, hend⟩
        refine ⟨fun _ => ⟨before, p, more ++ [q], by rw [hpackets]; simp, hp, hmore', hfree', fun hno => ?_⟩,
          fun hmark => ⟨hin'.trans hin, ?_⟩⟩
        · obtain ⟨hno', rfl⟩ := hover hno
          rw [hadded, hbuffer hno', hcut]
        · cases hbefore : s.sysexOverflow with
          | true => exact (h.overrun hbefore).2.snoc hend
          | false =>
            -- the buffer overflows at this packet
            refine ⟨before, p, more ++ [q], [], by rw [hpackets]; simp, hp, hmore', ?_, ?_⟩
            · by_contra hroom
              rw [hcut, List.length_append, ← hbuffer hbefore] at hroom
              rw [SysexParser.feed_of_not_mem hend (by omega)] at hmark
              exact absurd (hbefore.symm.trans hmark) (by decide)
            · rw [List.append_nil]
              exact hfree'

theorem parserInv_run (packets : List (Env × MidiEventPacket)) :
    ParserInv (Mealy.run SysexParser.receive {} packets).1 (packets.map Prod.snd) := by
  induction packets using List.reverseRecOn with
  | nil => exact ⟨fun hin => (by cases hin), fun hover => (by cases hover)⟩
  | append_singleton packets p ih =>
    rw [Mealy.run_append, List.map_append]
    exact ih.packet p.2

/-- Without an end byte the mark stays. -/
theorem overflow_stays (hin : s.inSysex = true) (hover : s.sysexOverflow = true)
    {after : List (Env × MidiEventPacket)} (hfree : sysexEnd ∉ carried (after.map Prod.snd)) :
    (Mealy.run SysexParser.receive s after).1.sysexOverflow = true := by
  induction after generalizing s with
  | nil => exact hover
  | cons q after ih =>
    have hcut : carried ((q :: after).map Prod.snd) = carried [q.2] ++ carried (after.map Prod.snd) :=
      carried_append [q.2] _
    rw [hcut, List.mem_append, not_or] at hfree
    have hstays : ∀ t : SysexParser, t.inSysex = true → t.sysexOverflow = true →
        (t.feed (carried [q.2])).1.inSysex = true ∧ (t.feed (carried [q.2])).1.sysexOverflow = true := by
      intro t htin htover
      obtain ⟨-, hin', _, -, -, hcleared⟩ := SysexParser.feed_noEnd (s := t) hfree.1
      refine ⟨hin'.trans htin, ?_⟩
      by_contra hno
      exact absurd (htover.symm.trans (hcleared (Bool.eq_false_of_not_eq_true hno)).1) (by decide)
    have hq : (s.receive q).1.inSysex = true ∧ (s.receive q).1.sysexOverflow = true := by
      show (s.packet q.2).1.inSysex = true ∧ (s.packet q.2).1.sysexOverflow = true
      by_cases hstart : Starts q.2
      · rw [SysexParser.packet_starts hstart]
        exact hstays _ rfl hover
      · rw [SysexParser.packet_more hin hstart]
        exact hstays _ hin hover
    rw [Mealy.run_cons]
    exact ih hq.1 hq.2 hfree.2

/-- **The mark is set exactly when a frame has outgrown the buffer and has not ended.** -/
theorem overflow_iff_overruns (packets : List (Env × MidiEventPacket)) :
    (Mealy.run SysexParser.receive {} packets).1.sysexOverflow = true ↔ Overruns (packets.map Prod.snd) := by
  constructor
  · exact fun hover => ((parserInv_run packets).overrun hover).2
  · rintro ⟨before, p, more, after, hpackets, hp, hmore, hlong, hfree⟩
    obtain ⟨first, final, rfl, hfirst, rfl⟩ := List.map_eq_append_iff.1 hpackets
    obtain ⟨begun, stretch, rfl, -, hstretch⟩ := List.map_eq_append_iff.1 hfirst
    obtain ⟨q, rest, rfl, rfl, rfl⟩ := List.map_eq_cons_iff.1 hstretch
    have hcut : carried (q.2 :: rest.map Prod.snd) = carried [q.2] ++ carried (rest.map Prod.snd) :=
      carried_append [q.2] _
    rw [carried_append, List.mem_append, not_or, hcut] at hfree
    obtain ⟨hfree, hafter⟩ := hfree
    rw [hcut] at hlong
    -- the frame is fed to an empty buffer, and does not fit
    let s := (Mealy.run SysexParser.receive {} begun).1
    let t : SysexParser := { s with inSysex := true, buffer := [] }
    have hend := hfree
    rw [List.mem_append, not_or] at hend
    obtain ⟨-, hin, -⟩ := SysexParser.feed_noEnd (s := t) hend.1
    have hmore' : ∀ x ∈ rest, ¬Starts x.2 := fun x hx => hmore x.2 (List.mem_map_of_mem hx)
    have hrun : (Mealy.run SysexParser.receive s (q :: rest)).1 =
        (t.feed (carried [q.2] ++ carried (rest.map Prod.snd))).1 := by
      have hq : (s.receive q).1 = (t.feed (carried [q.2])).1 := congrArg Prod.fst (SysexParser.packet_starts hp)
      rw [Mealy.run_cons, hq, received_noEnd hin hmore' hend.2, SysexParser.feed_append hend.1]
    obtain ⟨-, hopen, added, hbuffer, -, hover⟩ := SysexParser.feed_noEnd (s := t) hfree
    have hmark : (t.feed (carried [q.2] ++ carried (rest.map Prod.snd))).1.sysexOverflow = true := by
      by_contra hno
      obtain ⟨-, rfl⟩ := hover (Bool.eq_false_of_not_eq_true hno)
      have hlength : (t.feed (carried [q.2] ++ carried (rest.map Prod.snd))).1.buffer.length ≤ sysexBufferSize :=
        SysexParser.feed_length (Nat.zero_le _)
      rw [hbuffer] at hlength
      exact absurd hlength (Nat.not_le.2 hlong)
    rw [Mealy.run_append, Mealy.run_append]
    exact overflow_stays (hrun ▸ hopen) (hrun ▸ hmark) hafter

end Mark

section Runs

variable (lib : UpdateLib) (build : Build)

/-- Only a packet moves the parser. -/
theorem parser_handle (n : Node) (e : Event) : (n.handle lib e).1.parser = (n.noted e).parser := by
  cases hcmd : n.commandOf e with
  | some k =>
    obtain ⟨c, data, length⟩ := k
    rw [handle_of_command lib n hcmd]
    exact congrArg (·.1) (execute_aside lib e.env _ data length c)
  | none =>
    cases e with
    | task env =>
      have hstill : (espnowTask env n).1.still.parser = n.still.parser := by rw [espnowTask_still]
      exact hstill
    | usb env packet =>
      obtain ⟨_, _, _, _, -, hnode⟩ := handle_of_none lib n hcmd (by simp)
      rw [hnode]
    | radio env src data =>
      obtain ⟨_, _, _, _, -, hnode⟩ := handle_of_none lib n hcmd (by simp)
      rw [hnode]

/-- The packet of an event, with its instant. -/
def Event.packet? : Event → Option (Env × MidiEventPacket)
  | .usb env packet => some (env, packet)
  | _ => none

/-- The packets that a node has read since it last booted, `packets` before the run. -/
def packetsSinceBoot (n : Node) (packets : List (Env × MidiEventPacket)) : List Event → List (Env × MidiEventPacket)
  | [] => packets
  | e :: es =>
    let r := n.step lib build e
    packetsSinceBoot r.1 (if reboots r.2 then [] else packets ++ e.packet?.toList) es

theorem parser_boot (nvs : Nvs) (boardId : UInt8) (mac : Mac) : (boot build nvs boardId mac).parser = {} := by
  unfold boot applyRole
  dsimp only
  split_ifs <;> rfl

/-- The parser of a node is what these packets make of it. -/
theorem parser_run {n : Node} {packets : List (Env × MidiEventPacket)}
    (h : n.parser = (Mealy.run SysexParser.receive {} packets).1) (es : List Event) :
    (Mealy.run (Node.step lib build) n es).1.parser =
      (Mealy.run SysexParser.receive {} (packetsSinceBoot lib build n packets es)).1 := by
  induction es generalizing n packets with
  | nil => exact h
  | cons e es ih =>
    rw [Mealy.run_cons]
    refine ih ?_
    cases hre : reboots (n.handle lib e).2 with
    | true =>
      rw [step_of_reboots build hre, if_pos hre]
      exact parser_boot build _ _ _
    | false =>
      rw [step_of_not_reboots build hre, hre, if_neg Bool.false_ne_true, parser_handle]
      cases e with
      | usb env packet =>
        show (n.parser.packet packet).1 = _
        rw [h]
        show _ = (Mealy.run SysexParser.receive {} (packets ++ [(env, packet)])).1
        rw [Mealy.run_append]
        rfl
      | _ => simpa [Event.packet?, Node.noted] using h

/-- **After any run from boot** the mark is set exactly when a frame has outgrown the buffer and has not ended. -/
theorem overflow_run (nvs : Nvs) (boardId : UInt8) (mac : Mac) (history : List Event) :
    (Mealy.run (Node.step lib build) (boot build nvs boardId mac) history).1.parser.sysexOverflow = true ↔
      Overruns ((packetsSinceBoot lib build (boot build nvs boardId mac) [] history).map Prod.snd) := by
  have hempty : (boot build nvs boardId mac).parser = (Mealy.run SysexParser.receive {} []).1 := parser_boot build nvs boardId mac
  rw [parser_run lib build hempty history]
  exact overflow_iff_overruns _

end Runs

/-! ## A frame cut off -/

/-- `QUERY_CONFIG` as the host sends it. -/
def queryConfigFrame : List UInt8 := [sysexStart, sysexManufacturerId, sysexCmdQueryConfig, sysexEnd]

/-- Its two packets. -/
def queryConfigPackets : List (Env × MidiEventPacket) :=
  [({ millis := 900 }, ⟨0x04, 0xF0, 0x7D, 0x01⟩), ({ millis := 900 }, ⟨0x05, 0xF7, 0, 0⟩)]

/-- A SysEx stream of 513 bytes that the host breaks off before its end. -/
def brokenOff : List Event :=
  .usb { millis := 800 } ⟨0x04, 0xF0, 0x7E, 0x00⟩ ::
    List.replicate 170 (.usb { millis := 801 } ⟨0x04, 0x00, 0x00, 0x00⟩)

theorem queryConfig_carried : Carries (queryConfigPackets.map Prod.snd) queryConfigFrame := by
  have hcut : queryConfigPackets.map Prod.snd = Host.sysexPackets queryConfigFrame := by decide
  rw [hcut]
  exact carries_sysexPackets (by decide)

theorem queryConfig_complete : CompleteMessage queryConfigFrame := by
  have hbody : ∀ b ∈ [sysexManufacturerId, sysexCmdQueryConfig], b < 0x80 :=
    List.forall_mem_cons.2 ⟨by decide, List.forall_mem_singleton.2 (by decide)⟩
  exact ⟨⟨_, rfl, hbody⟩, by decide⟩

theorem handledOnce_brokenOff :
    HandledOnce noUpdate (Mealy.run (Node.step noUpdate wildcardBuild) freshSlave brokenOff).1 queryConfigPackets
        queryConfigFrame ↔
      (Mealy.run (Node.step noUpdate wildcardBuild) freshSlave brokenOff).1.parser.sysexOverflow = false :=
  handledOnce_iff noUpdate wildcardBuild freshSlave brokenOff queryConfig_complete queryConfig_carried

/-- **The first message after a broken-off stream is not handled.** -/
theorem brokenOff_discards :
    ¬∀ (lib : UpdateLib) (build : Build) (n₀ : Node) (history : List Event) (message : List UInt8)
      (packets : List (Env × MidiEventPacket)), CompleteMessage message →
        Carries (packets.map Prod.snd) message →
          HandledOnce lib (Mealy.run (Node.step lib build) n₀ history).1 packets message := by
  intro hall
  have honce := hall noUpdate wildcardBuild freshSlave brokenOff queryConfigFrame queryConfigPackets
    queryConfig_complete queryConfig_carried
  have hnone : midiCalls noUpdate (Mealy.run (Node.step noUpdate wildcardBuild) freshSlave brokenOff).1
      queryConfigPackets = [] := by
    have hnil : (midiCalls noUpdate (Mealy.run (Node.step noUpdate wildcardBuild) freshSlave brokenOff).1
        queryConfigPackets).length = 0 := by
      decide +kernel
    exact List.length_eq_zero_iff.1 hnil
  unfold HandledOnce at honce
  rw [hnone] at honce
  cases honce

end Nowde
