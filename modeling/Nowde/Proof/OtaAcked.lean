import Nowde.Proof.OtaPlain

/-!
# An acknowledged update

The host sends one chunk at a time under a sequence number and repeats the frame until that number
comes back with status 0. Packets, whole frames and replies get lost. The node checks the length
of what arrives and echoes the number, but it does not compare it with the one it wrote last.

* `received_ackedFrame`: whatever survives of a frame completes at most one message, and what that has
  between `F0 7D 0C` and `F7` is `SysexParser.arrived`.
* `CutShort.not_lengthFits`: a packet lost behind the first two never passes the length check.
* `transfer_prefix`: as long as no reply to a chunk taken as it was sent is lost, and a frame whose first
  or second packet is lost does not pass for one with its own length.
* `roundOk_of_losses`: what may be lost without harm, whatever the chunk and the state.
* `transfer_notExactlyOnce`: one lost reply, and one lost length.
-/

namespace Nowde

/-! ## The transfer -/

/-- The two ends of a transfer: the node, and the number of chunks the host has seen acknowledged. -/
structure Transfer where
  node : Node
  acked : ℕ := 0

/-- What is lost in one round: a packet is read at some instant or not at all, and a reply
reaches the host or not. -/
structure Round where
  reads : List (Option Env)
  replies : List Bool

/-- The packets read, with the instant of each. -/
def Round.read (r : Round) (packets : List MidiEventPacket) : List (Env × MidiEventPacket) :=
  (r.reads.zip packets).filterMap fun p => p.1.map fun env => (env, p.2)

/-- The replies that reach the host. -/
def Round.heard (r : Round) (out : List Out) : List Out :=
  (r.replies.zip out).filterMap fun p => if p.1 then some p.2 else none

/-- The sequence number of chunk `k`. -/
def chunkSeq (k : ℕ) : UInt8 := UInt8.ofNat (k % 128)

/-- The frame of chunk `k`. -/
def ackedFrame (k : ℕ) (chunk : List UInt8) : List UInt8 := Host.send (Host.otaDataAcked (chunkSeq k) chunk)

/-- The reply the host waits for. -/
def ackOf (k : ℕ) : Out :=
  .host (.sysExBytes [sysexStart, sysexManufacturerId, sysexCmdOtaAck, chunkSeq k, 0, sysexEnd])

/-- The packets of chunk `chunk`, sent as the one the host is at, and what the node makes of them. -/
def Transfer.deliver (lib : UpdateLib) (t : Transfer) (r : Round) (chunk : List UInt8) : Node × List Out :=
  midiProcess lib t.node (r.read (Host.sysexPackets (ackedFrame t.acked chunk)))

/-- One round: the host sends the chunk it is at, the node answers, and the host moves on if it
hears the answer it waits for. After the last chunk it sends nothing. -/
def transferRound (lib : UpdateLib) (chunks : List (List UInt8)) (t : Transfer) (r : Round) : Transfer × List Out :=
  match chunks[t.acked]? with
  | none => (t, [])
  | some chunk =>
    let m := t.deliver lib r chunk
    ({ node := m.1, acked := if ackOf t.acked ∈ r.heard m.2 then t.acked + 1 else t.acked }, m.2)

/-- What has been written in the session. -/
def Transfer.written (lib : UpdateLib) (t : Transfer) : List UInt8 := (updateSession lib t.node.ota.calls).bytes

/-! ## What is put together -/

/-- Packet `i` of the round's frame is read. -/
def Round.got (r : Round) (i : ℕ) : Bool := (r.reads.getD i none).isSome

/-- The round without the first packet of its frame. -/
def Round.tail (r : Round) : Round := { r with reads := r.reads.drop 1 }

/-- The first packet of every frame. -/
def ackedHead : List UInt8 := [sysexStart, sysexManufacturerId, sysexCmdOtaDataAcked]

/-- What a frame has between its first packet and its `F7`. -/
def ackedBody (k : ℕ) (chunk : List UInt8) : List UInt8 := chunkSeq k :: UInt8.ofNat chunk.length :: encode7 chunk

/-- **What arrives of a body**: the packets that are read, after their own head or, where that is lost,
after what an unfinished frame left in the buffer. Without the `F7` or without any head nothing does. -/
def SysexParser.arrived (s : SysexParser) (r : Round) (body : List UInt8) : Option (List UInt8) :=
  let rest := carried ((r.tail.read (Host.sysexPackets (body ++ [sysexEnd]))).map Prod.snd)
  if sysexEnd ∈ rest ∧ s.sysexOverflow = false then
    if r.got 0 then some rest.dropLast
    else if s.inSysex then some (s.buffer.drop 3 ++ rest.dropLast)
    else none
  else none

section Parser

variable {s : SysexParser}

/-- The head of a frame starts over, whatever was open. -/
theorem SysexParser.receive_head (env : Env) :
    s.receive (env, ⟨0x04, sysexStart, sysexManufacturerId, sysexCmdOtaDataAcked⟩) =
      ({ s with inSysex := true, buffer := ackedHead }, []) := by
  have hpacket : s.packet ⟨0x04, sysexStart, sysexManufacturerId, sysexCmdOtaDataAcked⟩ =
      ({ s with inSysex := true, buffer := ackedHead }, none) := by
    rfl
  unfold SysexParser.receive
  rw [hpacket]
  rfl

/-- The parser is between frames, or inside one of this command. -/
def SysexParser.Acked (s : SysexParser) : Prop :=
  s.inSysex = true → ∃ begun, s.buffer = ackedHead ++ begun ∧ sysexEnd ∉ begun

end Parser

/-! ## What survives of a frame -/

section Surviving

/-- The last packet that survives completes the body that survives. -/
structure Completes (ps : List MidiEventPacket) (rest : List UInt8) : Prop where
  last : ∃ front p, ps = front ++ [p] ∧ carried [p] ≠ []
  carried : carried ps = rest ++ [sysexEnd]
  noEnd : sysexEnd ∉ rest

/-- **What survives of a frame**: unless its `F7` is lost, the whole body or at least one group of
three bytes less. -/
theorem surviving {body : List UInt8} (hend : sysexEnd ∉ body) {ps : List MidiEventPacket}
    (h : ps.Sublist (Host.sysexPackets (body ++ [sysexEnd]))) :
    sysexEnd ∉ carried ps ∨
      ∃ rest, Completes ps rest ∧ (rest = body ∨ rest.length + 3 ≤ body.length) := by
  match body with
  | [] =>
    rcases List.sublist_singleton.1 h with rfl | rfl
    · exact Or.inl List.not_mem_nil
    · exact Or.inr ⟨[], ⟨⟨[], _, rfl, by simp⟩, by simp, hend⟩, Or.inl rfl⟩
  | [a] =>
    rcases List.sublist_singleton.1 h with rfl | rfl
    · exact Or.inl List.not_mem_nil
    · exact Or.inr ⟨[a], ⟨⟨[], _, rfl, by simp⟩, by simp, hend⟩, Or.inl rfl⟩
  | [a, b] =>
    rcases List.sublist_singleton.1 h with rfl | rfl
    · exact Or.inl List.not_mem_nil
    · exact Or.inr ⟨[a, b], ⟨⟨[], _, rfl, by simp⟩, by simp, hend⟩, Or.inl rfl⟩
  | a :: b :: c :: body =>
    have hcut : Host.sysexPackets (a :: b :: c :: body ++ [sysexEnd]) =
        ⟨0x04, a, b, c⟩ :: Host.sysexPackets (body ++ [sysexEnd]) := by
      cases body <;> rfl
    simp only [List.mem_cons, not_or] at hend
    obtain ⟨ha, hb, hc, hend'⟩ := hend
    rw [hcut] at h
    rcases List.sublist_cons_iff.1 h with hlost | ⟨ps, rfl, hread⟩
    · -- the first group is lost
      rcases surviving hend' hlost with hno | ⟨rest, hrest, hlen⟩
      · exact Or.inl hno
      · refine Or.inr ⟨rest, hrest, Or.inr ?_⟩
        rcases hlen with rfl | hlen
        · exact le_rfl
        · simp only [List.length_cons]
          omega
    · rcases surviving hend' hread with hno | ⟨rest, ⟨⟨front, p, rfl, hp⟩, hcarried, hnoEnd⟩, hlen⟩
      · refine Or.inl ?_
        simp only [carried_more, List.mem_cons, not_or]
        exact ⟨ha, hb, hc, hno⟩
      · refine Or.inr ⟨a :: b :: c :: rest, ⟨⟨⟨0x04, a, b, c⟩ :: front, p, rfl, hp⟩, ?_, ?_⟩, ?_⟩
        · rw [carried_more, hcarried]
          rfl
        · simp only [List.mem_cons, not_or]
          exact ⟨ha, hb, hc, hnoEnd⟩
        · rcases hlen with rfl | hlen
          · exact Or.inl rfl
          · simp only [List.length_cons]
            omega

/-- The packets of bytes without a start byte start no frame. -/
theorem not_starts_of_mem {l : List UInt8} (hstart : sysexStart ∉ l) : ∀ p ∈ Host.sysexPackets l, ¬Starts p := by
  fun_induction Host.sysexPackets l with
  | case1 => simp
  | case2 a =>
    simp only [List.mem_singleton, forall_eq]
    exact fun h => hstart (by simp [← h.2])
  | case3 a b =>
    simp only [List.mem_singleton, forall_eq]
    exact fun h => hstart (by simp [← h.2])
  | case4 a b c =>
    simp only [List.mem_singleton, forall_eq]
    exact fun h => hstart (by simp [← h.2])
  | case5 a b c d rest ih =>
    simp only [List.mem_cons, not_or] at hstart
    intro p hp
    rcases List.mem_cons.1 hp with rfl | hp
    · exact fun h => hstart.1 h.2.symm
    · refine ih ?_ p hp
      simp only [List.mem_cons, not_or]
      exact ⟨hstart.2.2.2.1, hstart.2.2.2.2⟩

/-- **The rest of a frame** completes what is open, or goes on with it. -/
theorem received_rest {s : SysexParser} (hin : s.inSysex = true) {packets : List (Env × MidiEventPacket)}
    (hp : ∀ p ∈ packets, ¬Starts p.2) {rest : List UInt8} (h : Completes (packets.map Prod.snd) rest) :
    (Mealy.run SysexParser.receive s packets).1 = {} ∧
      ((Mealy.run SysexParser.receive s packets).2 = [] ∨ s.sysexOverflow = false ∧
        ∃ env, (Mealy.run SysexParser.receive s packets).2 = [(env, s.buffer ++ rest ++ [sysexEnd])]) := by
  obtain ⟨⟨front, p, hcut, hlast⟩, hcarried, hnoEnd⟩ := h
  obtain ⟨first, final, rfl, rfl, hfinal⟩ := List.map_eq_append_iff.1 hcut
  obtain ⟨⟨env, p'⟩, rfl, rfl⟩ := List.map_eq_singleton_iff.1 hfinal
  rw [List.map_append, List.map_singleton, carried_append] at hcarried
  -- the `F7` is the last byte there is
  have hfront : sysexEnd ∉ carried (first.map Prod.snd) := by
    obtain ⟨front, b, hb⟩ := List.eq_nil_or_concat (carried [p']) |>.resolve_left hlast
    rw [hb, List.concat_eq_append, ← List.append_assoc] at hcarried
    have hrest := (List.append_inj' hcarried rfl).1
    rw [← hrest, List.mem_append, not_or] at hnoEnd
    exact hnoEnd.1
  have hrun := received_noEnd hin (fun q hq => hp q (by simp [hq])) hfront
  obtain ⟨-, hin', -⟩ := SysexParser.feed_noEnd (s := s) hfront
  have hstep : (s.feed (carried (first.map Prod.snd))).1.packet p' = s.feed (rest ++ [sysexEnd]) := by
    rw [SysexParser.packet_more (hin'.trans hin) (hp (env, p') (by simp)), ← SysexParser.feed_append hfront, hcarried]
  obtain ⟨hreset, hmessage⟩ := SysexParser.feed_endByte (s := s) hnoEnd
  rw [Mealy.run_append, hrun]
  simp only [Mealy.run_cons, Mealy.run_nil, SysexParser.receive, hstep, List.nil_append, List.append_nil]
  refine ⟨hreset, ?_⟩
  cases hm : (s.feed (rest ++ [sysexEnd])).2 with
  | none => exact Or.inl rfl
  | some m =>
    obtain ⟨hover, rfl⟩ := hmessage m hm
    exact Or.inr ⟨hover, env, rfl⟩

/-- The head of a frame is read or not, then the rest. -/
theorem Round.read_cons (r : Round) (p : MidiEventPacket) (ps : List MidiEventPacket) :
    r.got 0 = true ∧ (∃ env, r.read (p :: ps) = (env, p) :: r.tail.read ps) ∨
      r.got 0 = false ∧ r.read (p :: ps) = r.tail.read ps := by
  obtain ⟨reads, replies⟩ := r
  cases reads with
  | nil => exact Or.inr ⟨rfl, rfl⟩
  | cons e es =>
    cases e with
    | none => exact Or.inr ⟨rfl, rfl⟩
    | some env => exact Or.inl ⟨rfl, env, rfl⟩

theorem Round.read_sublist (r : Round) (packets : List MidiEventPacket) :
    ((r.read packets).map Prod.snd).Sublist packets := by
  induction packets generalizing r with
  | nil => simp [Round.read]
  | cons p ps ih =>
    rcases r.read_cons p ps with ⟨-, env, hread⟩ | ⟨-, hread⟩
    · rw [hread]
      exact (ih r.tail).cons_cons p
    · rw [hread]
      exact (ih r.tail).cons p

theorem not_starts_read {body : List UInt8} (hclean : Clean body) (r : Round) :
    ∀ p ∈ r.read (Host.sysexPackets (body ++ [sysexEnd])), ¬Starts p.2 := by
  intro p hp
  refine not_starts_of_mem ?_ _ ((r.read_sublist _).subset (List.mem_map_of_mem hp))
  simp only [List.mem_append, List.mem_singleton, not_or]
  exact ⟨hclean.noStart, by decide⟩

/-- What a round reads of the rest of a frame, in an open frame of this command. -/
theorem received_open {s : SysexParser} (hin : s.inSysex = true) {begun : List UInt8}
    (hbuffer : s.buffer = ackedHead ++ begun) (hbegun : sysexEnd ∉ begun) {body : List UInt8} (hclean : Clean body)
    (r : Round) :
    let packets := r.read (Host.sysexPackets (body ++ [sysexEnd]))
    let rest := carried (packets.map Prod.snd)
    (Mealy.run SysexParser.receive s packets).1.Acked ∧
      ((Mealy.run SysexParser.receive s packets).2 = [] ∨
        s.sysexOverflow = false ∧ sysexEnd ∈ rest ∧ sysexEnd ∉ rest.dropLast ∧
          (rest.dropLast = body ∨ rest.dropLast.length + 3 ≤ body.length) ∧
          ∃ env, (Mealy.run SysexParser.receive s packets).2 =
            [(env, ackedHead ++ (begun ++ rest.dropLast) ++ [sysexEnd])]) := by
  intro packets rest
  have hsub := r.read_sublist (Host.sysexPackets (body ++ [sysexEnd]))
  have htail : ∀ p ∈ packets, ¬Starts p.2 := not_starts_read hclean r
  rcases surviving hclean.noEnd hsub with hno | ⟨survived, hcompletes, hlen⟩
  · obtain ⟨-, -, added, hadded, hsubset, -⟩ := SysexParser.feed_noEnd (s := s) hno
    rw [received_noEnd hin htail hno]
    refine ⟨fun _ => ⟨begun ++ added, ?_, ?_⟩, Or.inl rfl⟩
    · rw [hadded, hbuffer, List.append_assoc]
    · rw [List.mem_append, not_or]
      exact ⟨hbegun, fun h => hno (hsubset.subset h)⟩
  · have hrest : rest = survived ++ [sysexEnd] := hcompletes.carried
    have hcut : rest.dropLast = survived := by rw [hrest, List.dropLast_concat]
    obtain ⟨hreset, hout⟩ := received_rest hin htail hcompletes
    refine ⟨hreset ▸ fun h => (Bool.false_ne_true h).elim, ?_⟩
    rcases hout with hnone | ⟨hover, env, hmessage⟩
    · exact Or.inl hnone
    · rw [hcut]
      refine Or.inr ⟨hover, by simp [hrest], hcompletes.noEnd, hlen, env, ?_⟩
      rw [hmessage, hbuffer, List.append_assoc ackedHead]

variable {chunk : List UInt8}

theorem chunkSeq_lt (k : ℕ) : chunkSeq k < 0x80 := by
  unfold chunkSeq
  rw [UInt8.lt_iff_toNat_lt, UInt8.toNat_ofNat']
  have : (0x80 : UInt8).toNat = 128 := rfl
  omega

theorem sysexPackets_ackedFrame (k : ℕ) : Host.sysexPackets (ackedFrame k chunk) =
    ⟨0x04, sysexStart, sysexManufacturerId, sysexCmdOtaDataAcked⟩ ::
      Host.sysexPackets (ackedBody k chunk ++ [sysexEnd]) := rfl

/-- Past its head a frame has neither a start byte nor an end byte but its last. -/
theorem clean_ackedBody (k : ℕ) (hchunk : chunk.length ≤ 100) : Clean (ackedBody k chunk) := by
  obtain ⟨h1, h2⟩ := clean_encode7 chunk
  have hseq := chunkSeq_lt k
  have hlen : UInt8.ofNat chunk.length < 0x80 := by
    rw [UInt8.lt_iff_toNat_lt, UInt8.toNat_ofNat']
    have : (0x80 : UInt8).toNat = 128 := rfl
    omega
  unfold ackedBody
  constructor
  · simp only [List.mem_cons, not_or]
    exact ⟨fun h => absurd (h ▸ hseq) (by decide), fun h => absurd (h ▸ hlen) (by decide), h1⟩
  · simp only [List.mem_cons, not_or]
    exact ⟨fun h => absurd (h ▸ hseq) (by decide), fun h => absurd (h ▸ hlen) (by decide), h2⟩

/-- Where the second packet is read, the number and the length stand in their places. -/
theorem carried_second (k : ℕ) (hpos : 1 ≤ chunk.length) {r : Round} (hgot : r.got 0 = true) :
    ∃ msb later, carried ((r.read (Host.sysexPackets (ackedBody k chunk ++ [sysexEnd]))).map Prod.snd) =
      chunkSeq k :: UInt8.ofNat chunk.length :: msb :: later := by
  obtain ⟨msb, more, hcode⟩ : ∃ msb more, encode7 chunk = msb :: more := by
    apply List.exists_cons_of_length_pos
    rw [length_encode7]
    omega
  have hcut : Host.sysexPackets (ackedBody k chunk ++ [sysexEnd]) =
      ⟨0x04, chunkSeq k, UInt8.ofNat chunk.length, msb⟩ :: Host.sysexPackets (more ++ [sysexEnd]) := by
    unfold ackedBody
    rw [hcode]
    cases more <;> rfl
  rw [hcut]
  rcases r.read_cons _ (Host.sysexPackets (more ++ [sysexEnd])) with ⟨-, env, hread⟩ | ⟨hlost, -⟩
  · rw [hread]
    exact ⟨msb, _, carried_more _ _ _ _⟩
  · exact absurd (hgot.symm.trans hlost) (by decide)

/-- A frame was damaged behind its second packet: it is shorter than its length byte says. -/
structure CutShort (k : ℕ) (chunk body : List UInt8) : Prop where
  shorter : body.length + 3 ≤ (ackedBody k chunk).length
  length : byteAt body 1 = UInt8.ofNat chunk.length

/-- **Whatever survives of a frame** completes at most one message: what arrived of the body between the
head and the end byte. -/
theorem received_ackedFrame {s : SysexParser} (h : s.Acked) (k : ℕ) (hpos : 1 ≤ chunk.length)
    (hchunk : chunk.length ≤ 100) (r : Round) :
    (Mealy.run SysexParser.receive s (r.read (Host.sysexPackets (ackedFrame k chunk)))).1.Acked ∧
      ((Mealy.run SysexParser.receive s (r.read (Host.sysexPackets (ackedFrame k chunk)))).2 = [] ∨
        ∃ body ∈ s.arrived r (ackedBody k chunk), sysexEnd ∉ body ∧
          (r.got 0 = true → r.got 1 = true → body = ackedBody k chunk ∨ CutShort k chunk body) ∧
          ∃ env, (Mealy.run SysexParser.receive s (r.read (Host.sysexPackets (ackedFrame k chunk)))).2 =
            [(env, ackedHead ++ body ++ [sysexEnd])]) := by
  have hclean := clean_ackedBody k hchunk
  rw [sysexPackets_ackedFrame]
  rcases r.read_cons ⟨0x04, sysexStart, sysexManufacturerId, sysexCmdOtaDataAcked⟩
    (Host.sysexPackets (ackedBody k chunk ++ [sysexEnd])) with ⟨hgot, env, hread⟩ | ⟨hlost, hread⟩
  · -- the head starts over
    rw [hread, Mealy.run_cons, SysexParser.receive_head]
    obtain ⟨hacked, hout⟩ := received_open (s := { s with inSysex := true, buffer := ackedHead }) rfl
      (List.append_nil _).symm List.not_mem_nil hclean r.tail
    refine ⟨hacked, ?_⟩
    rcases hout with hnone | ⟨hover, hmem, hnoEnd, hlen, env, hmessage⟩
    · exact Or.inl hnone
    · refine Or.inr ⟨_, ?_, hnoEnd, ?_, env, hmessage⟩
      · unfold SysexParser.arrived
        dsimp only
        rw [if_pos ⟨hmem, hover⟩, if_pos hgot]
        rfl
      · intro _ hsecond
        rcases hlen with hwhole | hshort
        · exact Or.inl hwhole
        · refine Or.inr ⟨hshort, ?_⟩
          have htail : r.tail.got 0 = true := by simpa [Round.got, Round.tail] using hsecond
          obtain ⟨msb, later, hcarried⟩ := carried_second k hpos htail
          simp only [hcarried, List.dropLast_cons_cons]
          rfl
  · rw [hread]
    cases hin : s.inSysex with
    | false =>
      rw [received_idle hin (not_starts_read hclean r.tail)]
      exact ⟨h, Or.inl rfl⟩
    | true =>
      obtain ⟨begun, hbuffer, hbegun⟩ := h hin
      obtain ⟨hacked, hout⟩ := received_open hin hbuffer hbegun hclean r.tail
      refine ⟨hacked, ?_⟩
      rcases hout with hnone | ⟨hover, hmem, hnoEnd, hlen, env, hmessage⟩
      · exact Or.inl hnone
      · refine Or.inr ⟨_, ?_, ?_, fun hgot => absurd (hgot.symm.trans hlost) (by decide), env, hmessage⟩
        · unfold SysexParser.arrived
          dsimp only
          rw [if_pos ⟨hmem, hover⟩, if_neg (by rw [hlost]; exact Bool.false_ne_true), if_pos hin, hbuffer]
          rfl
        · rw [List.mem_append, not_or]
          exact ⟨hbegun, hnoEnd⟩

end Surviving

/-! ## The length check -/

/-- The handler's length check. -/
def PassesLengthCheck (message : List UInt8) : Prop :=
  let length := (UInt8.ofNat message.length).toNat
  isOwnSysEx message length = true ∧ length ≥ 6 ∧ byteAt message 4 ≠ 0 ∧
    (decode7bit (slice message 5 (length - 6))).length = (byteAt message 4).toNat

/-- The byte in the length's place is not zero and is what the bytes behind it decode to. -/
def LengthFits (body : List UInt8) : Prop :=
  byteAt body 1 ≠ 0 ∧ (body.length - 2) - (body.length - 2 + 7) / 8 = (byteAt body 1).toNat

instance (body : List UInt8) : Decidable (LengthFits body) := inferInstanceAs (Decidable (_ ∧ _))

section Check

variable {body : List UInt8}

theorem byteAt_message (i : ℕ) (hi : i < body.length) :
    byteAt (ackedHead ++ body ++ [sysexEnd]) (i + 3) = byteAt body i := by
  simp only [byteAt, List.getD_eq_getElem?_getD]
  rw [List.append_assoc, List.getElem?_append_right (by simp [ackedHead]),
    List.getElem?_append_left (by simpa [ackedHead] using hi)]
  simp [ackedHead]

/-- **What the check lets through** has the length it says. -/
theorem PassesLengthCheck.fits (hend : sysexEnd ∉ body) (h : PassesLengthCheck (ackedHead ++ body ++ [sysexEnd])) :
    LengthFits body ∧ (UInt8.ofNat (ackedHead ++ body ++ [sysexEnd]).length).toNat = body.length + 4 ∧
      2 ≤ body.length := by
  obtain ⟨hown, hsix, hwant, hlen⟩ := h
  have hmessage : (ackedHead ++ body ++ [sysexEnd]).length = body.length + 4 := by simp [ackedHead]
  -- the length was not cut to 8 bits, or the message would not end in `F7`
  have hwhole : (UInt8.ofNat (ackedHead ++ body ++ [sysexEnd]).length).toNat = body.length + 4 := by
    by_contra hcut
    have hle : (UInt8.ofNat (ackedHead ++ body ++ [sysexEnd]).length).toNat ≤ (ackedHead ++ body).length := by
      rw [hmessage, UInt8.toNat_ofNat'] at hcut ⊢
      simp only [ackedHead, List.length_append, List.length_cons, List.length_nil]
      omega
    have hnot : sysexEnd ∉ ackedHead ++ body := by
      rw [List.mem_append, not_or]
      exact ⟨by decide, hend⟩
    rw [isOwnSysEx_cut hnot hle] at hown
    cases hown
  rw [hwhole] at hsix hlen
  have htwo : 2 ≤ body.length := by omega
  have hbyte : byteAt (ackedHead ++ body ++ [sysexEnd]) 4 = byteAt body 1 := byteAt_message 1 (by omega)
  have hslice : (slice (ackedHead ++ body ++ [sysexEnd]) 5 (body.length + 4 - 6)).length = body.length - 2 := by
    simp [slice, ackedHead]
    omega
  rw [hbyte] at hwant hlen
  rw [length_decode7bit, hslice] at hlen
  exact ⟨⟨hwant, hlen⟩, hwhole, htwo⟩

/-- The bytes the handler decodes. -/
theorem slice_message (htwo : 2 ≤ body.length) :
    slice (ackedHead ++ body ++ [sysexEnd]) 5 (body.length + 4 - 6) = body.drop 2 := by
  simp [slice, ackedHead, List.drop_append_of_le_length htwo]

variable {k : ℕ} {chunk : List UInt8}

/-- **A frame cut short behind its second packet does not pass.** -/
theorem CutShort.not_lengthFits (hchunk : chunk.length ≤ 100) (h : CutShort k chunk body) : ¬LengthFits body := by
  rintro ⟨-, hfits⟩
  have hshorter := h.shorter
  have henc := length_encode7 chunk
  rw [h.length, UInt8.toNat_ofNat'] at hfits
  simp only [ackedBody, List.length_cons] at hshorter
  omega

end Check

/-! ## One frame at the node -/

/-- A session is open and the library takes the bytes. -/
def Takes (lib : UpdateLib) (o : Ota) (bytes : List UInt8) : Prop :=
  o.otaInProgress = true ∧ lib.write o.calls bytes = bytes.length

instance (lib : UpdateLib) (o : Ota) (bytes : List UInt8) : Decidable (Takes lib o bytes) :=
  inferInstanceAs (Decidable (_ ∧ _))

section Frame

variable {lib : UpdateLib} {o : Ota} (env : Env)

theorem isOtaFrame_acked (body : List UInt8) : IsOtaFrame (ackedHead ++ body) := by
  intro c hc
  unfold sysexCommand at hc
  split at hc
  · have hcode : c = .otaDataAcked := by
      have hof : Command.ofCode sysexCmdOtaDataAcked = some .otaDataAcked := by decide
      exact Option.some.inj (hc.symm.trans hof)
    rw [hcode]
    rfl
  · cases hc

theorem ackOf_mem_sendOtaAck {k : ℕ} {seq st : UInt8} :
    ackOf k ∈ sendOtaAck seq st ↔ seq = chunkSeq k ∧ st = 0 := by
  simp only [ackOf, sendOtaAck, List.mem_singleton, Out.host.injEq, HostMsg.sysExBytes.injEq, List.cons.injEq,
    true_and, and_true, eq_comm]

variable (hall : ∀ calls bytes, lib.write calls bytes = bytes.length ∨ lib.write calls bytes = 0)

include hall

/-- **A frame of this command** is written if it passes the check, a session is open and the library
takes it; otherwise nothing is written and the answer is not the one the host waits for. -/
theorem otaFrame_acked (rest : List UInt8) (k : ℕ) :
    let message := ackedHead ++ rest
    let bytes := decode7bit (slice message 5 ((UInt8.ofNat message.length).toNat - 6))
    PassesLengthCheck message ∧ Takes lib o bytes ∧
        (otaFrame lib o (env, message)).1.calls = o.calls ++ [.write bytes] ∧
        (otaFrame lib o (env, message)).2 = sendOtaAck (byteAt message 3) 0 ∨
      (updateSession lib (otaFrame lib o (env, message)).1.calls).bytes = (updateSession lib o.calls).bytes ∧
        ackOf k ∉ (otaFrame lib o (env, message)).2 := by
  intro message
  have hcode : byteAt message 2 = sysexCmdOtaDataAcked := rfl
  have hof : Command.ofCode sysexCmdOtaDataAcked = some .otaDataAcked := by decide
  unfold otaFrame sysexCommand
  dsimp only
  generalize hlen : (UInt8.ofNat message.length).toNat = length
  by_cases hown : isOwnSysEx message length = true ∧ ¬length < 4
  · rw [if_pos hown, hcode, hof]
    simp only [otaCommand, otaDataAcked]
    split
    · next hin =>
      rw [if_pos hin.2]
      split
      · exact Or.inr ⟨rfl, by rw [ackOf_mem_sendOtaAck]; simp⟩
      · next hwant =>
        push Not at hwant
        have hpass : PassesLengthCheck message := by
          unfold PassesLengthCheck
          dsimp only
          rw [hlen]
          exact ⟨hown.1, hin.2, hwant.2, hwant.1⟩
        split
        · next hfail =>
          -- a refused write took nothing
          have hzero : lib.write o.calls (decode7bit (slice message 5 (length - 6))) = 0 := by
            rcases hall o.calls (decode7bit (slice message 5 (length - 6))) with hw | hw
            · exact absurd hw hfail
            · exact hw
          refine Or.inr ⟨?_, by rw [ackOf_mem_sendOtaAck]; simp⟩
          rw [updateSession_append, updateSession_append]
          simp [UpdateSession.next, hzero]
        · next hw => exact Or.inl ⟨hpass, ⟨hin.1, not_not.1 hw⟩, rfl, rfl⟩
    · exact Or.inr ⟨rfl, by rw [ackOf_mem_sendOtaAck]; simp⟩
  · rw [if_neg hown]
    refine Or.inr ⟨rfl, ?_⟩
    intro hmem
    simp only [sysexRejection] at hmem
    split at hmem
    · cases hmem
    · split at hmem <;> cases List.mem_singleton.1 hmem

/-- The same, of what arrived. -/
theorem otaFrame_arrived {body : List UInt8} (hend : sysexEnd ∉ body) (k : ℕ) :
    let message := ackedHead ++ body ++ [sysexEnd]
    let bytes := decode7bit (body.drop 2)
    LengthFits body ∧ Takes lib o bytes ∧
        (otaFrame lib o (env, message)).1.calls = o.calls ++ [.write bytes] ∧
        (otaFrame lib o (env, message)).2 = sendOtaAck (byteAt body 0) 0 ∨
      (updateSession lib (otaFrame lib o (env, message)).1.calls).bytes = (updateSession lib o.calls).bytes ∧
        ackOf k ∉ (otaFrame lib o (env, message)).2 := by
  intro message bytes
  rcases otaFrame_acked (o := o) env hall (body ++ [sysexEnd]) k with ⟨hpass, htakes, hcalls, hreply⟩ | hno
  · rw [← List.append_assoc] at hpass htakes hcalls hreply
    obtain ⟨hfits, hwhole, htwo⟩ := hpass.fits hend
    rw [hwhole, slice_message htwo] at htakes hcalls
    refine Or.inl ⟨hfits, htakes, hcalls, hreply.trans ?_⟩
    rw [show byteAt (ackedHead ++ body ++ [sysexEnd]) 3 = byteAt body 0 from byteAt_message 0 (by omega)]
  · rw [← List.append_assoc] at hno
    exact Or.inr hno

end Frame

/-! ## The run -/

section Transfer

variable {lib : UpdateLib} {chunks : List (List UInt8)}

/-- **The condition**, on what is lost in a round and the state before it. A chunk that arrives as it
was sent, and is taken, is answered and the answer is heard. Of anything else that arrives the head and
the second packet, with the number and the length, were read, or the byte in the length's place does not
fit, or nothing is taken. -/
def RoundOk (lib : UpdateLib) (chunks : List (List UInt8)) (t : Transfer) (r : Round) : Prop :=
  ∀ chunk ∈ chunks[t.acked]?, ∀ body ∈ t.node.parser.arrived r (ackedBody t.acked chunk),
    if body = ackedBody t.acked chunk then Takes lib t.node.ota chunk → r.replies.head? = some true
    else r.got 0 = true ∧ r.got 1 = true ∨ ¬(LengthFits body ∧ Takes lib t.node.ota (decode7bit (body.drop 2)))

instance (lib : UpdateLib) (chunks : List (List UInt8)) (t : Transfer) (r : Round) :
    Decidable (RoundOk lib chunks t r) :=
  inferInstanceAs (Decidable (∀ chunk ∈ chunks[t.acked]?,
    ∀ body ∈ t.node.parser.arrived r (ackedBody t.acked chunk), ite _ _ _))

/-- **Losses that do no harm**: the whole frame, or any packets behind the first two with the reply heard. -/
theorem roundOk_of_losses {lib : UpdateLib} {chunks : List (List UInt8)} {t : Transfer} {r : Round}
    (h : (∀ e ∈ r.reads, e = none) ∨ r.got 0 = true ∧ r.got 1 = true ∧ r.replies.head? = some true) :
    RoundOk lib chunks t r := by
  intro chunk _ body harrived
  rcases h with hlost | ⟨h0, h1, hreply⟩
  · -- nothing arrives
    have hnone : ∀ packets, r.tail.read packets = [] := by
      intro packets
      refine List.filterMap_eq_nil_iff.2 fun p hp => ?_
      rw [hlost p.1 (List.mem_of_mem_drop (List.of_mem_zip hp).1)]
      rfl
    unfold SysexParser.arrived at harrived
    rw [hnone] at harrived
    simp [carried] at harrived
  · split
    · exact fun _ => hreply
    · exact Or.inl ⟨h0, h1⟩

/-- **Exactly once and in order**: what is written is a part of the image from its start, and all of it
once the last chunk is acknowledged. -/
def ExactlyOnce (lib : UpdateLib) (chunks : List (List UInt8)) (t : Transfer) : Prop :=
  t.written lib <+: chunks.flatten ∧ (t.acked = chunks.length → t.written lib = chunks.flatten)

/-- What is written is what is acknowledged. -/
structure TransferInv (lib : UpdateLib) (chunks : List (List UInt8)) (t : Transfer) : Prop where
  parser : t.node.parser.Acked
  acked_le : t.acked ≤ chunks.length
  written : t.written lib = (chunks.take t.acked).flatten

variable (hall : ∀ calls bytes, lib.write calls bytes = bytes.length ∨ lib.write calls bytes = 0)
  (hchunks : ∀ chunk ∈ chunks, 1 ≤ chunk.length ∧ chunk.length ≤ 100)

theorem Round.heard_subset (r : Round) {out : List Out} {o : Out} (h : o ∈ r.heard out) : o ∈ out := by
  unfold Round.heard at h
  obtain ⟨⟨b, o'⟩, hpair, ho⟩ := List.mem_filterMap.1 h
  split at ho
  · cases ho
    exact (List.of_mem_zip hpair).2
  · cases ho

theorem Round.heard_single (r : Round) {o : Out} (h : r.replies.head? = some true) : r.heard [o] = [o] := by
  obtain ⟨reads, replies⟩ := r
  cases replies with
  | nil => cases h
  | cons b bs =>
    cases h
    simp [Round.heard]

include hall hchunks

/-- **What a round does**: it writes the chunk and the host hears of it, or neither. -/
theorem deliver_spec {t : Transfer} {r : Round} (hparser : t.node.parser.Acked) (hok : RoundOk lib chunks t r)
    {chunk : List UInt8} (hnext : chunks[t.acked]? = some chunk) :
    (t.deliver lib r chunk).1.parser.Acked ∧
      ((updateSession lib (t.deliver lib r chunk).1.ota.calls).bytes = t.written lib ++ chunk ∧
          ackOf t.acked ∈ r.heard (t.deliver lib r chunk).2 ∨
        (updateSession lib (t.deliver lib r chunk).1.ota.calls).bytes = t.written lib ∧
          ackOf t.acked ∉ (t.deliver lib r chunk).2) := by
  obtain ⟨hpos, hsize⟩ := hchunks chunk (List.mem_of_getElem? hnext)
  obtain ⟨hacked, hout⟩ := received_ackedFrame hparser t.acked hpos hsize r
  have hota : ∀ f ∈ (Mealy.run SysexParser.receive t.node.parser
      (r.read (Host.sysexPackets (ackedFrame t.acked chunk)))).2, IsOtaFrame f.2 := by
    rcases hout with hnone | ⟨body, -, -, -, env, hone⟩
    · simp [hnone]
    · rw [hone, List.forall_mem_singleton, List.append_assoc]
      exact isOtaFrame_acked _
  obtain ⟨hstate, hreplies, hp⟩ := midiProcess_ota lib t.node hota
  unfold Transfer.deliver
  rw [hstate, hreplies, hp]
  refine ⟨hacked, ?_⟩
  rcases hout with hnone | ⟨body, harrived, hend, hdamaged, env, hone⟩
  · rw [hnone]
    exact Or.inr ⟨rfl, by simp⟩
  · rw [hone]
    simp only [Mealy.run_cons, Mealy.run_nil, List.append_nil]
    have hround := hok chunk hnext body harrived
    rcases otaFrame_arrived (o := t.node.ota) env hall hend t.acked with ⟨hfits, htakes, hcalls, hreply⟩ | hno
    · split at hround
      · next hwhole =>
        -- the chunk as it was sent
        subst hwhole
        have hbytes : decode7bit ((ackedBody t.acked chunk).drop 2) = chunk := by
          simp only [ackedBody, List.drop_succ_cons, List.drop_zero]
          rw [encode7_eq, decode7bit_encode7bit]
        rw [hbytes] at htakes hcalls
        refine Or.inl ⟨?_, ?_⟩
        · rw [hcalls, updateSession_write htakes.2]
          rfl
        · rw [hreply]
          exact (r.heard_single (hround htakes)).symm ▸ List.mem_singleton_self _
      · next hother =>
        -- anything else is too short for its length byte, or excluded
        exfalso
        rcases hround with ⟨h0, h1⟩ | hno
        · rcases hdamaged h0 h1 with hwhole | hcut
          · exact hother hwhole
          · exact hcut.not_lengthFits hsize hfits
        · exact hno ⟨hfits, htakes⟩
    · exact Or.inr hno

/-- **One round.** -/
theorem transferRound_inv {t : Transfer} (h : TransferInv lib chunks t) {r : Round}
    (hok : RoundOk lib chunks t r) : TransferInv lib chunks (transferRound lib chunks t r).1 := by
  unfold transferRound
  cases hnext : chunks[t.acked]? with
  | none => exact h
  | some chunk =>
    have hlt : t.acked < chunks.length := (List.getElem?_eq_some_iff.1 hnext).1
    obtain ⟨hparser, hround⟩ := deliver_spec hall hchunks h.parser hok hnext
    dsimp only
    rcases hround with ⟨hwritten, hack⟩ | ⟨hwritten, hack⟩
    · -- written and acknowledged: the host moves on
      rw [if_pos hack]
      refine ⟨hparser, hlt, ?_⟩
      have htake : chunks.take (t.acked + 1) = chunks.take t.acked ++ [chunk] := by
        rw [List.take_add_one, hnext]
        rfl
      rw [htake, List.flatten_append, ← h.written]
      exact hwritten.trans (by simp)
    · rw [if_neg (fun hheard => hack (r.heard_subset hheard))]
      exact ⟨hparser, h.acked_le, hwritten.trans h.written⟩

/-- **In every run whose rounds meet the condition** the transfer is exactly-once and in order. -/
theorem transfer_prefix {n : Node} (hparser : n.parser.inSysex = false)
    (hfresh : (updateSession lib n.ota.calls).bytes = []) {rounds : List Round}
    (hok : Mealy.Guarded (transferRound lib chunks) (RoundOk lib chunks) { node := n } rounds) :
    ExactlyOnce lib chunks (Mealy.run (transferRound lib chunks) { node := n } rounds).1 := by
  have hstart : TransferInv lib chunks { node := n } :=
    { parser := fun h => absurd (hparser.symm.trans h) Bool.false_ne_true
      acked_le := Nat.zero_le _
      written := hfresh }
  have hinv := Mealy.inv_run (TransferInv lib chunks)
    (fun t r ht hr => transferRound_inv hall hchunks ht hr) hstart hok
  refine ⟨?_, fun hdone => ?_⟩
  · rw [hinv.written]
    exact (List.take_prefix _ _).flatten
  · rw [hinv.written, hdone, List.take_length]

end Transfer

/-! ## A lost reply, and a lost length -/

/-- A node that has begun a session of four bytes. -/
def begunNode : Node := (handleSysExMessage (flashLib 64) { millis := 5 } freshNode begin4 9).1

/-- The image `01 02 03 04` in two chunks. -/
def twoChunks : List (List UInt8) := [[1, 2], [3, 4]]

/-- All packets of a frame arrive. -/
def allRead : List (Option Env) := List.replicate 5 (some { millis := 10 })

/-- The second packet of a frame is lost. -/
def secondLost : List (Option Env) := [some { millis := 8 }, none, some { millis := 9 }, some { millis := 9 }]

theorem flashLib_all (room : ℕ) (calls : List UpdateCall) (bytes : List UInt8) :
    (flashLib room).write calls bytes = bytes.length ∨ (flashLib room).write calls bytes = 0 := by
  unfold flashLib
  dsimp only
  split
  · exact Or.inl rfl
  · exact Or.inr rfl

/-- A damaged first try, then both chunks. -/
def damagedFirst : List Round := [⟨secondLost, [true]⟩, ⟨allRead, [true]⟩, ⟨allRead, [true]⟩]

theorem damagedFirst_complete :
    (Mealy.run (transferRound (flashLib 64) twoChunks) { node := begunNode } damagedFirst).1.acked =
        twoChunks.length ∧
      ExactlyOnce (flashLib 64) twoChunks
        (Mealy.run (transferRound (flashLib 64) twoChunks) { node := begunNode } damagedFirst).1 :=
  ⟨by decide +kernel,
    transfer_prefix (flashLib_all 64) (by decide) (by decide +kernel) (by decide +kernel) (by decide +kernel)⟩

/-- **One lost reply and the chunk is written twice**: the host repeats the frame, as it should, and
the node does not see that it has it. **And with every reply heard**, the packet with the length
lost from the frame of `00 01 00 05`: a byte of the chunk stands in its place and fits, so `05` is written
and acknowledged for the four. -/
theorem transfer_notExactlyOnce :
    (¬∀ (lib : UpdateLib) (chunks : List (List UInt8)) (n : Node) (rounds : List Round),
      (∀ calls bytes, lib.write calls bytes = bytes.length ∨ lib.write calls bytes = 0) →
      (∀ chunk ∈ chunks, 1 ≤ chunk.length ∧ chunk.length ≤ 100) → n.parser.inSysex = false →
      (updateSession lib n.ota.calls).bytes = [] →
      ExactlyOnce lib chunks (Mealy.run (transferRound lib chunks) { node := n } rounds).1) ∧
    ¬∀ (lib : UpdateLib) (chunks : List (List UInt8)) (n : Node) (rounds : List Round),
      (∀ calls bytes, lib.write calls bytes = bytes.length ∨ lib.write calls bytes = 0) →
      (∀ chunk ∈ chunks, 1 ≤ chunk.length ∧ chunk.length ≤ 100) → n.parser.inSysex = false →
      (updateSession lib n.ota.calls).bytes = [] → (∀ r ∈ rounds, r.replies.head? = some true) →
      ExactlyOnce lib chunks (Mealy.run (transferRound lib chunks) { node := n } rounds).1 := by
  constructor
  · intro hall
    have hclaim := (hall (flashLib 64) twoChunks begunNode [⟨allRead, []⟩, ⟨allRead, []⟩] (flashLib_all 64)
      (by decide) (by decide +kernel) (by decide +kernel)).1
    have htwice : (Mealy.run (transferRound (flashLib 64) twoChunks) { node := begunNode }
        [⟨allRead, []⟩, ⟨allRead, []⟩]).1.written (flashLib 64) = [1, 2, 1, 2] := by decide +kernel
    rw [htwice] at hclaim
    exact absurd hclaim (by decide)
  · intro hall
    have hclaim := (hall (flashLib 64) [[0, 1, 0, 5]] begunNode [⟨secondLost, [true]⟩] (flashLib_all 64)
      (by decide) (by decide +kernel) (by decide +kernel) (by decide)).1
    have hfive : (Mealy.run (transferRound (flashLib 64) [[0, 1, 0, 5]]) { node := begunNode }
        [⟨secondLost, [true]⟩]).1.written (flashLib 64) = [5] := by decide +kernel
    rw [hfive] at hclaim
    exact absurd hclaim (by decide)

end Nowde
