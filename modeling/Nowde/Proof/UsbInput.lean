import Nowde.Proof.OtaSession
import Nowde.Spec.Tools

/-!
# SysEx frames over USB

The packets of a frame put it back together, and an update frame then does to the update state
what its command does, whatever else the node holds.

* `received_frame`: the packets of a well-formed frame of at most 512 bytes give that frame, unless
  an overlong frame before it was cut off: its overflow mark costs the next frame.
* `midiProcess_ota`: `midiProcess` on packets that complete update frames only is a run of
  `otaFrame` over these frames.
-/

namespace Nowde

/-! ## Reassembly -/

/-- The parser on a packet, with the frame it completes and the instant it does. -/
def SysexParser.receive (s : SysexParser) (p : Env × MidiEventPacket) : SysexParser × List (Env × List UInt8) :=
  ((s.packet p.2).1, (s.packet p.2).2.toList.map fun message => (p.1, message))

/-- Packets that carry the bytes of one SysEx message: three at a time under code 4, the last under the
code that says how many they are, with packets of other kinds in between. The cable number and
the bytes a code leaves unused are free. -/
inductive Carries : List MidiEventPacket → List UInt8 → Prop
  | last1 {p : MidiEventPacket} : p.header &&& 0x0F = 0x5 → Carries [p] [p.byte1]
  | last2 {p : MidiEventPacket} : p.header &&& 0x0F = 0x6 → Carries [p] [p.byte1, p.byte2]
  | last3 {p : MidiEventPacket} : p.header &&& 0x0F = 0x7 → Carries [p] [p.byte1, p.byte2, p.byte3]
  | more {p : MidiEventPacket} {ps : List MidiEventPacket} {bytes : List UInt8} :
      p.header &&& 0x0F = 0x4 → Carries ps bytes → Carries (p :: ps) (p.byte1 :: p.byte2 :: p.byte3 :: bytes)
  | other {p : MidiEventPacket} {ps : List MidiEventPacket} {bytes : List UInt8} :
      cinDataBytes (p.header &&& 0x0F) = 0 → Carries ps bytes → Carries (p :: ps) bytes

theorem Carries.eq_snoc {ps : List MidiEventPacket} {bytes : List UInt8} (h : Carries ps bytes) :
    ∃ front last, bytes = front ++ [last] := by
  induction h with
  | last1 _ => exact ⟨[], _, rfl⟩
  | @last2 p _ => exact ⟨[p.byte1], _, rfl⟩
  | @last3 p _ => exact ⟨[p.byte1, p.byte2], _, rfl⟩
  | @more p _ _ _ _ ih =>
    obtain ⟨front, last, rfl⟩ := ih
    exact ⟨p.byte1 :: p.byte2 :: p.byte3 :: front, last, rfl⟩
  | other _ _ ih => exact ih

/-- The host's driver cuts a message that way. -/
theorem carries_sysexPackets {bytes : List UInt8} (h : bytes ≠ []) : Carries (Host.sysexPackets bytes) bytes := by
  have h4 : (0x04 : UInt8) &&& 0x0F = 0x4 := by decide
  have h5 : (0x05 : UInt8) &&& 0x0F = 0x5 := by decide
  have h6 : (0x06 : UInt8) &&& 0x0F = 0x6 := by decide
  have h7 : (0x07 : UInt8) &&& 0x0F = 0x7 := by decide
  induction hn : bytes.length using Nat.strongRecOn generalizing bytes with
  | ind n ih =>
    match bytes, hn with
    | [a], _ => exact Carries.last1 (p := ⟨0x05, a, 0, 0⟩) h5
    | [a, b], _ => exact Carries.last2 (p := ⟨0x06, a, b, 0⟩) h6
    | [a, b, c], _ => exact Carries.last3 (p := ⟨0x07, a, b, c⟩) h7
    | a :: b :: c :: d :: rest, hn =>
      have hrest : Carries (Host.sysexPackets (d :: rest)) (d :: rest) := by
        apply ih (d :: rest).length _ (by simp) rfl
        simp only [List.length_cons] at hn ⊢
        omega
      exact Carries.more (p := ⟨0x04, a, b, c⟩) h4 hrest

/-- The data bytes of packets. -/
def carried (packets : List MidiEventPacket) : List UInt8 :=
  packets.flatMap fun p => [p.byte1, p.byte2, p.byte3].take (cinDataBytes (p.header &&& 0x0F))

theorem carried_append (ps qs : List MidiEventPacket) : carried (ps ++ qs) = carried ps ++ carried qs :=
  List.flatMap_append

section Codes

variable (a b c : UInt8) (ps : List MidiEventPacket)

@[simp] theorem carried_nil : carried [] = [] := rfl

@[simp] theorem carried_more : carried (⟨0x04, a, b, c⟩ :: ps) = a :: b :: c :: carried ps := by
  simp [carried, show cinDataBytes (4 &&& 15) = 3 by decide]

@[simp] theorem carried_one : carried (⟨0x05, a, b, c⟩ :: ps) = a :: carried ps := by
  simp [carried, show cinDataBytes (5 &&& 15) = 1 by decide]

@[simp] theorem carried_two : carried (⟨0x06, a, b, c⟩ :: ps) = a :: b :: carried ps := by
  simp [carried, show cinDataBytes (6 &&& 15) = 2 by decide]

@[simp] theorem carried_three : carried (⟨0x07, a, b, c⟩ :: ps) = a :: b :: c :: carried ps := by
  simp [carried, show cinDataBytes (7 &&& 15) = 3 by decide]

end Codes

/-- A packet that starts a frame. -/
def Starts (p : MidiEventPacket) : Prop := 0 < cinDataBytes (p.header &&& 0x0F) ∧ p.byte1 = sysexStart

section Parser

variable {s : SysexParser} {bytes : List UInt8}

theorem SysexParser.feed_of_not_mem (hend : sysexEnd ∉ bytes)
    (hroom : s.buffer.length + bytes.length ≤ sysexBufferSize) :
    s.feed bytes = ({ s with buffer := s.buffer ++ bytes }, none) := by
  induction bytes generalizing s with
  | nil => simp [SysexParser.feed]
  | cons b bs ih =>
    simp only [List.mem_cons, not_or] at hend
    simp only [List.length_cons] at hroom
    have hpush : s.push b = { s with buffer := s.buffer ++ [b] } := by
      unfold SysexParser.push
      rw [if_pos (by omega)]
    simp only [SysexParser.feed]
    rw [if_neg (Ne.symm hend.1), hpush, ih hend.2 (by simp; omega)]
    simp

theorem SysexParser.feed_end (hend : sysexEnd ∉ bytes)
    (hroom : s.buffer.length + bytes.length < sysexBufferSize) (rest : List UInt8) :
    s.feed (bytes ++ sysexEnd :: rest) =
      ({}, if s.sysexOverflow then none else some (s.buffer ++ bytes ++ [sysexEnd])) := by
  induction bytes generalizing s with
  | nil =>
    have hpush : s.push sysexEnd = { s with buffer := s.buffer ++ [sysexEnd] } := by
      unfold SysexParser.push
      rw [if_pos (by simpa using hroom)]
    simp [SysexParser.feed, hpush]
  | cons b bs ih =>
    simp only [List.mem_cons, not_or] at hend
    simp only [List.length_cons] at hroom
    have hpush : s.push b = { s with buffer := s.buffer ++ [b] } := by
      unfold SysexParser.push
      rw [if_pos (by omega)]
    simp only [List.cons_append, SysexParser.feed]
    have hrec : (s.push b).feed (bs ++ sysexEnd :: rest) =
        ({}, if (s.push b).sysexOverflow then none else some ((s.push b).buffer ++ bs ++ [sysexEnd])) := by
      apply ih hend.2
      rw [hpush]
      simp
      omega
    rw [if_neg (Ne.symm hend.1), hrec, hpush]
    simp

theorem SysexParser.feed_append {xs ys : List UInt8} (hend : sysexEnd ∉ xs) :
    s.feed (xs ++ ys) = (s.feed xs).1.feed ys := by
  induction xs generalizing s with
  | nil => rfl
  | cons b bs ih =>
    simp only [List.mem_cons, not_or] at hend
    simp only [List.cons_append, SysexParser.feed]
    rw [if_neg (Ne.symm hend.1), if_neg (Ne.symm hend.1)]
    exact ih hend.2

/-- Bytes without an end byte complete nothing. They are added to the buffer, all of them unless it
overflows. -/
theorem SysexParser.feed_noEnd (hend : sysexEnd ∉ bytes) :
    (s.feed bytes).2 = none ∧ (s.feed bytes).1.inSysex = s.inSysex ∧
      ∃ added, (s.feed bytes).1.buffer = s.buffer ++ added ∧ added.Sublist bytes ∧
        ((s.feed bytes).1.sysexOverflow = false → s.sysexOverflow = false ∧ added = bytes) := by
  induction bytes generalizing s with
  | nil => exact ⟨rfl, rfl, [], by simp [SysexParser.feed], List.Sublist.refl _, fun h => ⟨h, rfl⟩⟩
  | cons b bs ih =>
    simp only [List.mem_cons, not_or] at hend
    obtain ⟨hnone, hin, added, hbuffer, hsub, hover⟩ := ih (s := s.push b) hend.2
    simp only [SysexParser.feed]
    rw [if_neg (Ne.symm hend.1)]
    by_cases hroom : s.buffer.length < sysexBufferSize
    · have hpush : s.push b = { s with buffer := s.buffer ++ [b] } := if_pos hroom
      rw [hpush] at hnone hin hbuffer hover ⊢
      refine ⟨hnone, hin, b :: added, by rw [hbuffer]; simp, hsub.cons_cons b, fun h => ?_⟩
      obtain ⟨hno, hadded⟩ := hover h
      exact ⟨hno, by rw [hadded]⟩
    · have hpush : s.push b = { s with sysexOverflow := true } := if_neg hroom
      rw [hpush] at hnone hin hbuffer hover ⊢
      refine ⟨hnone, hin, added, hbuffer, hsub.cons b, fun h => ?_⟩
      cases (hover h).1

/-- The end byte completes what is in the buffer, unless that overflowed. -/
theorem SysexParser.feed_endByte (hend : sysexEnd ∉ bytes) :
    (s.feed (bytes ++ [sysexEnd])).1 = {} ∧ ∀ m, (s.feed (bytes ++ [sysexEnd])).2 = some m →
      s.sysexOverflow = false ∧ m = s.buffer ++ bytes ++ [sysexEnd] := by
  obtain ⟨-, -, added, hbuffer, -, hover⟩ := SysexParser.feed_noEnd (s := s) hend
  rw [SysexParser.feed_append hend]
  refine ⟨by simp [SysexParser.feed], fun m hm => ?_⟩
  simp only [SysexParser.feed, if_true] at hm
  split at hm
  · cases hm
  · next hno =>
    cases hm
    unfold SysexParser.push at hno ⊢
    split at hno
    · obtain ⟨hs, hadded⟩ := hover (by simpa using hno)
      subst hadded
      rw [if_pos (by assumption), hbuffer]
      exact ⟨hs, rfl⟩
    · exact absurd rfl hno

/-- A packet that starts no frame, inside one. -/
theorem SysexParser.packet_of_inSysex (hin : s.inSysex = true) {p : MidiEventPacket}
    (hcin : 0 < cinDataBytes (p.header &&& 0x0F)) (hstart : p.byte1 = sysexStart → s.buffer = []) :
    s.packet p = s.feed ([p.byte1, p.byte2, p.byte3].take (cinDataBytes (p.header &&& 0x0F))) := by
  have hbegin : s.begin p.byte1 = s := by
    unfold SysexParser.begin
    split
    · next h => rw [← hstart h, ← hin]
    · rfl
  unfold SysexParser.packet
  dsimp only
  rw [if_pos hcin, hbegin, if_pos hin]

/-- A packet that starts a frame is fed to an empty buffer. -/
theorem SysexParser.packet_starts {p : MidiEventPacket} (h : Starts p) :
    s.packet p = ({ s with inSysex := true, buffer := [] } : SysexParser).feed (carried [p]) := by
  unfold SysexParser.packet SysexParser.begin
  dsimp only
  rw [if_pos h.1, if_pos h.2, if_pos rfl]
  simp [carried]

/-- Any other is fed to the frame that is open. -/
theorem SysexParser.packet_more (hin : s.inSysex = true) {p : MidiEventPacket} (h : ¬Starts p) :
    s.packet p = s.feed (carried [p]) := by
  by_cases hcin : 0 < cinDataBytes (p.header &&& 0x0F)
  · rw [SysexParser.packet_of_inSysex hin hcin fun hstart => absurd ⟨hcin, hstart⟩ h]
    simp [carried]
  · unfold SysexParser.packet
    dsimp only
    rw [if_neg hcin]
    simp [carried, Nat.eq_zero_of_not_pos hcin, SysexParser.feed]

/-- Outside a frame it is dropped. -/
theorem SysexParser.packet_idle (hin : s.inSysex = false) {p : MidiEventPacket} (h : ¬Starts p) :
    s.packet p = (s, none) := by
  unfold SysexParser.packet SysexParser.begin
  dsimp only
  split
  · next hcin =>
    rw [if_neg fun hstart => h ⟨hcin, hstart⟩, hin]
    rfl
  · rfl

/-- Packets without an end byte that start no frame are fed to an open one byte by byte. -/
theorem received_noEnd (hin : s.inSysex = true) {packets : List (Env × MidiEventPacket)}
    (hp : ∀ p ∈ packets, ¬Starts p.2) (hend : sysexEnd ∉ carried (packets.map Prod.snd)) :
    Mealy.run SysexParser.receive s packets = ((s.feed (carried (packets.map Prod.snd))).1, []) := by
  induction packets generalizing s with
  | nil => rfl
  | cons p ps ih =>
    have hcut : carried ((p :: ps).map Prod.snd) = carried [p.2] ++ carried (ps.map Prod.snd) :=
      carried_append [p.2] _
    rw [hcut, List.mem_append, not_or] at hend
    obtain ⟨hnone, hin', -⟩ := SysexParser.feed_noEnd (s := s) hend.1
    have hstep : s.receive p = ((s.feed (carried [p.2])).1, []) := by
      unfold SysexParser.receive
      rw [SysexParser.packet_more hin (hp p (by simp)), hnone]
      rfl
    rw [Mealy.run_cons, hstep, ih (hin'.trans hin) (fun q hq => hp q (by simp [hq])) hend.2, hcut,
      SysexParser.feed_append hend.1]
    rfl

/-- Outside a frame they are dropped. -/
theorem received_idle (hin : s.inSysex = false) {packets : List (Env × MidiEventPacket)}
    (hp : ∀ p ∈ packets, ¬Starts p.2) : Mealy.run SysexParser.receive s packets = (s, []) := by
  induction packets with
  | nil => rfl
  | cons p ps ih =>
    have hstep : s.receive p = (s, []) := by
      unfold SysexParser.receive
      rw [SysexParser.packet_idle hin (hp p (by simp))]
      rfl
    rw [Mealy.run_cons, hstep, ih fun q hq => hp q (by simp [hq])]
    rfl

/-- A packet of another code index number. -/
theorem SysexParser.receive_other {p : Env × MidiEventPacket} (hcin : cinDataBytes (p.2.header &&& 0x0F) = 0) :
    s.receive p = (s, []) := by
  have hnone : s.packet p.2 = (s, none) := by
    unfold SysexParser.packet
    dsimp only
    rw [if_neg (by omega)]
  unfold SysexParser.receive
  rw [hnone]
  rfl

/-- The last packet carries the rest of the body and the end byte. -/
theorem received_last {body : List UInt8} (hin : s.inSysex = true) (hend : sysexEnd ∉ body)
    (hfirst : body.head? = some sysexStart → s.buffer = [])
    (hroom : s.buffer.length + body.length < sysexBufferSize) {p : MidiEventPacket}
    (hcin : cinDataBytes (p.header &&& 0x0F) = body.length + 1)
    (htake : [p.byte1, p.byte2, p.byte3].take (body.length + 1) = body ++ [sysexEnd])
    {packets : List (Env × MidiEventPacket)} (hp : packets.map Prod.snd = [p]) :
    ∃ env, Mealy.run SysexParser.receive s packets =
      ({}, if s.sysexOverflow then [] else [(env, s.buffer ++ body ++ [sysexEnd])]) := by
  obtain ⟨⟨env, p'⟩, rfl, hp'⟩ := List.map_eq_singleton_iff.1 hp
  have heq : p' = p := hp'
  subst heq
  have hhead : p'.byte1 = sysexStart → body.head? = some sysexStart := by
    intro h
    cases body with
    | nil => exact absurd ((List.cons.inj htake).1.symm.trans h) (by decide)
    | cons b bs => exact congrArg some ((List.cons.inj htake).1.symm.trans h)
  have hpacket := SysexParser.packet_of_inSysex hin (by omega) (fun h => hfirst (hhead h))
  rw [hcin, htake, SysexParser.feed_end hend hroom []] at hpacket
  refine ⟨env, ?_⟩
  simp only [Mealy.run_cons, Mealy.run_nil, SysexParser.receive, hpacket]
  split <;> rfl

/-- **The rest of a frame** completes what the buffer holds. -/
theorem received_tail {ps : List MidiEventPacket} {bytes : List UInt8} (hps : Carries ps bytes)
    {body : List UInt8} (hbytes : bytes = body ++ [sysexEnd]) (hin : s.inSysex = true) (hend : sysexEnd ∉ body)
    (hstart : ∀ b ∈ body.drop 1, b ≠ sysexStart)
    (hfirst : body.head? = some sysexStart → s.buffer = [])
    (hroom : s.buffer.length + body.length < sysexBufferSize) {packets : List (Env × MidiEventPacket)}
    (hp : packets.map Prod.snd = ps) :
    ∃ env, Mealy.run SysexParser.receive s packets =
      ({}, if s.sysexOverflow then [] else [(env, s.buffer ++ body ++ [sysexEnd])]) := by
  induction hps generalizing s body packets with
  | @last1 p hcin =>
    obtain ⟨rfl, hb⟩ := List.append_inj' (hbytes.symm.trans (List.nil_append _).symm) rfl
    have htake : [p.byte1, p.byte2, p.byte3].take 1 = [] ++ [sysexEnd] := by simpa using hb.symm
    exact received_last hin hend hfirst hroom (by rw [hcin]; rfl) htake hp
  | @last2 p hcin =>
    have hcut : body ++ [sysexEnd] = [p.byte1] ++ [p.byte2] := hbytes.symm
    obtain ⟨rfl, hb⟩ := List.append_inj' hcut rfl
    exact received_last hin hend hfirst hroom (by rw [hcin]; rfl) hbytes hp
  | @last3 p hcin =>
    have hcut : body ++ [sysexEnd] = [p.byte1, p.byte2] ++ [p.byte3] := hbytes.symm
    obtain ⟨rfl, hb⟩ := List.append_inj' hcut rfl
    exact received_last hin hend hfirst hroom (by rw [hcin]; rfl) hbytes hp
  | @more p ps bytes hcin hps ih =>
    -- the end byte is in a later packet
    obtain ⟨rest, hbody, hrest⟩ :
        ∃ rest, body = p.byte1 :: p.byte2 :: p.byte3 :: rest ∧ bytes = rest ++ [sysexEnd] := by
      obtain ⟨front, last, rfl⟩ := hps.eq_snoc
      have hcut : body ++ [sysexEnd] = (p.byte1 :: p.byte2 :: p.byte3 :: front) ++ [last] := hbytes.symm
      obtain ⟨h1, h2⟩ := List.append_inj' hcut rfl
      exact ⟨front, h1, by rw [h2]⟩
    subst hbody
    obtain ⟨⟨env, p'⟩, tail, rfl, hpair, htail⟩ := List.map_eq_cons_iff.1 hp
    have heq : p' = p := hpair
    subst heq
    simp only [List.mem_cons, not_or] at hend
    simp only [List.length_cons] at hroom
    simp only [List.drop_succ_cons, List.drop_zero, List.mem_cons, forall_eq_or_imp] at hstart
    have hclean : sysexEnd ∉ [p'.byte1, p'.byte2, p'.byte3] := by simp [hend.1, hend.2.1, hend.2.2.1]
    have h3 : cinDataBytes (p'.header &&& 0x0F) = 3 := by rw [hcin]; rfl
    have hthree : s.packet p' = ({ s with buffer := s.buffer ++ [p'.byte1, p'.byte2, p'.byte3] }, none) := by
      rw [SysexParser.packet_of_inSysex hin (by omega) fun h => hfirst (congrArg some h), h3]
      exact SysexParser.feed_of_not_mem hclean (by simp; omega)
    have hafter : ∃ env, Mealy.run SysexParser.receive
        { s with buffer := s.buffer ++ [p'.byte1, p'.byte2, p'.byte3] } tail =
          ({}, if s.sysexOverflow then []
            else [(env, s.buffer ++ [p'.byte1, p'.byte2, p'.byte3] ++ rest ++ [sysexEnd])]) := by
      refine ih (s := { s with buffer := s.buffer ++ [p'.byte1, p'.byte2, p'.byte3] }) hrest hin hend.2.2.2
        (fun x hx => hstart.2.2 x (List.mem_of_mem_drop hx))
        (fun h => absurd rfl (hstart.2.2 _ (List.mem_of_mem_head? h))) ?_ htail
      simp only [List.length_append, List.length_cons, List.length_nil]
      omega
    obtain ⟨env', hrun⟩ := hafter
    refine ⟨env', ?_⟩
    simp only [Mealy.run_cons, SysexParser.receive, hthree]
    rw [hrun]
    simp
  | @other p ps bytes hcin hps ih =>
    obtain ⟨q, tail, rfl, hpair, htail⟩ := List.map_eq_cons_iff.1 hp
    obtain ⟨env', hrun⟩ := ih hbytes hin hend hstart hfirst hroom htail
    refine ⟨env', ?_⟩
    rw [Mealy.run_cons, SysexParser.receive_other (by rw [hpair]; exact hcin), hrun]
    rfl

/-- `F0` starts over, whatever the parser was doing, but for the overflow mark. -/
theorem SysexParser.packet_start {p : MidiEventPacket} (hstart : p.byte1 = sysexStart) :
    s.packet p = if 0 < cinDataBytes (p.header &&& 0x0F) then
      ({ inSysex := true, sysexOverflow := s.sysexOverflow } : SysexParser).packet p else (s, none) := by
  have hbegin : ∀ s' : SysexParser,
      s'.begin p.byte1 = { inSysex := true, sysexOverflow := s'.sysexOverflow } := by
    intro s'
    unfold SysexParser.begin
    rw [if_pos hstart]
  unfold SysexParser.packet
  dsimp only
  split
  · rw [hbegin, hbegin]
  · rfl

/-- The packets of a frame from its first one on. -/
theorem received_start {p : MidiEventPacket} {ps : List MidiEventPacket} {body : List UInt8}
    (hps : Carries (p :: ps) (sysexStart :: body ++ [sysexEnd])) (hend : sysexEnd ∉ body)
    (hstart : sysexStart ∉ body) (hroom : body.length + 2 ≤ sysexBufferSize) (hp1 : p.byte1 = sysexStart)
    (hcin : 0 < cinDataBytes (p.header &&& 0x0F)) {packets : List (Env × MidiEventPacket)}
    (hp : packets.map Prod.snd = p :: ps) :
    ∃ env, Mealy.run SysexParser.receive s packets =
      ({}, if s.sysexOverflow then [] else [(env, sysexStart :: body ++ [sysexEnd])]) := by
  have hbody : sysexEnd ∉ sysexStart :: body := by
    simp only [List.mem_cons, not_or]
    exact ⟨by decide, hend⟩
  obtain ⟨env, hrun⟩ := received_tail (s := { inSysex := true, sysexOverflow := s.sysexOverflow }) hps rfl rfl
    hbody (fun b hb h => hstart (h ▸ hb)) (fun _ => rfl)
    (by simp only [List.length_cons, List.length_nil]; omega) hp
  refine ⟨env, ?_⟩
  -- the first packet brings any parser to where a fresh one would be
  obtain ⟨⟨env', p'⟩, tail, rfl, rfl, htail⟩ := List.map_eq_cons_iff.1 hp
  have hsame : SysexParser.receive s (env', p') =
      SysexParser.receive { inSysex := true, sysexOverflow := s.sysexOverflow } (env', p') := by
    unfold SysexParser.receive
    rw [SysexParser.packet_start hp1, if_pos hcin]
  rw [Mealy.run_cons, hsame, ← Mealy.run_cons, hrun]
  rfl

/-- **The packets of a frame give the frame**, from any state of the parser, unless it has noted an
overflow. -/
theorem received_carries {ps : List MidiEventPacket} {bytes body : List UInt8} (hps : Carries ps bytes)
    (hbytes : bytes = sysexStart :: body ++ [sysexEnd]) (hend : sysexEnd ∉ body) (hstart : sysexStart ∉ body)
    (hroom : body.length + 2 ≤ sysexBufferSize) {packets : List (Env × MidiEventPacket)}
    (hp : packets.map Prod.snd = ps) :
    ∃ env, Mealy.run SysexParser.receive s packets =
      ({}, if s.sysexOverflow then [] else [(env, sysexStart :: body ++ [sysexEnd])]) := by
  have hfirst : ∀ {a : UInt8} {l : List UInt8}, a :: l = sysexStart :: body ++ [sysexEnd] → a = sysexStart :=
    fun h => (List.cons.inj h).1
  induction hps generalizing packets with
  | @last1 p hcin => exact absurd (congrArg List.length hbytes) (by simp)
  | @last2 p hcin =>
    exact received_start (hbytes ▸ .last2 hcin) hend hstart hroom (hfirst hbytes) (by rw [hcin]; decide) hp
  | @last3 p hcin =>
    exact received_start (hbytes ▸ .last3 hcin) hend hstart hroom (hfirst hbytes) (by rw [hcin]; decide) hp
  | @more p ps bytes hcin hps ih =>
    exact received_start (hbytes ▸ .more hcin hps) hend hstart hroom (hfirst hbytes) (by rw [hcin]; decide) hp
  | @other p ps bytes hcin hps ih =>
    obtain ⟨q, tail, rfl, hpair, htail⟩ := List.map_eq_cons_iff.1 hp
    obtain ⟨env, hrun⟩ := ih hbytes htail
    refine ⟨env, ?_⟩
    rw [Mealy.run_cons, SysexParser.receive_other (by rw [hpair]; exact hcin), hrun]
    rfl

theorem received_frame {body : List UInt8} (hend : sysexEnd ∉ body) (hstart : sysexStart ∉ body)
    (hroom : body.length + 2 ≤ sysexBufferSize) {packets : List (Env × MidiEventPacket)}
    (hp : packets.map Prod.snd = Host.sysexPackets (sysexStart :: body ++ [sysexEnd])) :
    ∃ env, Mealy.run SysexParser.receive s packets =
      ({}, if s.sysexOverflow then [] else [(env, sysexStart :: body ++ [sysexEnd])]) :=
  received_carries (carries_sysexPackets (by simp)) rfl hend hstart hroom hp

end Parser

/-! ## Update frames -/

/-- A frame on the update state. -/
def otaFrame (lib : UpdateLib) (o : Ota) (frame : Env × List UInt8) : Ota × List Out :=
  match sysexCommand frame.2 (UInt8.ofNat frame.2.length).toNat with
  | some c => otaCommand lib frame.1 o c frame.2 (UInt8.ofNat frame.2.length).toNat
  | none => (o, sysexRejection frame.2 (UInt8.ofNat frame.2.length))

/-- A frame that runs no command but one of an update. -/
def IsOtaFrame (message : List UInt8) : Prop :=
  ∀ c, sysexCommand message (UInt8.ofNat message.length).toNat = some c → c.isOta = true

section Node

variable (lib : UpdateLib) (env : Env) (n : Node)

/-- What a packet leaves of the node before its frame is handled. -/
def usbRead (p : MidiEventPacket) : Node :=
  { n with
    hostResumed := if hostLinked env.millis n.lastHostRxTime then n.hostResumed else true
    lastHostRxTime := env.millis
    parser := (n.parser.packet p).1 }

theorem handleSysExMessage_ota {message : List UInt8} (h : IsOtaFrame message) :
    handleSysExMessage lib env n message (UInt8.ofNat message.length) =
      withOta n (otaFrame lib n.ota (env, message)) := by
  unfold otaFrame
  cases hc : sysexCommand message (UInt8.ofNat message.length).toNat with
  | none => exact handleSysExMessage_of_none lib env n hc
  | some c =>
    rw [handleSysExMessage_of_command lib env n hc]
    exact execute_of_isOta lib env (h c hc)

theorem midiPacket_ota {p : MidiEventPacket}
    (h : ∀ f ∈ (n.parser.receive (env, p)).2, IsOtaFrame f.2) :
    midiPacket lib env n p =
      withOta (usbRead env n p) (Mealy.run (otaFrame lib) n.ota (n.parser.receive (env, p)).2) := by
  unfold midiPacket
  simp only [SysexParser.receive] at h ⊢
  cases hm : (n.parser.packet p).2 with
  | none => rfl
  | some message =>
    rw [hm] at h
    have hota : IsOtaFrame message := h (env, message) (by simp)
    dsimp only
    rw [handleSysExMessage_ota lib env _ hota]
    simp [usbRead, withOta]

theorem midiProcess_eq_run (packets : List (Env × MidiEventPacket)) :
    midiProcess lib n packets = Mealy.run (fun n p => midiPacket lib p.1 n p.2) n packets := by
  have hfold : ∀ (packets : List (Env × MidiEventPacket)) (m : Node) (out : List Out),
      packets.foldl (fun r p => let m := midiPacket lib p.1 r.1 p.2; (m.1, r.2 ++ m.2)) (m, out) =
        ((Mealy.run (fun n p => midiPacket lib p.1 n p.2) m packets).1,
          out ++ (Mealy.run (fun n p => midiPacket lib p.1 n p.2) m packets).2) := by
    intro packets
    induction packets with
    | nil => intro m out; simp
    | cons p ps ih => intro m out; simp [ih]
  unfold midiProcess
  rw [hfold]
  simp

/-- **Packets that complete update frames only** run these frames on the update state. -/
theorem midiProcess_ota {packets : List (Env × MidiEventPacket)}
    (h : ∀ f ∈ (Mealy.run SysexParser.receive n.parser packets).2, IsOtaFrame f.2) :
    (midiProcess lib n packets).1.ota =
        (Mealy.run (otaFrame lib) n.ota (Mealy.run SysexParser.receive n.parser packets).2).1 ∧
      (midiProcess lib n packets).2 =
        (Mealy.run (otaFrame lib) n.ota (Mealy.run SysexParser.receive n.parser packets).2).2 ∧
      (midiProcess lib n packets).1.parser = (Mealy.run SysexParser.receive n.parser packets).1 := by
  rw [midiProcess_eq_run]
  induction packets generalizing n with
  | nil => exact ⟨rfl, rfl, rfl⟩
  | cons p ps ih =>
    simp only [Mealy.run_cons, List.mem_append] at h ⊢
    have hone := midiPacket_ota lib p.1 n (fun f hf => h f (Or.inl hf))
    have hparser : (midiPacket lib p.1 n p.2).1.parser = (n.parser.receive p).1 := by
      rw [hone]
      rfl
    have hota : (midiPacket lib p.1 n p.2).1.ota = (Mealy.run (otaFrame lib) n.ota (n.parser.receive p).2).1 := by
      rw [hone]
      rfl
    obtain ⟨h1, h2, h3⟩ := ih (midiPacket lib p.1 n p.2).1 (fun f hf => h f (Or.inr (hparser ▸ hf)))
    rw [Mealy.run_append, ← hota, ← hparser]
    refine ⟨h1, ?_, h3⟩
    rw [h2, hone]
    rfl

end Node

end Nowde
