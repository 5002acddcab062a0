import Nowde.Proof.WellFormed
import Nowde.Spec.HostMidi

/-!
# The five send loops

Each sender of a SysEx message cuts it into USB-MIDI packets in a loop of its own. Four of them cut
every complete message the standard way; `sendErrorReport()` does so only when its `F7` is left alone
at the end:

* `packetisers_iff`: a loop's packets are the standard ones, and give the message back, exactly when
  it is not the error report's or the message's length leaves one.
-/

namespace Nowde

/-- The send loops of `sendHello()`, `sendSysExBytes()`, `sendRunningState()`, `sendErrorReport()` and
`enqueueLogFrame()`. -/
inductive Packetiser
  | hello
  | sysExBytes
  | runningState
  | errorReport
  | log
deriving DecidableEq

/-- The packets of a loop for a message. -/
def Packetiser.packets : Packetiser → List UInt8 → List MidiEventPacket
  | .hello => helloPackets
  | .sysExBytes => sysExBytesPackets
  | .runningState => runningStatePackets
  | .errorReport => errorReportPackets
  | .log => Host.sysexPackets

/-- **The standard packets**: three bytes each under code 4, and one to three at the end, under the code
that says how many there are. -/
inductive Standard : List UInt8 → List MidiEventPacket → Prop
  | one : Standard [sysexEnd] [⟨0x05, sysexEnd, 0, 0⟩]
  | two (a : UInt8) : Standard [a, sysexEnd] [⟨0x06, a, sysexEnd, 0⟩]
  | three (a b : UInt8) : Standard [a, b, sysexEnd] [⟨0x07, a, b, sysexEnd⟩]
  | more (a b c : UInt8) {rest : List UInt8} {packets : List MidiEventPacket} :
      Standard rest packets → Standard (a :: b :: c :: rest) (⟨0x04, a, b, c⟩ :: packets)

/-- What a loop is to do with a message. -/
structure Packetises (message : List UInt8) (packets : List MidiEventPacket) : Prop where
  standard : Standard message packets
  reassembled : usbMessages [] packets = [message]

/-! ## Standard packets -/

variable {message rest begun : List UInt8} {packets : List MidiEventPacket}

/-- There is one standard way to cut a message. -/
theorem Standard.eq_sysexPackets (h : Standard message packets) : packets = Host.sysexPackets message := by
  induction h with
  | one => rfl
  | two a => rfl
  | three a b => rfl
  | more a b c h ih =>
    rw [ih]
    cases h <;> rfl

/-- Reassembled by their codes, standard packets are the message. -/
theorem Standard.usbMessages_eq (h : Standard message packets) : usbMessages begun packets = [begun ++ message] := by
  induction h generalizing begun with
  | one => simp
  | two a => simp
  | three a b => simp
  | more a b c h ih =>
    rw [usbMessages_more, ih]
    simp

theorem Standard.packetises (h : Standard message packets) : Packetises message packets where
  standard := h
  reassembled := h.usbMessages_eq

/-- What is left of a message, in threes: the only `F7` is at its end. -/
inductive Ends : List UInt8 → Prop
  | one : Ends [sysexEnd]
  | two {a : UInt8} : a ≠ sysexEnd → Ends [a, sysexEnd]
  | three {a b : UInt8} : a ≠ sysexEnd → b ≠ sysexEnd → Ends [a, b, sysexEnd]
  | more {a b c : UInt8} {rest : List UInt8} :
      a ≠ sysexEnd → b ≠ sysexEnd → c ≠ sysexEnd → Ends rest → Ends (a :: b :: c :: rest)

theorem ends_append : ∀ {body : List UInt8}, sysexEnd ∉ body → Ends (body ++ [sysexEnd])
  | [], _ => Ends.one
  | [a], h => Ends.two (Ne.symm (by simpa using h))
  | [a, b], h => by
    simp only [List.mem_cons, not_or] at h
    exact Ends.three (Ne.symm h.1) (Ne.symm h.2.1)
  | a :: b :: c :: body, h => by
    simp only [List.mem_cons, not_or] at h
    exact Ends.more (Ne.symm h.1) (Ne.symm h.2.1) (Ne.symm h.2.2.1) (ends_append h.2.2.2)

theorem Framed.ends (h : Framed message) : Ends message := by
  obtain ⟨body, rfl, hlow⟩ := h
  refine @ends_append (sysexStart :: body) fun hmem => ?_
  rcases List.mem_cons.1 hmem with heq | hmem
  · exact absurd heq (by decide)
  · exact absurd (hlow _ hmem) (by decide)

/-! ## The loops -/

/-- The loop that counts what remains. -/
theorem standard_sysexPackets (h : Ends rest) : Standard rest (Host.sysexPackets rest) := by
  induction h with
  | one => exact Standard.one
  | two ha => exact Standard.two _
  | three ha hb => exact Standard.three _ _
  | @more a b c rest ha hb hc h ih =>
    have hcut : Host.sysexPackets (a :: b :: c :: rest) = ⟨0x04, a, b, c⟩ :: Host.sysexPackets rest := by
      cases h <;> rfl
    rw [hcut]
    exact Standard.more a b c ih

/-- The loop that looks for `F7`. -/
theorem standard_endPackets (h : Ends rest) : Standard rest (endPackets rest) := by
  induction h with
  | one => exact Standard.one
  | @two a ha =>
    have hcut : endPackets [a, sysexEnd] = [⟨0x06, a, sysexEnd, 0⟩] := by simp [endPackets, ha]
    rw [hcut]
    exact Standard.two a
  | @three a b ha hb =>
    have hcut : endPackets [a, b, sysexEnd] = [⟨0x07, a, b, sysexEnd⟩] := by simp [endPackets, ha, hb]
    rw [hcut]
    exact Standard.three a b
  | @more a b c rest ha hb hc h ih =>
    have hcut : endPackets (a :: b :: c :: rest) = ⟨0x04, a, b, c⟩ :: endPackets rest := by
      simp [endPackets, ha, hb, hc]
    rw [hcut]
    exact Standard.more a b c ih

/-- **The error report's loop** is standard only when the `F7` is left alone. -/
theorem standard_errorReportTail_iff (h : Ends rest) :
    Standard rest (errorReportTail rest) ↔ rest.length % 3 = 1 := by
  induction h with
  | one => exact ⟨fun _ => rfl, fun _ => Standard.one⟩
  | @two a ha =>
    refine ⟨?_, fun h => absurd h (by simp)⟩
    intro hs
    exact absurd hs.eq_sysexPackets (by simp [errorReportTail, Host.sysexPackets])
  | @three a b ha hb =>
    refine ⟨?_, fun h => absurd h (by simp)⟩
    intro hs
    exact absurd hs.eq_sysexPackets (by simp [errorReportTail, Host.sysexPackets])
  | @more a b c rest ha hb hc h ih =>
    have hlen : (a :: b :: c :: rest).length % 3 = rest.length % 3 := by simp; omega
    rw [hlen, ← ih]
    refine ⟨?_, Standard.more a b c⟩
    intro hs
    cases hs with
    | more _ _ _ hs => exact hs

/-- Its first packet is cut without a look at what remains; a whole message has more than three bytes
or none of them is left. -/
theorem standard_errorReportPackets_iff (h : Framed message) :
    Standard message (errorReportPackets message) ↔ message.length % 3 = 1 := by
  obtain ⟨a, b, rest, rfl⟩ : ∃ a b rest, message = a :: b :: rest := by
    obtain ⟨body, rfl, _⟩ := h
    cases body with
    | nil => exact ⟨_, _, [], rfl⟩
    | cons b body => exact ⟨_, b, body ++ [sysexEnd], rfl⟩
  cases h.ends with
  | two ha =>
    refine ⟨?_, fun h => absurd h (by simp)⟩
    intro hs
    exact absurd hs.eq_sysexPackets (by simp [errorReportPackets, Host.sysexPackets])
  | three ha hb =>
    refine ⟨?_, fun h => absurd h (by simp)⟩
    intro hs
    exact absurd hs.eq_sysexPackets (by simp [errorReportPackets, errorReportTail, Host.sysexPackets])
  | @more _ _ c rest ha hb hc htail =>
    have hends : Ends (a :: b :: c :: rest) := Ends.more ha hb hc htail
    exact standard_errorReportTail_iff hends

/-! ## Five loops -/

/-- **A loop packetises a well-formed message as it should exactly when it is not the error report's, or
the message leaves an `F7` alone**; and all five agree exactly on the messages that do. -/
theorem packetisers_iff (h : Framed message) :
    (∀ k : Packetiser, Packetises message (k.packets message) ↔ (k = .errorReport → message.length % 3 = 1)) ∧
      ((∀ k l : Packetiser, k.packets message = l.packets message) ↔ message.length % 3 = 1) := by
  have hstandard : ∀ k : Packetiser, k ≠ .errorReport → Standard message (k.packets message) := by
    intro k hk
    cases k with
    | hello => exact standard_endPackets h.ends
    | sysExBytes => exact standard_sysexPackets h.ends
    | runningState => exact standard_endPackets h.ends
    | errorReport => exact absurd rfl hk
    | log => exact standard_sysexPackets h.ends
  have heach : ∀ k : Packetiser,
      Standard message (k.packets message) ↔ (k = .errorReport → message.length % 3 = 1) := by
    intro k
    by_cases hk : k = .errorReport
    · subst hk
      exact (standard_errorReportPackets_iff h).trans ⟨fun hlen _ => hlen, fun hk => hk rfl⟩
    · exact ⟨fun _ hk' => absurd hk' hk, fun _ => hstandard k hk⟩
  refine ⟨fun k => ⟨fun hp => (heach k).1 hp.standard, fun hk => ((heach k).2 hk).packetises⟩, ?_⟩
  refine ⟨?_, ?_⟩
  · intro hall
    have hlog := hstandard .log (by decide)
    rw [hall .log .errorReport] at hlog
    exact (heach .errorReport).1 hlog rfl
  · intro hlen k l
    rw [((heach k).2 (fun _ => hlen)).eq_sysexPackets, ((heach l).2 (fun _ => hlen)).eq_sysexPackets]

/-- Two data bytes, as an error report and as a log line. -/
theorem packetisers_four :
    Packetiser.errorReport.packets [0xF0, 0x7D, 0x01, 0xF7] = Packetiser.log.packets [0xF0, 0x7D, 0x01, 0xF7] :=
  (packetisers_iff ⟨[0x7D, 0x01], rfl, by decide +kernel⟩).2.2 rfl .errorReport .log

/-- **An error report is finished for the host exactly when its context leaves one byte.** -/
theorem errorReport_packetises_iff {code : UInt8} {context : List UInt8} (hcode : code < 0x80)
    (hlen : context.length ≤ 32) (hbytes : SevenBit context) :
    Packetises (errorReportMessage code context (UInt8.ofNat context.length))
      (errorReportPackets (errorReportMessage code context (UInt8.ofNat context.length))) ↔
        context.length % 3 = 1 := by
  have htoNat : (UInt8.ofNat context.length).toNat = context.length := by
    rw [UInt8.toNat_ofNat', Nat.mod_eq_of_lt (by omega)]
  have htake : context.take (min (UInt8.ofNat context.length).toNat 32) = context :=
    List.take_of_length_le (by omega)
  have hframed : Framed (errorReportMessage code context (UInt8.ofNat context.length)) := by
    rw [errorReportMessage_framed hcode (ofNat_lt_0x80 (by omega)), htake]
    exact hbytes
  have hlength : (errorReportMessage code context (UInt8.ofNat context.length)).length = context.length + 6 := by
    unfold errorReportMessage
    rw [htake]
    simp
  have hstandard := standard_errorReportPackets_iff hframed
  rw [hlength] at hstandard
  refine ⟨fun hp => ?_, fun hmod => (hstandard.2 (by omega)).packetises⟩
  have := hstandard.1 hp.standard
  omega

/-- An error report without context ends under code 4, and the host is left waiting for its end. -/
theorem errorReport_unfinished :
    ¬Packetises (errorReportMessage errorConfigInvalid [] 0)
      (errorReportPackets (errorReportMessage errorConfigInvalid [] 0)) := by
  intro h
  exact absurd h.reassembled (by decide +kernel)

end Nowde
