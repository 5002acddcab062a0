import Nowde.Proof.Packetisers
import Nowde.Proof.Replies
import Nowde.Spec.UsbLog

/-!
# The log, from print to the host's screen

Any context prints at any moment, the MIDI task takes chunks of any size out of the ring, and the host enables
and disables the log when it likes. A `LogRun` notes beside the log what the ring took, and what came out of it,
with whether a host listened then.

* `enqueued_eq_iff`: a LOG frame is enqueued whole exactly when the queue has room at each of its packets.
* `log_delivered`: what the ring took comes out once and in order, what comes out while a host listens is cut
  into the lines of that text, each for a LOG frame of its own, and until a host has listened nothing comes out.
* `log_read`: the tool shows these lines, as long as the queue has room for them.
-/

namespace Nowde

open Lines (linesOf linesFrom pieces)

/-! ## The line splitter -/

/-- **One byte** is cut as a line is. -/
theorem logByte_eq : logByte = Lines.put 0x0A loggable logLineMax := by
  funext lineBuf c
  have hpos : lineBuf.length > 0 ↔ lineBuf ≠ [] := List.length_pos_iff
  unfold logByte Lines.put
  simp only [hpos, ge_iff_le]
  by_cases hnew : c = 0x0A
  · simp [hnew]
  · by_cases hkeep : loggable c = true <;> simp [hnew, hkeep]

/-- The lines that the log cuts a text into. -/
def logLines (text : List UInt8) : List (List UInt8) := linesOf 0x0A loggable logLineMax text

/-! ## LOG frames and the queue -/

/-- What is enqueued is the beginning of the frame. -/
theorem LogFrame.enqueued_prefix (f : LogFrame) : f.enqueued <+: logPackets f.text := by
  have hprefix : f.enqueued <+: (logPackets f.text).zipIdx.map Prod.fst := (List.takeWhile_prefix _).map Prod.fst
  rwa [List.zipIdx_map_fst] at hprefix

/-- The queue has room at every packet of the frame. -/
def LogFrame.FindsRoom (f : LogFrame) : Prop := ∀ i < (logPackets f.text).length, f.queued i < midiQueuePackets

instance (f : LogFrame) : Decidable f.FindsRoom := inferInstanceAs (Decidable (∀ i < _, _))

/-- **A frame is enqueued whole** exactly when the queue has room for it; otherwise it is cut off. -/
theorem LogFrame.enqueued_eq_iff (f : LogFrame) : f.enqueued = logPackets f.text ↔ f.FindsRoom := by
  constructor
  · intro hwhole i hi
    have hlength : ((logPackets f.text).zipIdx.takeWhile fun p => f.queued p.2 < midiQueuePackets).length =
        (logPackets f.text).zipIdx.length := by
      rw [List.length_zipIdx, ← List.length_map (f := Prod.fst)]
      exact congrArg List.length hwhole
    have hall := List.takeWhile_eq_self_iff.1 ((List.takeWhile_prefix _).eq_of_length hlength)
    simpa using hall _ (List.mk_mem_zipIdx_iff_getElem?.2 (List.getElem?_eq_getElem hi))
  · intro hroom
    have hall : ((logPackets f.text).zipIdx.takeWhile fun p => f.queued p.2 < midiQueuePackets) =
        (logPackets f.text).zipIdx := by
      refine List.takeWhile_eq_self_iff.2 fun p hp => ?_
      obtain ⟨hi, -⟩ := List.getElem?_eq_some_iff.1 (List.mem_zipIdx_iff_getElem?.1 hp)
      simpa using hroom p.2 hi
    unfold LogFrame.enqueued
    rw [hall, List.zipIdx_map_fst]

/-! ## Runs of the log -/

/-- The log, the bytes that the ring took, and those that came out, with whether a host listened. -/
structure LogRun where
  log : UsbLog := {}
  taken : List UInt8 := []
  given : List (UInt8 × Bool) := []

namespace LogRun

/-- One step, and its calls of `enqueueLogFrame`. -/
def step (s : LogRun) (e : UsbLogStep) : LogRun × List LogFrame :=
  let r := s.log.step e
  match e with
  | .write buffer => ({ s with log := r.1, taken := if (usbLogWrite s.log buffer).2 then s.taken ++ buffer else s.taken },
      r.2)
  | .giveBack _ => ({ s with log := r.1, given := s.given ++ s.log.item.map fun c => (c, s.log.logEnabled) }, r.2)
  | .enable _ | .receive _ => ({ s with log := r.1 }, r.2)

/-- What came out while a host listened. -/
def shown (s : LogRun) : List UInt8 := (s.given.filter Prod.snd).map Prod.fst

/-- Where the bytes are, and what the lines so far say. -/
structure Sound (s : LogRun) (out : List LogFrame) : Prop where
  taken : s.taken = s.given.map Prod.fst ++ s.log.item ++ s.log.logRing
  room : s.log.logRing.length + s.log.item.length ≤ logRingBytes
  cut : Mealy.run logByte [] s.shown = (s.log.lineBuf, out.map LogFrame.text)
  history : s.log.logHistory = true → s.log.logEnabled = false ∧ s.log.item = [] ∧ s.given = []

theorem boot_sound : Sound {} [] where
  taken := rfl
  room := Nat.zero_le _
  cut := rfl
  history _ := ⟨rfl, rfl, rfl⟩

variable {s : LogRun} {out : List LogFrame}

/-- What a chunk adds to the text shown. -/
theorem shown_giveBack (s : LogRun) (queued : ℕ → ℕ → ℕ) : (s.step (.giveBack queued)).1.shown =
    if s.log.logEnabled then s.shown ++ s.log.item else s.shown := by
  unfold step shown
  dsimp only
  rw [List.filter_append, List.map_append]
  cases s.log.logEnabled with
  | true => simp [List.filter_map, Function.comp_def]
  | false => simp [List.filter_map, Function.comp_def]

/-- A write takes all the bytes or none. -/
theorem usbLogWrite_cases (l : UsbLog) (buffer : List UInt8) : usbLogWrite l buffer = (l, false) ∨
    l.logRing.length + l.item.length + buffer.length ≤ logRingBytes ∧
      usbLogWrite l buffer = ({ l with logRing := l.logRing ++ buffer }, true) := by
  unfold usbLogWrite
  split_ifs with hempty hfits
  · exact .inl rfl
  · exact .inr ⟨hfits, rfl⟩
  · exact .inl rfl

/-- **One step** moves the bytes on, and cuts what it shows. -/
theorem Sound.step (h : s.Sound out) (e : UsbLogStep) : (s.step e).1.Sound (out ++ (s.step e).2) := by
  obtain ⟨htaken, hroom, hcut, hhistory⟩ := h
  cases e with
  | write buffer =>
    unfold LogRun.step UsbLog.step
    dsimp only
    rw [List.append_nil]
    rcases usbLogWrite_cases s.log buffer with hfull | ⟨hfits, hwrite⟩
    · rw [hfull]
      exact ⟨htaken, hroom, hcut, hhistory⟩
    · rw [hwrite]
      refine ⟨?_, ?_, hcut, hhistory⟩
      · rw [if_pos rfl, htaken, List.append_assoc]
      · dsimp only
        rw [List.length_append]
        omega
  | enable on =>
    unfold LogRun.step UsbLog.step
    rw [List.append_nil]
    exact ⟨htaken, hroom, hcut, fun hold => by cases hold⟩
  | receive n =>
    unfold LogRun.step UsbLog.step
    dsimp only
    split_ifs with hsilent hitem
    · rw [List.append_nil]
      exact ⟨htaken, hroom, hcut, hhistory⟩
    · rw [List.append_nil]
      rw [hitem, List.append_nil] at htaken
      rw [hitem, List.length_nil, Nat.add_zero] at hroom
      refine ⟨?_, ?_, hcut, fun hold => ?_⟩
      · dsimp only
        rw [List.append_assoc, List.take_append_drop, htaken]
      · dsimp only
        rw [List.length_drop, List.length_take]
        omega
      · exact absurd ⟨by simp [(hhistory hold).1], hold⟩ hsilent
    · rw [List.append_nil]
      exact ⟨htaken, hroom, hcut, hhistory⟩
  | giveBack queued =>
    have hshown := shown_giveBack s queued
    refine ⟨?_, ?_, ?_, ?_⟩
    · unfold LogRun.step UsbLog.step
      dsimp only
      rw [List.map_append, List.map_map, Function.comp_def, List.map_id', htaken]
      split <;> simp
    · unfold LogRun.step UsbLog.step
      dsimp only
      split <;> simp only [List.length_nil, Nat.add_zero] <;> omega
    · rw [hshown]
      unfold LogRun.step UsbLog.step
      dsimp only
      split_ifs
      · have htext : ∀ lines : List (List UInt8),
            (lines.zipIdx.map fun line => (⟨line.1, queued line.2⟩ : LogFrame)).map LogFrame.text = lines := by
          intro lines
          rw [List.map_map]
          exact List.zipIdx_map_fst 0 lines
        rw [Mealy.run_append, hcut, List.map_append, htext]
      · rw [hcut, List.append_nil]
    · intro hold
      have hbefore : s.log.logHistory = true := by
        unfold LogRun.step UsbLog.step at hold
        dsimp only at hold
        split_ifs at hold <;> exact hold
      obtain ⟨hoff, hitem, hgiven⟩ := hhistory hbefore
      unfold LogRun.step UsbLog.step
      simp [hoff, hitem, hgiven]

/-- The runs of the log from boot. -/
theorem run_sound (es : List UsbLogStep) : (Mealy.run step {} es).1.Sound (Mealy.run step {} es).2 := by
  have hrun := Mealy.trace_inv Sound (G := fun _ _ => True) (fun _ _ e h _ => h.step e) boot_sound
    (Mealy.guarded_of_forall (fun _ _ => trivial) _ es)
  exact hrun

/-- The lines enqueued and the one begun. -/
theorem Sound.lines (h : s.Sound out) : out.map LogFrame.text ++ pieces logLineMax s.log.lineBuf = logLines s.shown := by
  have hempty : ([] : List UInt8).length ≤ logLineMax := Nat.zero_le _
  have hput : _ ∧ _ = linesFrom 0x0A loggable logLineMax [] s.shown := Lines.run_put (by decide) hempty s.shown
  rw [← logByte_eq, h.cut, Lines.linesFrom_nil] at hput
  exact hput.2

/-- A host listens, or nothing has come out yet; and all that came out was shown. -/
structure Listened (s : LogRun) : Prop where
  listens : s.log.logEnabled = true ∨ s.log.logHistory = true ∧ s.log.item = []
  given : ∀ g ∈ s.given, g.2 = true

theorem Listened.step (h : s.Listened) {e : UsbLogStep} (he : e ≠ .enable false) : (s.step e).1.Listened := by
  obtain ⟨hlistens, hgiven⟩ := h
  cases e with
  | write buffer =>
    unfold LogRun.step UsbLog.step
    dsimp only
    rcases usbLogWrite_cases s.log buffer with hfull | ⟨-, hwrite⟩
    · rw [hfull]
      exact ⟨hlistens, hgiven⟩
    · rw [hwrite]
      exact ⟨hlistens, hgiven⟩
  | enable on =>
    cases on with
    | true => exact ⟨.inl rfl, hgiven⟩
    | false => exact absurd rfl he
  | receive n =>
    unfold LogRun.step UsbLog.step
    dsimp only
    split_ifs with hsilent hitem
    · exact ⟨hlistens, hgiven⟩
    · have hon : s.log.logEnabled = true := by
        rcases hlistens with hon | hold
        · exact hon
        · by_contra hoff
          exact hsilent ⟨hoff, hold.1⟩
      exact ⟨.inl hon, hgiven⟩
    · exact ⟨hlistens, hgiven⟩
  | giveBack queued =>
    unfold LogRun.step UsbLog.step
    dsimp only
    split_ifs with hon
    · refine ⟨.inl hon, fun g hg => ?_⟩
      rcases List.mem_append.1 hg with hold | hnew
      · exact hgiven g hold
      · obtain ⟨c, -, rfl⟩ := List.mem_map.1 hnew
        exact hon
    · obtain ⟨hhistory, hitem⟩ := hlistens.resolve_left hon
      refine ⟨.inr ⟨hhistory, rfl⟩, fun g hg => ?_⟩
      dsimp only at hg
      rw [hitem, List.map_nil, List.append_nil] at hg
      exact hgiven g hg

/-- Until a host has enabled the log, it keeps the history. -/
theorem step_logHistory {e : UsbLogStep} (he : ∀ on, e ≠ .enable on) : (s.step e).1.log.logHistory = s.log.logHistory := by
  unfold LogRun.step UsbLog.step
  cases e with
  | write buffer => rcases usbLogWrite_cases s.log buffer with hfull | ⟨-, hwrite⟩ <;> simp [*]
  | enable on => exact absurd rfl (he on)
  | receive n =>
    dsimp only
    split_ifs <;> rfl
  | giveBack queued =>
    dsimp only
    split <;> rfl

end LogRun

/-! ## The host -/

/-- The lines that the tool shows of some packets: the texts of their LOG frames. -/
def Host.logShown (packets : List MidiEventPacket) : List (List Char) :=
  (usbMessages [] packets).filterMap fun message =>
    match Host.parse (Host.payload message) with
    | some (_, .log text) => some text
    | _ => none

/-- A whole message is read before what follows it. -/
theorem Standard.usbMessages_append {message begun : List UInt8} {packets : List MidiEventPacket}
    (h : Standard message packets) (rest : List MidiEventPacket) :
    usbMessages begun (packets ++ rest) = (begun ++ message) :: usbMessages [] rest := by
  induction h generalizing begun with
  | one => simp
  | two a => simp
  | three a b => simp
  | more a b c h ih =>
    rw [List.cons_append, usbMessages_more, ih]
    simp

/-- A printable character is sent as it is. -/
theorem and_0x7F_of_loggable {c : UInt8} (hc : loggable c = true) : c &&& 0x7F = c := by
  unfold loggable at hc
  simp only [decide_eq_true_eq] at hc
  exact and_0x7F_of_lt (UInt8.not_le.1 hc.2.2)

theorem logMessage_framed (text : List UInt8) : Framed (logMessage text) := by
  refine ⟨[sysexManufacturerId, sysexCmdLog] ++ text.map (· &&& 0x7F), rfl, ?_⟩
  intro b hb
  have hhead : SevenBit [sysexManufacturerId, sysexCmdLog] :=
    List.forall_mem_cons.2 ⟨by decide, List.forall_mem_singleton.2 (by decide)⟩
  rcases List.mem_append.1 hb with hfixed | htext
  · exact hhead b hfixed
  · obtain ⟨c, -, rfl⟩ := List.mem_map.1 htext
    exact and_0x7F_lt c

/-- **A LOG frame says its text.** -/
theorem parse_logMessage {text : List UInt8} (htext : ∀ c ∈ text, loggable c = true) :
    Host.parse (Host.payload (logMessage text)) = some ("LOG", .log (text.map fun c => Char.ofNat c.toNat)) := by
  have hpayload : Host.payload (logMessage text) = 0x7D :: 0x31 :: text.map (· &&& 0x7F) := by
    unfold Host.payload logMessage
    rw [List.cons_append, List.cons_append, List.tail_cons]
    exact List.dropLast_concat
  have hsame : text.map (· &&& 0x7F) = text := by
    calc text.map (· &&& 0x7F) = text.map id := List.map_congr_left fun c hc => and_0x7F_of_loggable (htext c hc)
      _ = text := List.map_id text
  have hascii : ∀ c ∈ text, c < 0x80 := fun c hc => by
    rw [← and_0x7F_of_loggable (htext c hc)]
    exact and_0x7F_lt c
  rw [hpayload, hsame]
  unfold Host.parse Host.parsePayload
  simp [byteAt, hsame, asciiText_of_lt hascii]
  decide

/-- The packets of LOG frames are shown as their texts. -/
theorem logShown_flatMap {texts : List (List UInt8)} (htexts : ∀ t ∈ texts, ∀ c ∈ t, loggable c = true) :
    Host.logShown (texts.flatMap logPackets) = texts.map fun t => t.map fun c => Char.ofNat c.toNat := by
  unfold Host.logShown
  induction texts with
  | nil => rfl
  | cons t texts ih =>
    have hread := parse_logMessage (htexts t List.mem_cons_self)
    have hstandard := standard_sysexPackets (logMessage_framed t).ends
    rw [List.flatMap_cons, show logPackets t = Host.sysexPackets (logMessage t) from rfl,
      hstandard.usbMessages_append, List.nil_append, List.filterMap_cons, hread, List.map_cons,
      ih fun u hu => htexts u (List.mem_cons_of_mem _ hu)]

/-- **The tool shows the log's lines**: after any run of prints, chunks and hosts that come and go in which the queue
has room for the LOG frames, what the tool shows of them are, character by character, the lines of the text that
came out while a host listened, up to the line begun; none is empty or longer than a hundred characters. -/
theorem log_read (es : List UsbLogStep) (hroom : ∀ f ∈ (Mealy.run LogRun.step {} es).2, f.FindsRoom) :
    let s := (Mealy.run LogRun.step {} es).1
    let lines := (logLines s.shown).map fun l => l.map fun c => Char.ofNat c.toNat
    Host.logShown ((Mealy.run LogRun.step {} es).2.flatMap LogFrame.enqueued) ++
        ((pieces logLineMax s.log.lineBuf).map fun l => l.map fun c => Char.ofNat c.toNat) = lines ∧
      (∀ l ∈ lines, l ≠ [] ∧ l.length ≤ logLineMax) ∧
      lines.flatten = (s.shown.filter loggable).map fun c => Char.ofNat c.toNat := by
  intro s lines
  have hlines : (Mealy.run LogRun.step {} es).2.map LogFrame.text ++ pieces logLineMax s.log.lineBuf =
      logLines s.shown := (LogRun.run_sound es).lines
  have hwhole : (Mealy.run LogRun.step {} es).2.flatMap LogFrame.enqueued =
      ((Mealy.run LogRun.step {} es).2.map LogFrame.text).flatMap logPackets := by
    rw [List.flatMap_map]
    exact List.flatMap_congr fun f hf => f.enqueued_eq_iff.2 (hroom f hf)
  have hmem : ∀ l ∈ logLines s.shown, l ≠ [] ∧ l.length ≤ logLineMax ∧ ∀ c ∈ l, loggable c = true :=
    fun l hl => Lines.of_mem_linesOf (by decide) hl
  refine ⟨?_, ?_, ?_⟩
  · rw [hwhole, logShown_flatMap fun t ht => (hmem t (hlines ▸ List.mem_append_left _ ht)).2.2, ← List.map_append, hlines]
  · intro l hl
    obtain ⟨t, ht, rfl⟩ := List.mem_map.1 hl
    obtain ⟨hne, hle, -⟩ := hmem t ht
    rw [List.length_map]
    exact ⟨fun hnil => hne (List.map_eq_nil_iff.1 hnil), hle⟩
  · have hflat : (logLines s.shown).flatten = s.shown.filter loggable := Lines.linesOf_flatten (by decide) s.shown
    rw [← List.map_flatten]
    exact congrArg (List.map fun c => Char.ofNat c.toNat) hflat

/-- `hello` and a line feed, printed before a host listens, then an empty queue. -/
def helloPrinted : List UsbLogStep :=
  [.write [0x68, 0x65, 0x6C, 0x6C, 0x6F, 0x0D, 0x0A], .receive 128, .giveBack fun _ _ => 0, .enable true, .receive 128,
    .giveBack fun _ i => i]

theorem log_read_hello :
    let s := (Mealy.run LogRun.step {} helloPrinted).1
    let lines := (logLines s.shown).map fun l => l.map fun c => Char.ofNat c.toNat
    Host.logShown ((Mealy.run LogRun.step {} helloPrinted).2.flatMap LogFrame.enqueued) ++
        ((pieces logLineMax s.log.lineBuf).map fun l => l.map fun c => Char.ofNat c.toNat) = lines ∧
      (∀ l ∈ lines, l ≠ [] ∧ l.length ≤ logLineMax) ∧
      lines.flatten = (s.shown.filter loggable).map fun c => Char.ofNat c.toNat :=
  log_read helloPrinted (by decide +kernel)

end Nowde
