import Nowde.Proof.UsbInput

/-!
# A plain update, end to end

The host tool cuts the image into chunks, encodes each into a SysEx frame and sends the frames
without waiting. The length of a frame reaches the dispatcher as a `uint8_t`, so a frame of 256
bytes or more is read as a short one, and silently dropped.

* `otaFrame_chunk`, `otaFrame_longChunk`: what becomes of a chunk.
* `otaPlain_iff`: the update comes through **exactly** when no chunk is longer than 219 bytes, and no
  overlong frame was cut off before it.
* `bundledTool_fails`: the chunk size of the bundled tool is 224.
-/

namespace Nowde

/-! ## Frames -/

/-- The longest chunk whose frame fits a `uint8_t` length. -/
def maxPlainChunk : ℕ := 219

section Frames

/-- A frame that is cut short does not end in `F7`. -/
theorem isOwnSysEx_cut {front : List UInt8} (hend : sysexEnd ∉ front) {length : ℕ}
    (hlen : length ≤ front.length) : isOwnSysEx (front ++ [sysexEnd]) length = false := by
  unfold isOwnSysEx
  rw [decide_eq_false_iff_not]
  rintro ⟨h3, -, hlast, -⟩
  have hlt : length - 1 < front.length := by omega
  have hmem : byteAt (front ++ [sysexEnd]) (length - 1) ∈ front := by
    have hat : byteAt (front ++ [sysexEnd]) (length - 1) = front[length - 1] := by
      unfold byteAt
      rw [List.getD_eq_getElem?_getD, List.getElem?_append_left hlt, List.getElem?_eq_getElem hlt]
      rfl
    rw [hat]
    exact List.getElem_mem hlt
  exact hend (hlast ▸ hmem)

/-- The payload of a command frame: status bytes are for framing. -/
structure Clean (payload : List UInt8) : Prop where
  noStart : sysexStart ∉ payload
  noEnd : sysexEnd ∉ payload

theorem clean_encode7 (x : List UInt8) : Clean (encode7 x) := by
  rw [encode7_eq]
  constructor <;> intro h <;> exact absurd (encode7bit_lt x _ h) (by decide)

variable {payload : List UInt8} {c : Command}

/-- The frame of a command. -/
def commandFrame (c : Command) (payload : List UInt8) : List UInt8 :=
  Host.send ([sysexManufacturerId, c.code] ++ payload)

theorem commandFrame_eq : commandFrame c payload =
    sysexStart :: ([sysexManufacturerId, c.code] ++ payload) ++ [sysexEnd] := rfl

@[simp] theorem length_commandFrame : (commandFrame c payload).length = payload.length + 4 := by
  simp [commandFrame, Host.send]

/-- A frame whose length fits the `uint8_t` runs its command. -/
theorem sysexCommand_commandFrame :
    sysexCommand (commandFrame c payload) (payload.length + 4) = some c := by
  have hlast : byteAt (commandFrame c payload) (payload.length + 4 - 1) = sysexEnd := by
    have hfront : (sysexStart :: ([sysexManufacturerId, c.code] ++ payload)).length = payload.length + 3 := by
      simp
    rw [commandFrame_eq, show payload.length + 4 - 1 = payload.length + 3 by omega, ← hfront]
    simp [byteAt]
  unfold sysexCommand
  rw [if_pos]
  · exact Command.ofCode_code c
  · refine ⟨?_, by omega⟩
    simp only [isOwnSysEx, decide_eq_true_eq]
    exact ⟨by omega, rfl, hlast, rfl⟩

theorem otaFrame_commandFrame (lib : UpdateLib) (o : Ota) (env : Env) (hc : payload.length + 4 < 256) :
    otaFrame lib o (env, commandFrame c payload) =
      otaCommand lib env o c (commandFrame c payload) (payload.length + 4) := by
  have hlen : (UInt8.ofNat (commandFrame c payload).length).toNat = payload.length + 4 := by
    rw [length_commandFrame, UInt8.toNat_ofNat']
    omega
  unfold otaFrame
  dsimp only
  rw [hlen, sysexCommand_commandFrame]

/-- A frame of 256 bytes or more is no frame of the dispatcher's. -/
theorem not_isOwnSysEx_long (hclean : Clean payload) (hc : c.code ≠ sysexEnd)
    (hlong : 256 ≤ payload.length + 4) :
    ¬isOwnSysEx (commandFrame c payload) (UInt8.ofNat (commandFrame c payload).length).toNat = true := by
  have hshort : (UInt8.ofNat (commandFrame c payload).length).toNat ≤ payload.length + 3 := by
    rw [length_commandFrame, UInt8.toNat_ofNat']
    omega
  have hfront : sysexEnd ∉ sysexStart :: ([sysexManufacturerId, c.code] ++ payload) := by
    simp only [List.cons_append, List.nil_append, List.mem_cons, not_or]
    exact ⟨by decide, by decide, Ne.symm hc, hclean.noEnd⟩
  have hcut : isOwnSysEx (commandFrame c payload) (UInt8.ofNat (commandFrame c payload).length).toNat = false := by
    apply isOwnSysEx_cut hfront
    simpa using hshort
  rw [hcut]
  exact Bool.false_ne_true

/-- It is dropped without a word. -/
theorem otaFrame_long (lib : UpdateLib) (o : Ota) (env : Env) (hclean : Clean payload)
    (hc : c.code ≠ sysexEnd) (hlong : 256 ≤ payload.length + 4) :
    otaFrame lib o (env, commandFrame c payload) = (o, []) := by
  have hnot := not_isOwnSysEx_long hclean hc hlong
  unfold otaFrame sysexCommand sysexRejection
  dsimp only
  rw [if_neg (fun h => hnot h.1), if_pos hnot]

/-- It runs no other command, whatever its length. -/
theorem eq_of_sysexCommand_commandFrame (hclean : Clean payload) (hc : c.code ≠ sysexEnd) {c' : Command}
    (hcmd : sysexCommand (commandFrame c payload) (UInt8.ofNat (commandFrame c payload).length).toNat = some c') :
    c' = c := by
  by_cases hlong : 256 ≤ payload.length + 4
  · have hnot := not_isOwnSysEx_long hclean hc hlong
    unfold sysexCommand at hcmd
    rw [if_neg (fun h => hnot h.1)] at hcmd
    cases hcmd
  · have hlen : (UInt8.ofNat (commandFrame c payload).length).toNat = payload.length + 4 := by
      rw [length_commandFrame, UInt8.toNat_ofNat']
      omega
    rw [hlen, sysexCommand_commandFrame] at hcmd
    exact (Option.some.inj hcmd).symm

end Frames

/-! ## The host's frames -/

section Host

theorem send_otaBegin (size : ℕ) :
    Host.send (Host.otaBegin size) = commandFrame .otaBegin (encode7bit (u32be (UInt32.ofNat size))) := by
  unfold Host.otaBegin
  rw [encode7_eq]
  rfl

theorem send_otaData (chunk : List UInt8) :
    Host.send (Host.otaData chunk) = commandFrame .otaData (encode7 chunk) := rfl

theorem send_otaEnd : Host.send Host.otaEnd = commandFrame .otaEnd [] := rfl

theorem length_encode7 (chunk : List UInt8) : (encode7 chunk).length = chunk.length + (chunk.length + 6) / 7 := by
  rw [encode7_eq, length_encode7bit]

/-- The payload of a command frame, read back. -/
theorem slice_commandFrame (c : Command) (payload : List UInt8) :
    slice (commandFrame c payload) 3 payload.length = payload := by
  simp [slice, commandFrame, Host.send]

theorem otaAnnouncedSize_begin (size : UInt32) :
    otaAnnouncedSize (commandFrame .otaBegin (encode7bit (u32be size))) = size := by
  have hlen : (encode7bit (u32be size)).length = 5 := by rw [length_encode7bit, length_u32be]
  have hslice : slice (commandFrame .otaBegin (encode7bit (u32be size))) 3 5 = encode7bit (u32be size) := by
    rw [← hlen]
    exact slice_commandFrame _ _
  unfold otaAnnouncedSize
  rw [hslice, decode7bit_encode7bit, be32_u32be]

end Host

/-! ## What becomes of a chunk -/

section Chunks

variable {lib : UpdateLib} {o : Ota} (env : Env) {chunk : List UInt8}

/-- **A chunk of at most 219 bytes** is written. -/
theorem otaFrame_chunk (hin : o.otaInProgress = true) (hsize : o.otaTotalSize ≠ 0) (hne : chunk ≠ [])
    (hfits : chunk.length ≤ maxPlainChunk) (hw : lib.write o.calls chunk = chunk.length) :
    otaFrame lib o (env, Host.send (Host.otaData chunk)) =
      ({ o with
          otaReceivedSize := o.otaReceivedSize + UInt32.ofNat chunk.length
          calls := o.calls ++ [.write chunk] }, []) := by
  have hpos : 0 < chunk.length := List.length_pos_iff.2 hne
  have hlen := length_encode7 chunk
  unfold maxPlainChunk at hfits
  have hdecoded : decode7bit (slice (commandFrame .otaData (encode7 chunk)) 3 ((encode7 chunk).length + 4 - 4)) =
      chunk := by
    rw [Nat.add_sub_cancel, slice_commandFrame, encode7_eq, decode7bit_encode7bit]
  rw [send_otaData, otaFrame_commandFrame lib o env (by omega)]
  simp only [otaCommand, otaData]
  rw [if_pos ⟨hin, by omega⟩, hdecoded, if_neg (by simp [hw]), if_neg hsize]

/-- **A longer chunk** is lost, and nothing is said about it. -/
theorem otaFrame_longChunk (hlong : maxPlainChunk < chunk.length) (hmax : chunk.length ≤ 256) :
    otaFrame lib o (env, Host.send (Host.otaData chunk)) = (o, []) := by
  have hlen := length_encode7 chunk
  unfold maxPlainChunk at hlong
  rw [send_otaData]
  exact otaFrame_long lib o env (clean_encode7 chunk) (by decide) (by omega)

/-- The chunks that come through. -/
def kept (chunks : List (List UInt8)) : List (List UInt8) := chunks.filter fun c => c.length ≤ maxPlainChunk

theorem length_flatten_kept (chunks : List (List UInt8)) :
    (kept chunks).flatten.length ≤ chunks.flatten.length := by
  have hsub : (kept chunks).flatten.Sublist chunks.flatten := List.Sublist.flatten List.filter_sublist
  exact hsub.length_le

/-- **All data frames** of an update: the short chunks are written, in order. -/
theorem run_chunks (hlib : lib.Documented) (hwrites : lib.WritesAll) {chunks : List (List UInt8)}
    (hchunks : ∀ c ∈ chunks, c ≠ [] ∧ c.length ≤ 256) (h : OtaInv lib o) (hin : o.otaInProgress = true)
    (hroom : (updateSession lib o.calls).bytes.length + chunks.flatten.length ≤
      (updateSession lib o.calls).size.toNat)
    {frames : List (Env × List UInt8)}
    (hf : frames.map Prod.snd = chunks.map fun c => Host.send (Host.otaData c)) :
    let r := Mealy.run (otaFrame lib) o frames
    r.2 = [] ∧ r.1.otaInProgress = true ∧ OtaInv lib r.1 ∧
      r.1.calls = o.calls ++ (kept chunks).map .write ∧
      updateSession lib r.1.calls =
        { updateSession lib o.calls with
          bytes := (updateSession lib o.calls).bytes ++ (kept chunks).flatten } := by
  induction chunks generalizing o frames with
  | nil =>
    have hnil : frames = [] := by simpa using hf
    subst hnil
    exact ⟨rfl, hin, h, by simp [kept], by simp [kept]⟩
  | cons chunk chunks ih =>
    rw [List.map_cons] at hf
    obtain ⟨⟨env, frame⟩, rest, rfl, hframe, hrest⟩ := List.map_eq_cons_iff.1 hf
    have heq : frame = Host.send (Host.otaData chunk) := hframe
    subst heq
    obtain ⟨hne, hmax⟩ := hchunks chunk (by simp)
    have hothers : ∀ c ∈ chunks, c ≠ [] ∧ c.length ≤ 256 := fun c hc => hchunks c (by simp [hc])
    rw [List.flatten_cons, List.length_append] at hroom
    have hrun : lib.isRunning o.calls = true := h.inProgress.symm.trans hin
    by_cases hfits : chunk.length ≤ maxPlainChunk
    · -- there is room for it, so the library takes it whole
      have hw : lib.write o.calls chunk = chunk.length := hwrites _ _ hrun (by omega)
      have hpos : o.otaTotalSize ≠ 0 := by
        rw [h.total hrun]
        exact h.size_ne_zero hrun
      have hstep := otaFrame_chunk env hin hpos hne hfits hw
      have hsession := updateSession_write hw
      have hkept : kept (chunk :: chunks) = chunk :: kept chunks := by simp [kept, hfits]
      have hroom' : (updateSession lib (o.calls ++ [.write chunk])).bytes.length + chunks.flatten.length ≤
          (updateSession lib (o.calls ++ [.write chunk])).size.toNat := by
        rw [hsession]
        simp only [List.length_append]
        omega
      obtain ⟨h1, h2, h3, h4, h5⟩ := ih hothers (h.write hlib hin hw) hin hroom' hrest
      simp only [Mealy.run_cons, hstep]
      refine ⟨by rw [h1]; rfl, h2, h3, ?_, ?_⟩
      · rw [h4, hkept]
        simp
      · rw [h5, hkept]
        dsimp only
        rw [hsession]
        simp
    · -- nobody hears of it, so the session goes on without it
      have hstep : otaFrame lib o (env, Host.send (Host.otaData chunk)) = (o, []) :=
        otaFrame_longChunk env (by omega) hmax
      have hkept : kept (chunk :: chunks) = kept chunks := by simp [kept, hfits]
      obtain ⟨h1, h2, h3, h4, h5⟩ := ih hothers h hin (by omega) hrest
      simp only [Mealy.run_cons, hstep]
      rw [hkept]
      exact ⟨by rw [h1]; rfl, h2, h3, h4, h5⟩

end Chunks

/-! ## The whole update -/

section Update

variable {lib : UpdateLib} {image : List UInt8} {c : ℕ}

/-- What an update has to come to: the image written byte for byte, the session finished, and no
error reported. -/
structure UpdateDone (calls₀ : List UpdateCall) (image : List UInt8) (o : Ota) (out : List Out) : Prop where
  calls : ∃ writes : List (List UInt8), o.calls =
    calls₀ ++ [.begin (UInt32.ofNat image.length)] ++ writes.map .write ++ [.finish] ∧ writes.flatten = image
  noError : ∀ m, Out.host (.errorReport m) ∉ out

/-- The frames of `cmd_ota` get through the parser as they are; an overflow mark costs the first. -/
theorem received_cmdOta (hc : 0 < c) (hmax : c ≤ 256) {s : SysexParser} {packets : List (Env × MidiEventPacket)}
    (hp : packets.map Prod.snd = (Host.cmdOta c image).flatMap Host.sysexPackets) :
    (Mealy.run SysexParser.receive s packets).2.map Prod.snd =
      if s.sysexOverflow then (Host.cmdOta c image).tail else Host.cmdOta c image := by
  -- each frame is clean inside and short enough for the buffer
  have hframes : ∀ f ∈ Host.cmdOta c image, ∃ body, f = sysexStart :: body ++ [sysexEnd] ∧
      sysexEnd ∉ body ∧ sysexStart ∉ body ∧ body.length + 2 ≤ sysexBufferSize := by
    have hbody : ∀ (cmd : UInt8) (x : List UInt8), cmd ≠ sysexEnd → cmd ≠ sysexStart → x.length ≤ 256 →
        ∃ body, Host.send ([sysexManufacturerId, cmd] ++ encode7 x) = sysexStart :: body ++ [sysexEnd] ∧
          sysexEnd ∉ body ∧ sysexStart ∉ body ∧ body.length + 2 ≤ sysexBufferSize := by
      intro cmd x hne hns hx
      obtain ⟨h1, h2⟩ := clean_encode7 x
      have hlen := length_encode7 x
      refine ⟨_, rfl, ?_, ?_, ?_⟩
      · simp only [List.cons_append, List.nil_append, List.mem_cons, not_or]
        exact ⟨by decide, Ne.symm hne, h2⟩
      · simp only [List.cons_append, List.nil_append, List.mem_cons, not_or]
        exact ⟨by decide, Ne.symm hns, h1⟩
      · simp only [List.length_append, List.length_cons, List.length_nil, hlen, sysexBufferSize]
        omega
    intro f hf
    simp only [Host.cmdOta, List.cons_append, List.mem_cons, List.mem_append, List.mem_map, List.mem_nil_iff,
      or_false] at hf
    rcases hf with rfl | ⟨chunk, hchunk, rfl⟩ | rfl
    · exact hbody sysexCmdOtaBegin _ (by decide) (by decide) (by simp)
    · have hle := ((Host.chunks_spec hc image).2 chunk hchunk).2
      exact hbody sysexCmdOtaData chunk (by decide) (by decide) (by omega)
    · exact hbody sysexCmdOtaEnd [] (by decide) (by decide) (by simp)
  generalize Host.cmdOta c image = frames at hframes hp
  induction frames generalizing s packets with
  | nil =>
    have hnil : packets = [] := by simpa using hp
    subst hnil
    split <;> rfl
  | cons f fs ih =>
    rw [List.flatMap_cons] at hp
    obtain ⟨first, rest, rfl, hfirst, hrest⟩ := List.map_eq_append_iff.1 hp
    obtain ⟨body, rfl, hend, hstart, hroom⟩ := hframes f (by simp)
    obtain ⟨env, hrun⟩ := received_frame (s := s) hend hstart hroom hfirst
    -- the parser starts over after the first frame, so the others are not affected
    have hothers : (Mealy.run SysexParser.receive {} rest).2.map Prod.snd = fs :=
      ih (fun f hf => hframes f (List.mem_cons_of_mem _ hf)) hrest
    rw [Mealy.run_append, hrun, List.map_append, hothers]
    split <;> rfl

/-- `OTA_END` after the chunks that were kept. -/
theorem otaEnd_kept {o : Ota} {chunks : List (List UInt8)} (hin : o.otaInProgress = true)
    (hlt : chunks.flatten.length < 2 ^ 32)
    (hreceived : o.otaReceivedSize.toNat = (kept chunks).flatten.length)
    (htotal : o.otaTotalSize = UInt32.ofNat chunks.flatten.length) :
    otaEnd lib o =
      if (kept chunks).flatten.length = chunks.flatten.length then
        if lib.finish o.calls then ({ o with calls := o.calls ++ [.finish] }, [.restart])
        else ({ o with otaInProgress := false, calls := o.calls ++ [.finish] }, sendConfigInvalid)
      else ({ o with otaInProgress := false, calls := o.calls ++ [.abort] }, sendConfigInvalid) := by
  have hiff : o.otaReceivedSize = o.otaTotalSize ↔
      (kept chunks).flatten.length = chunks.flatten.length := by
    rw [← UInt32.toNat_inj, hreceived, htotal, UInt32.toNat_ofNat']
    omega
  unfold otaEnd
  rw [if_pos hin]
  by_cases heq : (kept chunks).flatten.length = chunks.flatten.length
  · rw [if_neg (not_not.2 (hiff.2 heq)), if_pos heq]
  · rw [if_pos (fun h => heq (hiff.1 h)), if_neg heq]

/-- No chunk is lost when none is too long. -/
theorem kept_of_short (hc : 0 < c) (hshort : min c image.length ≤ maxPlainChunk) :
    kept (Host.chunks c image) = Host.chunks c image := by
  apply List.filter_eq_self.2
  intro chunk hchunk
  obtain ⟨-, hle⟩ := (Host.chunks_spec hc image).2 chunk hchunk
  have hpart : chunk.length ≤ image.length := by
    have := (List.sublist_flatten_of_mem hchunk).length_le
    rwa [(Host.chunks_spec hc image).1] at this
  simp only [decide_eq_true_eq]
  omega

/-- Otherwise the first chunk is one that is lost. -/
theorem kept_lt_of_long (hc : 0 < c) (himage : image ≠ []) (hlong : maxPlainChunk < min c image.length) :
    (kept (Host.chunks c image)).flatten.length < (Host.chunks c image).flatten.length := by
  have hpos : 0 < image.length := List.length_pos_iff.2 himage
  rw [Host.chunks_of_ne_nil hc himage]
  have hfirst : ¬(image.take c).length ≤ maxPlainChunk := by rw [List.length_take]; omega
  have hkept : kept (image.take c :: Host.chunks c (image.drop c)) = kept (Host.chunks c (image.drop c)) := by
    unfold kept
    rw [List.filter_cons_of_neg (by simpa using hfirst)]
  have hle := length_flatten_kept (Host.chunks c (image.drop c))
  rw [hkept, List.flatten_cons, List.length_append, List.length_take]
  omega

/-- The frames of `cmd_ota` after the first run `OTA_DATA` or `OTA_END`, if they run a command. -/
theorem sysexCommand_cmdOta_tail {f : List UInt8} (h : f ∈ (Host.cmdOta c image).tail) {c' : Command}
    (hcmd : sysexCommand f (UInt8.ofNat f.length).toNat = some c') : c' = .otaData ∨ c' = .otaEnd := by
  simp only [Host.cmdOta, List.cons_append, List.tail_cons, List.mem_append, List.mem_map, List.mem_cons,
    List.mem_nil_iff, or_false] at h
  rcases h with ⟨chunk, -, rfl⟩ | rfl
  · rw [send_otaData] at hcmd
    exact Or.inl (eq_of_sysexCommand_commandFrame (clean_encode7 chunk) (by decide) hcmd)
  · rw [send_otaEnd] at hcmd
    exact Or.inr (eq_of_sysexCommand_commandFrame ⟨by simp, by simp⟩ (by decide) hcmd)

/-- What `cmd_ota` sends are update frames, so the update state is all that matters. -/
theorem isOtaFrame_cmdOta {f : List UInt8} (h : f ∈ Host.cmdOta c image) : IsOtaFrame f := by
  intro c' hcmd
  have hclean : Clean (encode7bit (u32be (UInt32.ofNat image.length))) := by
    rw [← encode7_eq]
    exact clean_encode7 _
  rcases List.mem_cons.1 (show f ∈ Host.send (Host.otaBegin image.length) :: (Host.cmdOta c image).tail from h) with
    rfl | htail
  · rw [send_otaBegin] at hcmd
    rw [eq_of_sysexCommand_commandFrame hclean (by decide) hcmd]
    rfl
  · rcases sysexCommand_cmdOta_tail htail hcmd with rfl | rfl <;> rfl

/-- The update state of a session that has just been granted. -/
def begunOta (lib : UpdateLib) (o : Ota) (env : Env) (size : UInt32) : Ota where
  otaInProgress := true
  otaTotalSize := size
  otaReceivedSize := 0
  otaStartTime := env.millis
  calls := abortRunning lib o.calls ++ [.begin size]

/-- `OTA_BEGIN` opens the session. -/
theorem otaFrame_begin {o : Ota} {size : UInt32} (env : Env)
    (hbegin : lib.begin (abortRunning lib o.calls) size = true) :
    otaFrame lib o (env, commandFrame .otaBegin (encode7bit (u32be size))) = (begunOta lib o env size, []) := by
  have hlen : (encode7bit (u32be size)).length = 5 := by
    rw [length_encode7bit, length_u32be]
  have hsame := otaAnnouncedSize_begin size
  rw [otaFrame_commandFrame lib o env (by omega), hlen]
  simp only [otaCommand]
  rw [otaBegin_of_granted lib env _ (by omega) (by rw [hsame]; exact hbegin), hsame]
  rfl

/-- The node before `OTA_END`: the session is open and has what was not lost of the chunks. -/
structure BeforeEnd (lib : UpdateLib) (calls₀ : List UpdateCall) (image : List UInt8) (c : ℕ) (o : Ota) : Prop where
  inProgress : o.otaInProgress = true
  running : lib.isRunning o.calls = true
  received : o.otaReceivedSize.toNat = (kept (Host.chunks c image)).flatten.length
  total : o.otaTotalSize = UInt32.ofNat (Host.chunks c image).flatten.length
  calls : o.calls =
    calls₀ ++ [.begin (UInt32.ofNat image.length)] ++ (kept (Host.chunks c image)).map .write
  session : updateSession lib o.calls =
    { size := UInt32.ofNat image.length, bytes := (kept (Host.chunks c image)).flatten }

/-- **The frames of `cmd_ota`** end in an `OTA_END` in that state, and nothing is answered before. -/
theorem run_cmdOta (hlib : lib.Documented) (hwrites : lib.WritesAll) (hsize : image.length < 2 ^ 32) (hc : 0 < c)
    (hmax : c ≤ 256) {o : Ota}
    (hbegin : lib.begin (abortRunning lib o.calls) (UInt32.ofNat image.length) = true)
    {frames : List (Env × List UInt8)} (hframes : frames.map Prod.snd = Host.cmdOta c image) :
    ∃ o', Mealy.run (otaFrame lib) o frames = otaEnd lib o' ∧
      BeforeEnd lib (abortRunning lib o.calls) image c o' := by
  obtain ⟨hflat, hchunks⟩ := Host.chunks_spec hc image
  obtain ⟨first, last, rfl, hfirst, hlast⟩ := List.map_eq_append_iff.1 hframes
  obtain ⟨⟨env₁, frame₁⟩, middle, rfl, hframe₁, hmiddle⟩ := List.map_eq_cons_iff.1 hfirst
  obtain ⟨⟨env₂, frame₂⟩, rfl, hframe₂⟩ := List.map_eq_singleton_iff.1 hlast
  have hfirstFrame : frame₁ = commandFrame .otaBegin (encode7bit (u32be (UInt32.ofNat image.length))) :=
    hframe₁.trans (send_otaBegin _)
  have hlastFrame : frame₂ = commandFrame .otaEnd [] := hframe₂
  subst hfirstFrame
  subst hlastFrame
  -- the session is opened
  have hbegun := otaFrame_begin env₁ hbegin
  have hinv : OtaInv lib (begunOta lib o env₁ (UInt32.ofNat image.length)) :=
    otaInv_begin hlib (isRunning_abortRunning hlib o.calls) hbegin env₁.millis
  have hsession : updateSession lib (begunOta lib o env₁ (UInt32.ofNat image.length)).calls =
      { size := UInt32.ofNat image.length } := updateSession_begin hbegin
  -- then the chunks
  have hroom : (updateSession lib (begunOta lib o env₁ (UInt32.ofNat image.length)).calls).bytes.length +
      (Host.chunks c image).flatten.length ≤
        (updateSession lib (begunOta lib o env₁ (UInt32.ofNat image.length)).calls).size.toNat := by
    rw [hsession, hflat, UInt32.toNat_ofNat']
    simp only [List.length_nil]
    omega
  obtain ⟨hquiet, hin, hkinv, hkcalls, hksession⟩ := run_chunks hlib hwrites
    (fun chunk hchunk => ⟨(hchunks chunk hchunk).1, (hchunks chunk hchunk).2.trans hmax⟩) hinv rfl hroom hmiddle
  set o' := (Mealy.run (otaFrame lib) (begunOta lib o env₁ (UInt32.ofNat image.length)) middle).1
  have hend : otaFrame lib o' (env₂, commandFrame .otaEnd []) = otaEnd lib o' :=
    otaFrame_commandFrame lib o' env₂ (by simp)
  have hrunning : lib.isRunning o'.calls = true := hkinv.inProgress.symm.trans hin
  refine ⟨o', ?_, hin, hrunning, ?_, ?_, hkcalls, ?_⟩
  · simp only [List.cons_append, Mealy.run_cons, Mealy.run_append, Mealy.run_nil, hbegun, hquiet]
    simp only [List.nil_append, List.append_nil, ← hend]
    rfl
  · rw [hkinv.received hrunning, hksession, hsession]
    simp
  · rw [hkinv.total hrunning, hksession, hsession, hflat]
  · rw [hksession, hsession]
    simp

/-! ## A lost beginning -/

/-- A call of `Update.begin`. -/
def UpdateCall.isBegin : UpdateCall → Bool
  | .begin _ => true
  | _ => false

/-- How many sessions were asked for. -/
def begins (calls : List UpdateCall) : ℕ := calls.countP UpdateCall.isBegin

theorem begins_append (calls calls' : List UpdateCall) : begins (calls ++ calls') = begins calls + begins calls' :=
  List.countP_append

theorem begins_abortRunning (calls : List UpdateCall) : begins (abortRunning lib calls) = begins calls := by
  unfold abortRunning
  split
  · simp [begins, UpdateCall.isBegin]
  · rfl

/-- Only `OTA_BEGIN` asks for a session. -/
theorem otaFrame_begins (o : Ota) {env : Env} {f : List UInt8}
    (h : ∀ c', sysexCommand f (UInt8.ofNat f.length).toNat = some c' → c' = .otaData ∨ c' = .otaEnd) :
    begins (otaFrame lib o (env, f)).1.calls = begins o.calls := by
  unfold otaFrame
  cases hcmd : sysexCommand f (UInt8.ofNat f.length).toNat with
  | none => rfl
  | some c' =>
    rcases h c' hcmd with rfl | rfl
    · simp only [otaCommand, otaData]
      split_ifs <;> simp [begins, UpdateCall.isBegin]
    · simp only [otaCommand, otaEnd]
      split_ifs <;> simp [begins, UpdateCall.isBegin]

theorem run_begins {o : Ota} {frames : List (Env × List UInt8)}
    (h : ∀ f ∈ frames, ∀ c', sysexCommand f.2 (UInt8.ofNat f.2.length).toNat = some c' →
      c' = .otaData ∨ c' = .otaEnd) :
    begins (Mealy.run (otaFrame lib) o frames).1.calls = begins o.calls := by
  induction frames generalizing o with
  | nil => rfl
  | cons f fs ih =>
    rw [Mealy.run_cons]
    exact (ih fun f hf => h f (List.mem_cons_of_mem _ hf)).trans (otaFrame_begins o (h f List.mem_cons_self))

/-- An update asks for one. -/
theorem UpdateDone.begins {calls₀ : List UpdateCall} {o : Ota} {out : List Out}
    (h : UpdateDone calls₀ image o out) : begins o.calls = begins calls₀ + 1 := by
  obtain ⟨⟨writes, hcalls, -⟩, -⟩ := h
  have hwrites : Nowde.begins (writes.map .write) = 0 := by
    unfold Nowde.begins
    rw [List.countP_eq_zero]
    intro call hcall
    obtain ⟨bytes, -, rfl⟩ := List.mem_map.1 hcall
    exact Bool.false_ne_true
  rw [hcalls, begins_append, begins_append, begins_append, hwrites]
  rfl

/-- **A plain update comes through exactly when no chunk is longer than 219 bytes**, from any node
but one that still has the overflow mark of an overlong frame that was cut off. The image has at
least one byte and a 32-bit length, the chunk size is within the documented bound, the library
grants the session, takes every write that fits and accepts the complete image, and nothing is lost
on the way. -/
theorem otaPlain_iff (hlib : lib.Documented) (hwrites : lib.WritesAll) (himage : 0 < image.length)
    (hsize : image.length < 2 ^ 32) (hc : 0 < c) (hmax : c ≤ 256) (n : Node)
    (hbegin : lib.begin (abortRunning lib n.ota.calls) (UInt32.ofNat image.length) = true)
    (hfinish : ∀ calls, lib.isRunning calls = true →
      updateSession lib calls = { size := UInt32.ofNat image.length, bytes := image } → lib.finish calls = true)
    {packets : List (Env × MidiEventPacket)}
    (hp : packets.map Prod.snd = (Host.cmdOta c image).flatMap Host.sysexPackets) :
    UpdateDone (abortRunning lib n.ota.calls) image (midiProcess lib n packets).1.ota
        (midiProcess lib n packets).2 ↔
      n.parser.sysexOverflow = false ∧ min c image.length ≤ maxPlainChunk := by
  have hne : image ≠ [] := List.length_pos_iff.1 himage
  have hflat := (Host.chunks_spec hc image).1
  have hframes := received_cmdOta hc hmax (s := n.parser) hp
  have hota : ∀ f ∈ (Mealy.run SysexParser.receive n.parser packets).2, IsOtaFrame f.2 := by
    intro f hf
    have hmem := List.mem_map_of_mem (f := Prod.snd) hf
    rw [hframes] at hmem
    split at hmem
    · exact isOtaFrame_cmdOta (List.mem_of_mem_tail hmem)
    · exact isOtaFrame_cmdOta hmem
  obtain ⟨hstate, hout, -⟩ := midiProcess_ota lib n hota
  rw [hstate, hout]
  cases hover : n.parser.sysexOverflow with
  | true =>
    -- the beginning is lost, and without it no session is asked for
    rw [hover, if_pos rfl] at hframes
    have hnone : begins (Mealy.run (otaFrame lib) n.ota (Mealy.run SysexParser.receive n.parser packets).2).1.calls =
        begins n.ota.calls :=
      run_begins fun f hf c' hcmd => sysexCommand_cmdOta_tail (hframes ▸ List.mem_map_of_mem hf) hcmd
    constructor
    · intro hdone
      have hone := hdone.begins
      rw [hnone, begins_abortRunning] at hone
      omega
    · rintro ⟨hno, -⟩
      cases hno
  | false =>
    rw [hover, if_neg Bool.false_ne_true] at hframes
    obtain ⟨o', hrun, hbefore⟩ := run_cmdOta hlib hwrites hsize hc hmax hbegin hframes
    rw [hrun, otaEnd_kept hbefore.inProgress (by rw [hflat]; exact hsize) hbefore.received hbefore.total]
    constructor
    · intro hdone
      refine ⟨rfl, ?_⟩
      by_contra hlong
      have hlt := kept_lt_of_long hc hne (by omega)
      rw [if_neg (by omega)] at hdone
      have hreport : Out.host (.errorReport (errorReportMessage errorConfigInvalid [] 0)) ∈ sendConfigInvalid :=
        List.mem_singleton_self _
      exact hdone.noError _ hreport
    · rintro ⟨-, hshort⟩
      have hkept := kept_of_short hc hshort
      have hcomplete : updateSession lib o'.calls = { size := UInt32.ofNat image.length, bytes := image } := by
        rw [hbefore.session, hkept, hflat]
      rw [hkept, if_pos rfl, if_pos (hfinish o'.calls hbefore.running hcomplete)]
      refine ⟨⟨Host.chunks c image, ?_, hflat⟩, by simp⟩
      rw [hbefore.calls, hkept]

end Update

/-! ## Two updates -/

/-- The packets of an update, all read at one instant. -/
def updatePackets (c : ℕ) (image : List UInt8) : List (Env × MidiEventPacket) :=
  ((Host.cmdOta c image).flatMap Host.sysexPackets).map fun p => ({ millis := 5 }, p)

theorem updatePackets_snd (c : ℕ) (image : List UInt8) :
    (updatePackets c image).map Prod.snd = (Host.cmdOta c image).flatMap Host.sysexPackets := by
  unfold updatePackets
  rw [List.map_map]
  exact List.map_id _

/-- A partition accepts an image it holds all of. -/
theorem flashLib_accepts (room : ℕ) {image : List UInt8} (hsize : image.length < 2 ^ 32) (calls : List UpdateCall)
    (hrun : (flashLib room).isRunning calls = true)
    (hsession : updateSession (flashLib room) calls = { size := UInt32.ofNat image.length, bytes := image }) :
    (flashLib room).finish calls = true := by
  apply flashLib_finish hrun
  rw [hsession, UInt32.toNat_ofNat']
  dsimp only
  omega

/-- A node on its first day. -/
def freshNode : Node := boot plainBuild {} 0 Mac.zero

theorem threeBytes_updated :
    UpdateDone [] [1, 2, 3] (midiProcess (flashLib 64) freshNode (updatePackets 2 [1, 2, 3])).1.ota
      (midiProcess (flashLib 64) freshNode (updatePackets 2 [1, 2, 3])).2 :=
  (otaPlain_iff (flashLib_documented 64) (flashLib_writesAll 64) (by decide) (by decide) (by decide) (by decide)
    freshNode (by decide) (flashLib_accepts 64 (by decide)) (updatePackets_snd 2 [1, 2, 3])).2 (by decide)

/-- **The bundled tool's chunk size loses the first chunk** of any image as long: the node reports
an error at the end and the image is not accepted. -/
theorem bundledTool_fails :
    ¬∀ (lib : UpdateLib) (image : List UInt8) (c : ℕ) (n : Node) (packets : List (Env × MidiEventPacket)),
      lib.Documented → lib.WritesAll → 0 < image.length → image.length < 2 ^ 32 → 0 < c → c ≤ 256 →
      n.parser.sysexOverflow = false →
      lib.begin (abortRunning lib n.ota.calls) (UInt32.ofNat image.length) = true →
      (∀ calls, lib.isRunning calls = true →
        updateSession lib calls = { size := UInt32.ofNat image.length, bytes := image } → lib.finish calls = true) →
      packets.map Prod.snd = (Host.cmdOta c image).flatMap Host.sysexPackets →
      UpdateDone (abortRunning lib n.ota.calls) image (midiProcess lib n packets).1.ota
        (midiProcess lib n packets).2 := by
  intro hall
  have hcount : (List.replicate 220 (0 : UInt8)).length = 220 := List.length_replicate
  have hlen : (List.replicate 220 (0 : UInt8)).length < 2 ^ 32 := by omega
  have hdone := hall (flashLib 1024) (List.replicate 220 0) 224 freshNode (updatePackets 224 (List.replicate 220 0))
    (flashLib_documented 1024) (flashLib_writesAll 1024) (by omega) hlen (by decide) (by decide) (by decide)
    (by decide +kernel)
    (flashLib_accepts 1024 hlen) (updatePackets_snd 224 (List.replicate 220 0))
  have hreport : Out.host (.errorReport (errorReportMessage errorConfigInvalid [] 0)) ∈
      (midiProcess (flashLib 1024) freshNode (updatePackets 224 (List.replicate 220 0))).2 := by decide +kernel
  exact hdone.noError _ hreport

end Nowde
