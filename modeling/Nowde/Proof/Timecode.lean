import Nowde.Spec.HostMidi

/-!
# Timecode

Both emitters show the host the timecode of the position they are given, as long as the position
times the frame rate fits into 32 bits:

* `timecode_iff`: both timecodes are exact exactly below 2^32 / 30 ms, some 39 hours.
-/

namespace Nowde

open Host (Timecode)

/-- A count of frames at 30 fps as a timecode, the hours modulo 24. -/
def mtc (totalFrames : ℕ) : Timecode where
  hr := totalFrames / 108000 % 24
  mn := totalFrames / 1800 % 60
  sec := totalFrames / 30 % 60
  fr := totalFrames % 30

/-- The frames of a position, at 30 fps. -/
def frameCount (positionMs : UInt32) : ℕ := positionMs.toNat * 30 / 1000

/-- **What the host is to see of a position**, whatever quarter-frames it saw before. -/
structure TimecodeExact (positionMs : UInt32) : Prop where
  quarterFrames : ∀ qf, Host.shown qf (usbMessages [] (timeCodePackets positionMs)) = [mtc (frameCount positionMs)]
  fullFrame : ∀ qf, Host.shown qf (usbMessages [] (fullFramePackets positionMs)) = [mtc (frameCount positionMs)]
  quarter_low : ∀ m ∈ usbMessages [] (timeCodePackets positionMs), ∀ b ∈ m.tail, b < 0x80
  full_low : ∀ m ∈ usbMessages [] (fullFramePackets positionMs), ∀ b ∈ m.tail.dropLast, b < 0x80

/-! ## Bits -/

/-- A quarter-frame's data byte has no top bit and carries piece and nibble. -/
theorem quarterFrame_byte {piece : UInt8} (hp : piece < 8) (nibble : UInt8) :
    (quarterFrame piece nibble).byte2 < 0x80 ∧ (quarterFrame piece nibble).byte2 >>> 4 = piece ∧
      (quarterFrame piece nibble).byte2 &&& 0x0F = nibble &&& 0x0F := by
  have key : ∀ (p : Fin 8) (n : Fin 256),
      (UInt8.ofNat p <<< 4) ||| (UInt8.ofNat n &&& 0x0F) < (0x80 : UInt8) ∧
        ((UInt8.ofNat p <<< 4) ||| (UInt8.ofNat n &&& 0x0F)) >>> 4 = UInt8.ofNat p ∧
        ((UInt8.ofNat p <<< 4) ||| (UInt8.ofNat n &&& 0x0F)) &&& 0x0F = UInt8.ofNat n &&& 0x0F := by
    decide +kernel
  have := key ⟨piece.toNat, UInt8.lt_iff_toNat_lt.1 hp⟩ ⟨nibble.toNat, nibble.toNat_lt⟩
  simpa [quarterFrame] using this

/-- A number below 32 from its two pieces. -/
theorem five_bits {x : UInt8} (h : x.toNat < 32) :
    (x &&& 0x0F &&& 0x0F : UInt8) ||| ((x >>> 4 &&& 0x01 &&& 0x0F : UInt8) <<< (4 : UInt8)) = x := by
  have key : ∀ x : Fin 32, (UInt8.ofNat x &&& 0x0F &&& 0x0F : UInt8) |||
      ((UInt8.ofNat x >>> 4 &&& 0x01 &&& 0x0F : UInt8) <<< (4 : UInt8)) = UInt8.ofNat x := by
    decide +kernel
  simpa using key ⟨x.toNat, h⟩

/-- A number below 64 from its two pieces. -/
theorem six_bits {x : UInt8} (h : x.toNat < 64) :
    (x &&& 0x0F &&& 0x0F : UInt8) ||| ((x >>> 4 &&& 0x03 &&& 0x0F : UInt8) <<< (4 : UInt8)) = x := by
  have key : ∀ x : Fin 64, (UInt8.ofNat x &&& 0x0F &&& 0x0F : UInt8) |||
      ((UInt8.ofNat x >>> 4 &&& 0x03 &&& 0x0F : UInt8) <<< (4 : UInt8)) = UInt8.ofNat x := by
    decide +kernel
  simpa using key ⟨x.toNat, h⟩

/-- Hours from their two pieces, the second one with the rate code. -/
theorem hour_bits {x : UInt8} (h : x.toNat < 32) :
    (x &&& 0x0F &&& 0x0F : UInt8) |||
      (((((x >>> 4 &&& 0x01 : UInt8) ||| ((3 : UInt8) <<< 1)) &&& 0x0F : UInt8) &&& 1) <<< (4 : UInt8)) = x := by
  have key : ∀ x : Fin 32, (UInt8.ofNat x &&& 0x0F &&& 0x0F : UInt8) |||
      (((((UInt8.ofNat x >>> 4 &&& 0x01 : UInt8) ||| ((3 : UInt8) <<< 1)) &&& 0x0F : UInt8) &&& 1) <<<
        (4 : UInt8)) = UInt8.ofNat x := by
    decide +kernel
  simpa using key ⟨x.toNat, h⟩

/-- The hour byte of a full frame, with the rate code. -/
theorem rate_bits {x : UInt8} (h : x.toNat < 32) :
    (((3 : UInt8) <<< 5) ||| (x &&& 0x1F)) &&& 0x1F = x ∧ ((3 : UInt8) <<< 5) ||| (x &&& 0x1F) < 0x80 := by
  have key : ∀ x : Fin 32, (((3 : UInt8) <<< 5) ||| (UInt8.ofNat x &&& 0x1F)) &&& 0x1F = UInt8.ofNat x ∧
      ((3 : UInt8) <<< 5) ||| (UInt8.ofNat x &&& 0x1F) < 0x80 := by
    decide +kernel
  simpa using key ⟨x.toNat, h⟩

/-! ## What the host shows -/

/-- The four numbers of a timecode, as the host shows them. -/
def Smpte.timecode (t : Smpte) : Timecode := ⟨t.hours.toNat, t.minutes.toNat, t.seconds.toNat, t.frames.toNat⟩

/-- The frames the firmware counts, in 32 bits. -/
def countedFrames (positionMs : UInt32) : ℕ := positionMs.toNat * 30 % 2 ^ 32 / 1000

theorem toNat_totalFrames (positionMs : UInt32) :
    (positionMs * mtcFramerate / 1000).toNat = countedFrames positionMs := by
  rw [UInt32.toNat_div, UInt32.toNat_mul]
  rfl

/-- **The firmware's timecode** is that of the frames it counts. -/
theorem timecode_toSmpte (positionMs : UInt32) :
    (toSmpte positionMs).timecode = mtc (countedFrames positionMs) := by
  have hn := toNat_totalFrames positionMs
  simp only [Smpte.timecode, toSmpte, mtc, Timecode.mk.injEq, UInt32.toNat_toUInt8, UInt32.toNat_mod,
    UInt32.toNat_div, hn]
  refine ⟨?_, ?_, ?_, ?_⟩
  · rw [show (mtcFramerate * 3600).toNat = 108000 from rfl, show (24 : UInt32).toNat = 24 from rfl]
    omega
  · rw [show (mtcFramerate * 60).toNat = 1800 from rfl, show (60 : UInt32).toNat = 60 from rfl]
    omega
  · rw [show mtcFramerate.toNat = 30 from rfl, show (60 : UInt32).toNat = 60 from rfl]
    omega
  · rw [show mtcFramerate.toNat = 30 from rfl]
    omega

/-- Each number of a timecode fits into the bits its pieces have. -/
theorem toSmpte_lt (positionMs : UInt32) :
    (toSmpte positionMs).hours.toNat < 24 ∧ (toSmpte positionMs).minutes.toNat < 60 ∧
      (toSmpte positionMs).seconds.toNat < 60 ∧ (toSmpte positionMs).frames.toNat < 30 := by
  have h := timecode_toSmpte positionMs
  simp only [Smpte.timecode, mtc, Timecode.mk.injEq] at h
  obtain ⟨hh, hm, hs, hf⟩ := h
  rw [hh, hm, hs, hf]
  omega

theorem usbMessages_quarterFrame (piece nibble : UInt8) (rest : List MidiEventPacket) :
    usbMessages [] (quarterFrame piece nibble :: rest) =
      [0xF1, (quarterFrame piece nibble).byte2] :: usbMessages [] rest :=
  usbMessages_common [] 0xF1 _ 0 rest

/-- One piece, into the tool's table. -/
theorem shown_quarterFrame {piece : UInt8} (hp : piece < 8) (nibble : UInt8) (qf : ℕ → UInt8)
    (rest : List (List UInt8)) :
    Host.shown qf ([0xF1, (quarterFrame piece nibble).byte2] :: rest) =
      (Host.onQuarterFrame qf piece (nibble &&& 0x0F)).2.toList ++
        Host.shown (Function.update qf piece.toNat (nibble &&& 0x0F)) rest := by
  obtain ⟨_, htype, hvalue⟩ := quarterFrame_byte hp nibble
  have hon : Host.on qf [0xF1, (quarterFrame piece nibble).byte2] =
      Host.onQuarterFrame qf piece (nibble &&& 0x0F) := by
    simp only [Host.on, byteAt_cons_zero, htype, hvalue, if_pos]
  rw [Host.shown, hon]
  rfl

/-- **The eight pieces show the firmware's timecode.** -/
theorem shown_timeCodePackets (positionMs : UInt32) (qf : ℕ → UInt8) :
    Host.shown qf (usbMessages [] (timeCodePackets positionMs)) = [(toSmpte positionMs).timecode] := by
  obtain ⟨hh, hm, hs, hf⟩ := toSmpte_lt positionMs
  unfold timeCodePackets
  simp only [usbMessages_quarterFrame]
  rw [shown_quarterFrame (by decide), shown_quarterFrame (by decide), shown_quarterFrame (by decide),
    shown_quarterFrame (by decide), shown_quarterFrame (by decide), shown_quarterFrame (by decide),
    shown_quarterFrame (by decide), shown_quarterFrame (by decide)]
  -- only the last piece shows anything, and by then the table holds all eight
  refine congrArg (fun t => [t]) (Timecode.ext ?_ ?_ ?_ ?_)
  · exact congrArg UInt8.toNat (hour_bits (by omega))
  · exact congrArg UInt8.toNat (six_bits (by omega))
  · exact congrArg UInt8.toNat (six_bits (by omega))
  · exact congrArg UInt8.toNat (five_bits (by omega))

/-- **A full frame shows the firmware's timecode.** -/
theorem shown_fullFramePackets (positionMs : UInt32) (qf : ℕ → UInt8) :
    Host.shown qf (usbMessages [] (fullFramePackets positionMs)) = [(toSmpte positionMs).timecode] := by
  obtain ⟨hh, _, _, _⟩ := toSmpte_lt positionMs
  have hhour := (rate_bits (by omega : (toSmpte positionMs).hours.toNat < 32)).1
  simp only [fullFramePackets, usbMessages_more, usbMessages_one, usbMessages_nil, List.nil_append, List.cons_append]
  refine congrArg (fun t => [t]) (Timecode.ext ?_ rfl rfl rfl)
  exact congrArg UInt8.toNat hhour

/-! ## The data bytes -/

theorem quarter_low (positionMs : UInt32) :
    ∀ m ∈ usbMessages [] (timeCodePackets positionMs), ∀ b ∈ m.tail, b < 0x80 := by
  have hpiece : ∀ (piece nibble : UInt8), piece < 8 →
      ∀ b ∈ [0xF1, (quarterFrame piece nibble).byte2].tail, b < 0x80 := by
    intro piece nibble hp b hb
    rw [List.tail_cons, List.mem_singleton] at hb
    rw [hb]
    exact (quarterFrame_byte hp nibble).1
  unfold timeCodePackets
  simp only [usbMessages_quarterFrame, usbMessages_nil, List.forall_mem_cons]
  exact ⟨hpiece 0 _ (by decide), hpiece 1 _ (by decide), hpiece 2 _ (by decide), hpiece 3 _ (by decide),
    hpiece 4 _ (by decide), hpiece 5 _ (by decide), hpiece 6 _ (by decide), hpiece 7 _ (by decide), by simp⟩

theorem full_low (positionMs : UInt32) :
    ∀ m ∈ usbMessages [] (fullFramePackets positionMs), ∀ b ∈ m.tail.dropLast, b < 0x80 := by
  obtain ⟨hh, hm, hs, hf⟩ := toSmpte_lt positionMs
  have hlow : ∀ b : UInt8, b.toNat < 60 → b < 0x80 := by
    intro b hb
    rw [UInt8.lt_iff_toNat_lt, show (0x80 : UInt8).toNat = 128 from rfl]
    omega
  simp only [fullFramePackets, usbMessages_more, usbMessages_one, usbMessages_nil, List.nil_append,
    List.cons_append, List.mem_singleton, forall_eq, List.tail_cons, List.dropLast_cons_cons, List.dropLast_singleton,
    List.forall_mem_cons]
  exact ⟨by decide, by decide, by decide, by decide, (rate_bits (by omega)).2, hlow _ hm, hlow _ hs,
    hlow _ (by omega)⟩

/-! ## Every position -/

/-- A day of frames is what a timecode tells apart. -/
theorem mtc_eq_iff {m n : ℕ} : mtc m = mtc n ↔ m % 2592000 = n % 2592000 := by
  simp only [mtc, Timecode.mk.injEq]
  refine ⟨?_, ?_⟩
  · rintro ⟨hh, hm, hs, hf⟩
    omega
  · intro h
    omega

/-- **The frames lost to 32 bits are never a whole number of days**, short of none. -/
theorem not_days_of_turns {turns lost : ℕ} (hlt : turns < 30) (hlo : turns * 2 ^ 32 < 1000 * lost + 1000)
    (hhi : 1000 * lost < turns * 2 ^ 32 + 1000) (hdays : lost % 2592000 = 0) : turns = 0 := by
  interval_cases turns <;> omega

theorem countedFrames_eq_iff (positionMs : UInt32) :
    mtc (countedFrames positionMs) = mtc (frameCount positionMs) ↔ positionMs.toNat * 30 < 2 ^ 32 := by
  have hp := positionMs.toNat_lt
  rw [mtc_eq_iff]
  unfold countedFrames frameCount
  refine ⟨?_, ?_⟩
  · intro h
    have hle : positionMs.toNat * 30 % 2 ^ 32 / 1000 ≤ positionMs.toNat * 30 / 1000 :=
      Nat.div_le_div_right (Nat.mod_le _ _)
    have hturns : positionMs.toNat * 30 / 2 ^ 32 = 0 :=
      @not_days_of_turns _ (positionMs.toNat * 30 / 1000 - positionMs.toNat * 30 % 2 ^ 32 / 1000)
        (by omega) (by omega) (by omega) (by omega)
    omega
  · intro h
    rw [Nat.mod_eq_of_lt h]

/-- **Timecode is exact exactly while 30 times the position fits into 32 bits.** -/
theorem timecode_iff (positionMs : UInt32) : TimecodeExact positionMs ↔ positionMs.toNat * 30 < 2 ^ 32 := by
  rw [← countedFrames_eq_iff, ← timecode_toSmpte]
  refine ⟨?_, ?_⟩
  · intro h
    have hshown := h.quarterFrames (fun _ => 0)
    rw [shown_timeCodePackets, List.singleton_inj] at hshown
    exact hshown
  · intro h
    exact { quarterFrames := fun qf => by rw [shown_timeCodePackets, h]
            fullFrame := fun qf => by rw [shown_fullFramePackets, h]
            quarter_low := quarter_low positionMs
            full_low := full_low positionMs }

/-- The first position beyond 32 bits shows zero. -/
theorem timecode_wraps : ¬TimecodeExact 143165577 := by
  intro h
  have hshown := h.fullFrame (fun _ => 0)
  rw [shown_fullFramePackets, timecode_toSmpte, List.singleton_inj] at hshown
  exact absurd hshown (by decide +kernel)

end Nowde
