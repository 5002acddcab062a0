import Nowde.Spec.Config

/-!
# The 7-bit encoding (`sysex.cpp`, `tools/nowde_sysex.py`)

Seven bytes become eight: their top bits packed into one byte, then the seven low parts. The
firmware loops over an index; the host tool slices the list. Both are here, with the facts
every frame builder and reader needs:

* `decode7bit_encode7bit`: decoding gives back what was encoded.
* `length_encode7bit`, `length_decode7bit`: the lengths depend on the input length only.
* `encode7bit_lt`: an encoding is free of status bytes.
* `encode7_eq`, `decode7_eq`: the host tool encodes and decodes as the firmware does.
-/

namespace Nowde

/-! ## The code -/

/-- `msbByte` of a chunk, from bit `i` up: bit `i + k` is set when byte `k` is `0x80` or more. -/
def packMsbs : ℕ → List UInt8 → UInt8
  | _, [] => 0
  | i, b :: bs => (if b &&& 0x80 ≠ 0 then 1 <<< UInt8.ofNat i else 0) ||| packMsbs (i + 1) bs

/-- One chunk of `decode7bit`, from bit `i` up. -/
def restoreMsbs (msbByte : UInt8) : ℕ → List UInt8 → List UInt8
  | _, [] => []
  | i, b :: bs =>
    (if msbByte &&& 1 <<< UInt8.ofNat i ≠ 0 then b ||| 0x80 else b) :: restoreMsbs msbByte (i + 1) bs

/-- The loop of `encode7bit`; every round takes at least one byte, so the length is fuel enough. -/
def encodeLoop : ℕ → List UInt8 → List UInt8
  | _, [] => []
  | 0, _ => []
  | fuel + 1, input =>
    packMsbs 0 (input.take 7) :: (input.take 7).map (· &&& 0x7F) ++ encodeLoop fuel (input.drop 7)

/-- `encode7bit(input, inputLen, output)`. -/
def encode7bit (input : List UInt8) : List UInt8 := encodeLoop input.length input

/-- The loop of `decode7bit`. -/
def decodeLoop : ℕ → List UInt8 → List UInt8
  | _, [] => []
  | 0, _ => []
  | fuel + 1, msbByte :: rest => restoreMsbs msbByte 0 (rest.take 7) ++ decodeLoop fuel (rest.drop 7)

/-- `decode7bit(input, inputLen, output)`. -/
def decode7bit (input : List UInt8) : List UInt8 := decodeLoop input.length input

/-- The host tool's `encode7(raw)`: one slice of seven for each `i` of `range(0, len(raw), 7)`. -/
def encode7 (raw : List UInt8) : List UInt8 :=
  (List.range ((raw.length + 6) / 7)).flatMap fun k =>
    let chunk := slice raw (7 * k) 7
    packMsbs 0 chunk :: chunk.map (· &&& 0x7F)

/-- The loop of the host tool's `decode7`, from `i` on. -/
def decode7Loop (enc : List UInt8) : ℕ → ℕ → List UInt8
  | 0, _ => []
  | fuel + 1, i =>
    if i < enc.length then restoreMsbs (byteAt enc i) 0 (slice enc (i + 1) 7) ++ decode7Loop enc fuel (i + 8)
    else []

/-- The host tool's `decode7(enc)`. -/
def decode7 (enc : List UInt8) : List UInt8 := decode7Loop enc enc.length 0

/-- `u32be(n)` of a 32-bit value, and the firmware's big-endian fields. -/
def u32be (n : UInt32) : List UInt8 :=
  [UInt8.ofNat (n.toNat / 16777216), UInt8.ofNat (n.toNat / 65536), UInt8.ofNat (n.toNat / 256),
    UInt8.ofNat n.toNat]

/-- A big-endian 32-bit field read back. -/
def be32 (b : List UInt8) : UInt32 :=
  UInt32.ofNat (16777216 * (byteAt b 0).toNat + 65536 * (byteAt b 1).toNat +
    256 * (byteAt b 2).toNat + (byteAt b 3).toNat)

/-! ## One round of each loop -/

theorem encodeLoop_fuel (fuel : ℕ) {x : List UInt8} (h : x.length ≤ fuel) :
    encodeLoop fuel x = encode7bit x := by
  unfold encode7bit
  induction hn : x.length using Nat.strongRecOn generalizing x fuel with
  | ind n ih =>
    cases x with
    | nil => cases fuel <;> cases n <;> rfl
    | cons b bs =>
      simp only [List.length_cons] at h hn
      obtain ⟨f, rfl⟩ : ∃ f, fuel = f + 1 := ⟨fuel - 1, by omega⟩
      obtain ⟨m, rfl⟩ : ∃ m, n = m + 1 := ⟨n - 1, by omega⟩
      have hd : ((b :: bs).drop 7).length ≤ bs.length := by simp
      simp only [encodeLoop]
      rw [ih ((b :: bs).drop 7).length (by omega) f (by omega) rfl,
        ih ((b :: bs).drop 7).length (by omega) m (by omega) rfl]

@[simp] theorem encode7bit_nil : encode7bit [] = [] := rfl

theorem encode7bit_of_ne_nil {x : List UInt8} (h : x ≠ []) :
    encode7bit x =
      packMsbs 0 (x.take 7) :: (x.take 7).map (· &&& 0x7F) ++ encode7bit (x.drop 7) := by
  cases x with
  | nil => exact absurd rfl h
  | cons b bs =>
    rw [← encodeLoop_fuel bs.length (by simp : ((b :: bs).drop 7).length ≤ bs.length)]
    rfl

theorem decodeLoop_fuel (fuel : ℕ) {e : List UInt8} (h : e.length ≤ fuel) :
    decodeLoop fuel e = decode7bit e := by
  unfold decode7bit
  induction hn : e.length using Nat.strongRecOn generalizing e fuel with
  | ind n ih =>
    cases e with
    | nil => cases fuel <;> cases n <;> rfl
    | cons b bs =>
      simp only [List.length_cons] at h hn
      obtain ⟨f, rfl⟩ : ∃ f, fuel = f + 1 := ⟨fuel - 1, by omega⟩
      obtain ⟨m, rfl⟩ : ∃ m, n = m + 1 := ⟨n - 1, by omega⟩
      have hd : (bs.drop 7).length ≤ bs.length := by simp
      simp only [decodeLoop]
      rw [ih (bs.drop 7).length (by omega) f (by omega) rfl,
        ih (bs.drop 7).length (by omega) m (by omega) rfl]

@[simp] theorem decode7bit_nil : decode7bit [] = [] := rfl

theorem decode7bit_cons (msb : UInt8) (rest : List UInt8) :
    decode7bit (msb :: rest) = restoreMsbs msb 0 (rest.take 7) ++ decode7bit (rest.drop 7) := by
  rw [← decodeLoop_fuel rest.length (by simp : (rest.drop 7).length ≤ rest.length)]
  rfl

/-! ## Lengths -/

@[simp] theorem length_restoreMsbs (m : UInt8) (i : ℕ) (l : List UInt8) :
    (restoreMsbs m i l).length = l.length := by
  induction l generalizing i with
  | nil => rfl
  | cons b bs ih => simp [restoreMsbs, ih]

theorem length_encode7bit (x : List UInt8) : (encode7bit x).length = x.length + (x.length + 6) / 7 := by
  induction hn : x.length using Nat.strongRecOn generalizing x with
  | ind n ih =>
    by_cases hx : x = []
    · subst hx; subst hn; rfl
    · have hpos : 0 < x.length := List.length_pos_iff.2 hx
      have hd : (x.drop 7).length = x.length - 7 := List.length_drop
      rw [encode7bit_of_ne_nil hx]
      simp only [List.cons_append, List.length_cons, List.length_append, List.length_map,
        List.length_take]
      rw [ih _ (by omega) (x.drop 7) rfl, hd]
      omega

theorem length_decode7bit (e : List UInt8) : (decode7bit e).length = e.length - (e.length + 7) / 8 := by
  induction hn : e.length using Nat.strongRecOn generalizing e with
  | ind n ih =>
    cases e with
    | nil => subst hn; rfl
    | cons m rest =>
      simp only [List.length_cons] at hn
      have hd : (rest.drop 7).length = rest.length - 7 := List.length_drop
      rw [decode7bit_cons, List.length_append, length_restoreMsbs, List.length_take,
        ih _ (by omega) (rest.drop 7) rfl, hd]
      omega

/-! ## Bits -/

theorem and_one_shiftLeft_ne_zero (m : UInt8) {i : ℕ} (hi : i < 8) :
    (m &&& 1 <<< UInt8.ofNat i ≠ 0) ↔ m.toNat.testBit i = true := by
  have key : ∀ (m : Fin 256) (i : Fin 8),
      (UInt8.ofNat m &&& 1 <<< UInt8.ofNat i ≠ 0) ↔ (m : ℕ).testBit i = true := by
    decide +kernel
  have := key ⟨m.toNat, m.toNat_lt⟩ ⟨i, hi⟩
  simpa using this

theorem and_0x80_ne_zero (b : UInt8) : (b &&& 0x80 ≠ 0) ↔ b.toNat.testBit 7 = true :=
  and_one_shiftLeft_ne_zero b (by omega : 7 < 8)

/-- Clearing the top bit and putting it back. -/
theorem restore_topBit (b : UInt8) :
    (if b.toNat.testBit 7 = true then (b &&& 0x7F) ||| 0x80 else b &&& 0x7F) = b := by
  have key : ∀ b : Fin 256, (if (b : ℕ).testBit 7 = true then
      (UInt8.ofNat b &&& 0x7F) ||| 0x80 else UInt8.ofNat b &&& 0x7F) = UInt8.ofNat b := by
    decide +kernel
  have := key ⟨b.toNat, b.toNat_lt⟩
  simpa using this

theorem and_0x7F_lt (b : UInt8) : b &&& 0x7F < 0x80 := by
  have key : ∀ b : Fin 256, UInt8.ofNat b &&& 0x7F < 0x80 := by decide +kernel
  have := key ⟨b.toNat, b.toNat_lt⟩
  simpa using this

theorem testBit_one_shiftLeft {i : ℕ} (hi : i < 8) (j : ℕ) :
    (1 <<< UInt8.ofNat i : UInt8).toNat.testBit j = decide (i = j) := by
  have key : ∀ i : Fin 8, (1 <<< UInt8.ofNat i : UInt8).toNat = 2 ^ (i : ℕ) := by decide +kernel
  rw [key ⟨i, hi⟩]
  exact Nat.testBit_two_pow

/-- Bit `j` of a packed byte is the top bit of the byte it stands for. -/
theorem testBit_packMsbs (l : List UInt8) (i j : ℕ) (h : i + l.length ≤ 8) :
    (packMsbs i l).toNat.testBit j = (decide (i ≤ j) && (byteAt l (j - i)).toNat.testBit 7) := by
  induction l generalizing i with
  | nil => simp [packMsbs, byteAt]
  | cons b bs ih =>
    simp only [List.length_cons] at h
    rw [packMsbs, UInt8.toNat_or, Nat.testBit_or, ih (i + 1) (by omega)]
    have hbit : (if b &&& 0x80 ≠ 0 then (1 : UInt8) <<< UInt8.ofNat i else 0).toNat.testBit j =
        (b.toNat.testBit 7 && decide (i = j)) := by
      by_cases hb : b &&& 0x80 ≠ 0
      · rw [if_pos hb, testBit_one_shiftLeft (by omega), (and_0x80_ne_zero b).1 hb, Bool.true_and]
      · have : b.toNat.testBit 7 = false := by simpa using mt (and_0x80_ne_zero b).2 hb
        rw [if_neg hb, this]; simp
    rw [hbit]
    -- bit `i` is this byte's, the bits above belong to the bytes behind it
    rcases Nat.lt_trichotomy i j with hlt | rfl | hgt
    · have hsub : j - i = (j - (i + 1)) + 1 := by omega
      rw [hsub, byteAt_cons_succ]
      simp [hlt.ne, hlt.le, Nat.succ_le_of_lt hlt]
    · simp
    · simp [hgt.ne', Nat.not_le.2 hgt, Nat.not_le.2 (Nat.lt_succ_of_lt hgt)]

/-- What a packed byte carries is enough to restore its chunk. -/
theorem restoreMsbs_map (m : UInt8) (l : List UInt8) (i : ℕ) (h : i + l.length ≤ 8)
    (hm : ∀ k, k < l.length → m.toNat.testBit (i + k) = (byteAt l k).toNat.testBit 7) :
    restoreMsbs m i (l.map (· &&& 0x7F)) = l := by
  induction l generalizing i with
  | nil => rfl
  | cons b bs ih =>
    simp only [List.length_cons] at h hm
    have hrest : restoreMsbs m (i + 1) (bs.map (· &&& 0x7F)) = bs := by
      apply ih (i + 1) (by omega)
      intro k hk
      have := hm (k + 1) (by omega)
      rwa [show i + (k + 1) = i + 1 + k by omega, byteAt_cons_succ] at this
    have hb : m.toNat.testBit i = b.toNat.testBit 7 := hm 0 (by omega)
    have hhead := restore_topBit b
    rw [← hb] at hhead
    simp only [List.map_cons, restoreMsbs, hrest, and_one_shiftLeft_ne_zero m (by omega : i < 8)]
    rw [hhead]

/-! ## Round trip -/

/-- **Decoding an encoding gives back the bytes**, for every byte list. -/
theorem decode7bit_encode7bit (x : List UInt8) : decode7bit (encode7bit x) = x := by
  induction hn : x.length using Nat.strongRecOn generalizing x with
  | ind n ih =>
    by_cases hx : x = []
    · subst hx; rfl
    · have hpos : 0 < x.length := List.length_pos_iff.2 hx
      have hlen : (x.take 7).length ≤ 7 := by simp
      have hchunk : restoreMsbs (packMsbs 0 (x.take 7)) 0 ((x.take 7).map (· &&& 0x7F)) = x.take 7 := by
        apply restoreMsbs_map _ _ _ (by omega)
        intro k _
        rw [testBit_packMsbs _ 0 (0 + k) (by omega)]
        simp
      rw [encode7bit_of_ne_nil hx, List.cons_append, decode7bit_cons]
      -- a chunk shorter than seven is the last one, and nothing follows it
      by_cases hlong : 7 ≤ x.length
      · have h7 : ((x.take 7).map (· &&& 0x7F)).length = 7 := by simp [hlong]
        rw [List.take_left' h7, List.drop_left' h7, hchunk,
          ih _ (by simp; omega) (x.drop 7) rfl, List.take_append_drop]
      · have hnil : x.drop 7 = [] := List.drop_eq_nil_of_le (by omega)
        have hmap : ((x.take 7).map (· &&& 0x7F)).length ≤ 7 := by simp
        rw [hnil, encode7bit_nil, List.append_nil, List.take_of_length_le hmap, hchunk,
          List.drop_eq_nil_of_le hmap, decode7bit_nil, List.append_nil,
          List.take_of_length_le (by omega)]

theorem packMsbs_lt {l : List UInt8} (h : l.length ≤ 7) : packMsbs 0 l < 0x80 := by
  have h7 : (packMsbs 0 l).toNat.testBit 7 = false := by
    rw [testBit_packMsbs l 0 7 (by omega)]
    simp [byteAt, List.getElem?_eq_none h]
  have key : ∀ b : Fin 256, (b : ℕ).testBit 7 = false → UInt8.ofNat b < 0x80 := by decide +kernel
  have := key ⟨(packMsbs 0 l).toNat, (packMsbs 0 l).toNat_lt⟩ h7
  simpa using this

/-- An encoding has no byte with the top bit set. -/
theorem encode7bit_lt (x : List UInt8) : ∀ b ∈ encode7bit x, b < 0x80 := by
  induction hn : x.length using Nat.strongRecOn generalizing x with
  | ind n ih =>
    by_cases hx : x = []
    · subst hx; simp
    · have hpos : 0 < x.length := List.length_pos_iff.2 hx
      rw [encode7bit_of_ne_nil hx]
      intro b hb
      simp only [List.cons_append, List.mem_cons, List.mem_append, List.mem_map] at hb
      rcases hb with rfl | ⟨a, _, rfl⟩ | hb
      · exact packMsbs_lt (by simp)
      · exact and_0x7F_lt a
      · exact ih _ (by simp; omega) (x.drop 7) rfl b hb

/-- The host tool's slices are the firmware's chunks. -/
theorem encode7_eq (x : List UInt8) : encode7 x = encode7bit x := by
  induction hn : x.length using Nat.strongRecOn generalizing x with
  | ind n ih =>
    by_cases hx : x = []
    · subst hx; rfl
    · have hpos : 0 < x.length := List.length_pos_iff.2 hx
      have hrec := ih _ (by simp; omega : (x.drop 7).length < n) (x.drop 7) rfl
      have hcount : (x.length + 6) / 7 = ((x.drop 7).length + 6) / 7 + 1 := by simp; omega
      rw [encode7bit_of_ne_nil hx, ← hrec]
      unfold encode7
      rw [hcount, List.range_succ_eq_map, List.flatMap_cons, List.flatMap_map]
      have hslice : ∀ k, slice x (7 * (k + 1)) 7 = slice (x.drop 7) (7 * k) 7 := by
        intro k
        unfold slice
        rw [List.drop_drop, show 7 + 7 * k = 7 * (k + 1) by omega]
      have hzero : slice x (7 * 0) 7 = x.take 7 := rfl
      simp only [Nat.succ_eq_add_one, hslice, hzero]

theorem decode7Loop_eq (enc : List UInt8) {fuel i : ℕ} (h : enc.length ≤ fuel + i) :
    decode7Loop enc fuel i = decode7bit (enc.drop i) := by
  induction fuel generalizing i with
  | zero =>
    rw [List.drop_eq_nil_of_le (by omega)]
    rfl
  | succ fuel ih =>
    unfold decode7Loop
    by_cases hi : i < enc.length
    · have hhead : byteAt enc i = enc[i] := by simp [byteAt, hi]
      rw [if_pos hi, ih (by omega), List.drop_eq_getElem_cons hi, decode7bit_cons, hhead, List.drop_drop]
      rfl
    · rw [if_neg hi, List.drop_eq_nil_of_le (by omega)]
      rfl

/-- The host tool's slices are the firmware's rounds here too. -/
theorem decode7_eq (enc : List UInt8) : decode7 enc = decode7bit enc := by
  unfold decode7
  rw [decode7Loop_eq enc (by omega), List.drop_zero]

@[simp] theorem decode7_encode7bit (x : List UInt8) : decode7 (encode7bit x) = x := by
  rw [decode7_eq, decode7bit_encode7bit]

@[simp] theorem be32_u32be (n : UInt32) : be32 (u32be n) = n := by
  have hn := n.toNat_lt
  apply UInt32.toNat_inj.1
  simp only [be32, u32be, byteAt_cons_zero, byteAt_cons_succ, UInt8.toNat_ofNat', UInt32.toNat_ofNat']
  omega

@[simp] theorem length_u32be (n : UInt32) : (u32be n).length = 4 := rfl

end Nowde
