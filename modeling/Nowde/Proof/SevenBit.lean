import Nowde.Spec.Sysex7

/-!
# What the 7-bit encoding reaches

The encoder's outputs are exactly the byte lists that are `Encoded`: free of status bytes, no group
of a lone MSB byte, no MSB bit for a byte that is not there. On those the decoder is inverse on
either side (`encode7bit_decode7bit`); from any other list what it gives encodes to something else.
-/

namespace Nowde

/-- A byte list as an encoder leaves it, in groups of an MSB byte and up to seven others. -/
structure Encoded (e : List UInt8) : Prop where
  low : ∀ b ∈ e, b < 0x80
  not_lone : e.length % 8 ≠ 1
  /-- A bit set in the MSB byte of group `g` is that of a byte in the group. -/
  in_group : ∀ g k, (byteAt e (8 * g)).toNat.testBit k = true → 8 * g + 1 + k < e.length

/-! ## One group -/

variable {m b : UInt8} {rest : List UInt8}

theorem testBit_seven_of_lt (h : b < 0x80) : b.toNat.testBit 7 = false := by
  have key : ∀ b : Fin 256, UInt8.ofNat b < 0x80 → (b : ℕ).testBit 7 = false := by decide +kernel
  exact key ⟨b.toNat, b.toNat_lt⟩ (by simpa using h)

/-- Setting the top bit or not, of a byte without one. -/
theorem restored_byte (h : b < 0x80) (c : Bool) :
    (if c = true then b ||| 0x80 else b).toNat.testBit 7 = c ∧
      (if c = true then b ||| 0x80 else b) &&& 0x7F = b := by
  have key : ∀ b : Fin 256, UInt8.ofNat b < 0x80 → ∀ c : Bool,
      (if c = true then UInt8.ofNat b ||| 0x80 else UInt8.ofNat b).toNat.testBit 7 = c ∧
        (if c = true then UInt8.ofNat b ||| 0x80 else UInt8.ofNat b) &&& 0x7F = UInt8.ofNat b := by
    decide +kernel
  have := key ⟨b.toNat, b.toNat_lt⟩ (by simpa using h) c
  simpa using this

theorem restoreMsbs_cons (m b : UInt8) (i : ℕ) (bs : List UInt8) (hi : i < 8) :
    restoreMsbs m i (b :: bs) =
      (if m.toNat.testBit i = true then b ||| 0x80 else b) :: restoreMsbs m (i + 1) bs := by
  simp only [restoreMsbs, and_one_shiftLeft_ne_zero m hi]

/-- The low parts of a restored chunk are the chunk. -/
theorem map_restoreMsbs (m : UInt8) {l : List UInt8} {i : ℕ} (h : i + l.length ≤ 8)
    (hlow : ∀ b ∈ l, b < 0x80) : (restoreMsbs m i l).map (· &&& 0x7F) = l := by
  induction l generalizing i with
  | nil => rfl
  | cons b bs ih =>
    obtain ⟨hb, hbs⟩ := List.forall_mem_cons.1 hlow
    simp only [List.length_cons] at h
    rw [restoreMsbs_cons m b i bs (by omega), List.map_cons, ih (by omega) hbs, (restored_byte hb _).2]

/-- The top bits of a restored chunk are those of its MSB byte. -/
theorem testBit_restoreMsbs (m : UInt8) {l : List UInt8} {i k : ℕ} (h : i + l.length ≤ 8)
    (hlow : ∀ b ∈ l, b < 0x80) (hk : k < l.length) :
    (byteAt (restoreMsbs m i l) k).toNat.testBit 7 = m.toNat.testBit (i + k) := by
  induction l generalizing i k with
  | nil => exact absurd hk (Nat.not_lt_zero k)
  | cons b bs ih =>
    obtain ⟨hb, hbs⟩ := List.forall_mem_cons.1 hlow
    simp only [List.length_cons] at h hk
    rw [restoreMsbs_cons m b i bs (by omega)]
    cases k with
    | zero =>
      rw [byteAt_cons_zero]
      exact (restored_byte hb _).1
    | succ k =>
      rw [byteAt_cons_succ, ih (by omega) hbs (by omega), show i + 1 + k = i + (k + 1) by omega]

/-- An MSB byte with no bit beyond its chunk is the one packed from the restored chunk. -/
theorem packMsbs_restoreMsbs {l : List UInt8} (h : l.length ≤ 7) (hlow : ∀ b ∈ l, b < 0x80)
    (hm : ∀ k, m.toNat.testBit k = true → k < l.length) : packMsbs 0 (restoreMsbs m 0 l) = m := by
  apply UInt8.toNat_inj.1
  apply Nat.eq_of_testBit_eq
  intro k
  rw [testBit_packMsbs _ 0 k (by simp; omega), Nat.sub_zero]
  by_cases hk : k < l.length
  · rw [testBit_restoreMsbs m (by omega) hlow hk]
    simp
  · have hout : byteAt (restoreMsbs m 0 l) k = 0 := by
      simp [byteAt, List.getElem?_eq_none (by simp; omega : (restoreMsbs m 0 l).length ≤ k)]
    have hbit : m.toNat.testBit k = false := by simpa using mt (hm k) hk
    rw [hout, hbit]
    simp

/-! ## Group by group -/

theorem byteAt_drop_seven (m : UInt8) (rest : List UInt8) (g : ℕ) :
    byteAt (rest.drop 7) (8 * g) = byteAt (m :: rest) (8 * (g + 1)) := by
  rw [show 8 * (g + 1) = 7 + 8 * g + 1 by omega, byteAt_cons_succ]
  simp [byteAt]

/-- What follows the first group. -/
theorem Encoded.drop (h : Encoded (m :: rest)) : Encoded (rest.drop 7) where
  low b hb := h.low b (List.mem_cons_of_mem m (List.mem_of_mem_drop hb))
  not_lone := by
    have := h.not_lone
    simp only [List.length_cons, List.length_drop] at this ⊢
    omega
  in_group g k hbit := by
    rw [byteAt_drop_seven m] at hbit
    have := h.in_group (g + 1) k hbit
    simp only [List.length_cons, List.length_drop] at this ⊢
    omega

/-- **Encoding what was decoded gives back an encoded list.** -/
theorem encode7bit_decode7bit {e : List UInt8} (h : Encoded e) : encode7bit (decode7bit e) = e := by
  induction hn : e.length using Nat.strongRecOn generalizing e with
  | ind n ih =>
    cases e with
    | nil => rfl
    | cons m rest =>
      simp only [List.length_cons] at hn
      have hlone := h.not_lone
      simp only [List.length_cons] at hlone
      have hlow : ∀ b ∈ rest.take 7, b < 0x80 :=
        fun b hb => h.low b (List.mem_cons_of_mem m (List.mem_of_mem_take hb))
      have hmsb : m.toNat.testBit 7 = false := testBit_seven_of_lt (h.low m List.mem_cons_self)
      have hbits : ∀ k, m.toNat.testBit k = true → k < (rest.take 7).length := by
        intro k hk
        have hin := h.in_group 0 k hk
        have h8 : k < 8 := by
          by_contra hge
          exact absurd (Nat.testBit_lt_two_pow (lt_of_lt_of_le m.toNat_lt
            (Nat.pow_le_pow_right (by omega) (by omega : 8 ≤ k)))) (by simp [hk])
        have h7 : k ≠ 7 := by
          rintro rfl
          simp [hk] at hmsb
        simp only [List.length_cons, List.length_take] at hin ⊢
        omega
      have hpack := packMsbs_restoreMsbs (by simp : (rest.take 7).length ≤ 7) hlow hbits
      have hmap := map_restoreMsbs m (by simp : 0 + (rest.take 7).length ≤ 8) hlow
      have hrec := ih _ (by simp; omega) h.drop rfl
      have hchunk : restoreMsbs m 0 (rest.take 7) ++ decode7bit (rest.drop 7) ≠ [] := by
        apply List.append_ne_nil_of_left_ne_nil
        apply List.ne_nil_of_length_pos
        simp
        omega
      rw [decode7bit_cons, encode7bit_of_ne_nil hchunk]
      -- a chunk shorter than seven is the last one, and nothing follows it
      by_cases hlong : 7 ≤ rest.length
      · have h7 : (restoreMsbs m 0 (rest.take 7)).length = 7 := by simp [hlong]
        rw [List.take_left' h7, List.drop_left' h7, hpack, hmap, hrec, List.cons_append,
          List.take_append_drop]
      · have h7 : (restoreMsbs m 0 (rest.take 7)).length ≤ 7 := by simp
        rw [List.drop_eq_nil_of_le (by omega : rest.length ≤ 7), decode7bit_nil, List.append_nil,
          List.take_of_length_le h7, List.drop_eq_nil_of_le h7, hpack, hmap, encode7bit_nil,
          List.append_nil, List.take_of_length_le (by omega)]

/-- What an encoder leaves is `Encoded`. -/
theorem encoded_encode7bit (x : List UInt8) : Encoded (encode7bit x) where
  low := encode7bit_lt x
  not_lone := by
    rw [length_encode7bit]
    omega
  in_group := by
    induction hn : x.length using Nat.strongRecOn generalizing x with
    | ind n ih =>
      intro g k hbit
      by_cases hx : x = []
      · subst hx
        simp [byteAt] at hbit
      · have hpos : 0 < x.length := List.length_pos_iff.2 hx
        have hlen := length_encode7bit x
        cases g with
        | zero =>
          rw [encode7bit_of_ne_nil hx, List.cons_append] at hbit
          have hbit' : (packMsbs 0 (x.take 7)).toNat.testBit k = true := hbit
          rw [testBit_packMsbs _ 0 k (by simp)] at hbit'
          have hk : k < (x.take 7).length := by
            by_contra hge
            simp [byteAt, List.getElem?_eq_none (by omega : (x.take 7).length ≤ k)] at hbit'
          simp only [List.length_take] at hk
          omega
        | succ g =>
          have hgroup : 7 < x.length := by
            by_contra hge
            have hlast : (encode7bit x).length ≤ 8 * (g + 1) := by omega
            simp [byteAt, List.getElem?_eq_none hlast] at hbit
          have h7 : ((x.take 7).map (· &&& 0x7F)).length = 7 := by simp; omega
          have hrest : (((x.take 7).map (· &&& 0x7F)) ++ encode7bit (x.drop 7)).drop 7 = encode7bit (x.drop 7) :=
            List.drop_left' h7
          rw [encode7bit_of_ne_nil hx, List.cons_append, ← byteAt_drop_seven, hrest] at hbit
          have hin := ih _ (by simp; omega) (x.drop 7) rfl g k hbit
          have hlen' := length_encode7bit (x.drop 7)
          simp only [List.length_drop] at hlen'
          omega

/-- **The encoders reach exactly the `Encoded` lists.** -/
theorem encoded_iff (e : List UInt8) : Encoded e ↔ ∃ x, encode7bit x = e := by
  refine ⟨fun h => ⟨decode7bit e, encode7bit_decode7bit h⟩, ?_⟩
  rintro ⟨x, rfl⟩
  exact encoded_encode7bit x

/-! ## Both languages -/

/-- **The firmware's and the host tool's encodings round-trip and agree**, on every list. -/
theorem sevenBit_roundTrip :
    (∀ x, encode7 x = encode7bit x ∧ (encode7bit x).length = x.length + (x.length + 6) / 7 ∧
      (∀ b ∈ encode7bit x, b < 0x80) ∧ decode7bit (encode7bit x) = x ∧ decode7 (encode7bit x) = x) ∧
    (∀ e, decode7 e = decode7bit e ∧ (decode7bit e).length = e.length - (e.length + 7) / 8) ∧
    ∀ e, (Encoded e ↔ ∃ x, encode7bit x = e) ∧
      (Encoded e ↔ encode7bit (decode7bit e) = e ∧ encode7 (decode7 e) = e) := by
  refine ⟨?_, ?_, ?_⟩
  · intro x
    exact ⟨encode7_eq x, length_encode7bit x, encode7bit_lt x, decode7bit_encode7bit x,
      decode7_encode7bit x⟩
  · intro e
    exact ⟨decode7_eq e, length_decode7bit e⟩
  · intro e
    rw [encode7_eq, decode7_eq, and_self]
    exact ⟨encoded_iff e, encode7bit_decode7bit, fun h => h ▸ encoded_encode7bit _⟩

end Nowde
