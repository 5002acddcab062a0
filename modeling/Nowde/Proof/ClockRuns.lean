import Nowde.Lib.Run
import Nowde.Proof.MeshClock

/-!
# The runs of one mesh clock

Whatever a node hears and however often it goes round its loop:

* `meshMicros_run`: until a reset the clock never runs back, and gets no further ahead of its timer than
  it was or a packet was on arrival.
* `getSyncState_run`: the sync state is that of the last clock packet since the last reset.
* `broadcast_untorn_iff`: a beacon carries no torn read, unless three of the five reads are torn.
-/

namespace Nowde

open WrapClock

/-- What is called on a mesh clock, and what each call reads. -/
inductive ClockCall
  | loop (now : UInt32) (entropy : ℕ) (read : ℕ → UInt64)
  | receive (micros : UInt64) (now : UInt32) (data : List UInt8)
  | reset

namespace MeshClock

/-- One call, and the frame it sends. -/
def call (c : MeshClock) : ClockCall → MeshClock × List (List UInt8)
  | .loop now entropy read => ((c.loop now entropy read).1, (c.loop now entropy read).2.toList)
  | .receive micros now data => ((c.handleReceive micros now data).1, [])
  | .reset => (c.reset, [])

variable {c : MeshClock}

/-! ## Forward only -/

/-- How far ahead of the timer a clock packet is on arrival. -/
def packetLead : ClockCall → ℕ
  | .receive micros _ data => if isMeshClockPacket data then (le56 data 3).toNat - micros.toNat else 0
  | .loop .. | .reset => 0

/-- The furthest that a packet is ahead of the timer. -/
def packetsLead (calls : List ClockCall) : ℕ := (calls.map packetLead).foldr max 0

/-- The timer has not come round, and nothing resets the clock. -/
def RunsOn : ClockCall → Prop
  | .receive micros _ _ => micros.toNat < 2 ^ 61
  | .loop .. => True
  | .reset => False

/-- One call moves the offset forward, and no further than its packet is ahead. -/
theorem call_offset (hoffset : c.offset.toNat < 2 ^ 56) {k : ClockCall} (hk : RunsOn k) :
    c.offset.toNat ≤ (c.call k).1.offset.toNat ∧ (c.call k).1.offset.toNat < 2 ^ 56 ∧
      (c.call k).1.offset.toNat ≤ max c.offset.toNat (packetLead k) := by
  cases k with
  | loop now entropy read =>
    have hspec : (c.call (.loop now entropy read)).1.offset = c.offset := (loop_spec c now entropy read).1
    rw [hspec]
    exact ⟨le_rfl, hoffset, le_max_left _ _⟩
  | receive micros now data =>
    unfold call packetLead handleReceive
    dsimp only
    split_ifs with hpacket
    · have hmicros : micros.toNat < 2 ^ 61 := hk
      have hremote := le56_toNat_lt data 3
      have hlt : (c.adjust micros now (le56 data 3)).offset.toNat < 2 ^ 56 :=
        adjust_offset_lt hmicros hoffset hremote
      have hreading : (c.adjust micros now (le56 data 3)).reading micros.toNat = _ :=
        adjust_reading (by omega) (by omega)
      have hle := le_follow c.synced (c.reading micros.toNat) (le56 data 3).toNat
      have hmax := follow_le_max c.synced (c.reading micros.toNat) (le56 data 3).toNat
      rw [← hreading] at hle hmax
      unfold reading at hle hmax
      dsimp only
      omega
    · exact ⟨le_rfl, hoffset, le_max_left _ _⟩
  | reset => exact hk.elim

theorem run_offset (hoffset : c.offset.toNat < 2 ^ 56) {calls : List ClockCall} (hcalls : ∀ k ∈ calls, RunsOn k) :
    c.offset.toNat ≤ (Mealy.run call c calls).1.offset.toNat ∧
      (Mealy.run call c calls).1.offset.toNat < 2 ^ 56 ∧
      (Mealy.run call c calls).1.offset.toNat ≤ max c.offset.toNat (packetsLead calls) := by
  induction calls generalizing c with
  | nil => exact ⟨le_rfl, hoffset, le_max_left _ _⟩
  | cons k calls ih =>
    obtain ⟨hle, hlt, hmax⟩ := call_offset hoffset (hcalls k List.mem_cons_self)
    obtain ⟨hle', hlt', hmax'⟩ := ih hlt fun l hl => hcalls l (List.mem_cons_of_mem _ hl)
    rw [Mealy.run_cons]
    refine ⟨hle.trans hle', hlt', hmax'.trans ?_⟩
    unfold packetsLead
    rw [List.map_cons, List.foldr_cons]
    omega

/-- **The clock never runs back**: until a reset, the time that `meshMicros()` returns moves on by what the
timer counts at least. What it gains on the timer, some packet was ahead of it on arrival. -/
theorem meshMicros_run (hoffset : c.offset.toNat < 2 ^ 56) {calls : List ClockCall}
    (hcalls : ∀ k ∈ calls, RunsOn k) {micros micros' : UInt64} (hle : micros ≤ micros')
    (hmicros : micros'.toNat < 2 ^ 61) :
    let c' := (Mealy.run call c calls).1
    (c.meshMicros micros).toNat + (micros'.toNat - micros.toNat) ≤ (c'.meshMicros micros').toNat ∧
      (c'.meshMicros micros').toNat ≤ micros'.toNat + max c.offset.toNat (packetsLead calls) := by
  obtain ⟨hgrow, hlt, hmax⟩ := run_offset hoffset hcalls
  have hnat : micros.toNat ≤ micros'.toNat := UInt64.le_iff_toNat_le.1 hle
  dsimp only
  generalize (Mealy.run call c calls).1 = c' at *
  unfold meshMicros
  rw [UInt64.toNat_add, UInt64.toNat_add]
  omega

/-- A beacon of a clock that shows half a second, heard by one that has counted a millisecond. -/
def oneBeacon : List ClockCall := [.receive 1000 5 (meshClockPacket 500000)]

theorem meshMicros_run_oneBeacon :
    let c' := (Mealy.run call {} oneBeacon).1
    (meshMicros {} 1000).toNat + ((3000 : UInt64).toNat - (1000 : UInt64).toNat) ≤ (c'.meshMicros 3000).toNat ∧
      (c'.meshMicros 3000).toNat ≤ (3000 : UInt64).toNat + max (0 : UInt64).toNat (packetsLead oneBeacon) :=
  meshMicros_run (by decide) (by simp [oneBeacon, RunsOn]) (by decide) (by decide)

/-! ## The sync state -/

/-- A call that leaves the sync state alone. -/
def Quiet : ClockCall → Prop
  | .receive _ _ data => isMeshClockPacket data = false
  | .loop .. => True
  | .reset => False

/-- The last clock packet since the last reset was heard at `heard`. -/
def LastHeard (calls : List ClockCall) (heard : UInt32) : Prop :=
  ∃ pre micros data post, calls = pre ++ .receive micros heard data :: post ∧ isMeshClockPacket data = true ∧
    ∀ k ∈ post, Quiet k

theorem lastHeard_concat_of_quiet {calls : List ClockCall} {k : ClockCall} (hk : Quiet k) {heard : UInt32} :
    LastHeard (calls ++ [k]) heard ↔ LastHeard calls heard := by
  constructor
  · rintro ⟨pre, micros, data, post, heq, hpacket, hpost⟩
    rcases List.eq_nil_or_concat' post with rfl | ⟨post, l, rfl⟩
    · -- the packet itself is not quiet
      obtain ⟨-, hlast⟩ := List.append_inj' heq rfl
      rw [List.singleton_inj.1 hlast] at hk
      exact absurd hpacket (by rw [show isMeshClockPacket data = false from hk]; exact Bool.false_ne_true)
    · rw [← List.cons_append, ← List.append_assoc] at heq
      obtain ⟨rfl, -⟩ := List.append_inj' heq rfl
      exact ⟨pre, micros, data, post, rfl, hpacket, fun l hl => hpost l (List.mem_append_left _ hl)⟩
  · rintro ⟨pre, micros, data, post, rfl, hpacket, hpost⟩
    refine ⟨pre, micros, data, post ++ [k], by simp, hpacket, fun l hl => ?_⟩
    rcases List.mem_append.1 hl with hold | hnew
    · exact hpost l hold
    · rw [List.mem_singleton.1 hnew]
      exact hk

/-- A call that is not quiet starts the record over. -/
theorem lastHeard_concat_of_not_quiet {calls : List ClockCall} {k : ClockCall} (hk : ¬Quiet k) {heard : UInt32} :
    LastHeard (calls ++ [k]) heard ↔
      ∃ micros data, k = .receive micros heard data ∧ isMeshClockPacket data = true := by
  constructor
  · rintro ⟨pre, micros, data, post, heq, hpacket, hpost⟩
    rcases List.eq_nil_or_concat' post with rfl | ⟨post, l, rfl⟩
    · obtain ⟨-, hlast⟩ := List.append_inj' heq rfl
      exact ⟨micros, data, List.singleton_inj.1 hlast, hpacket⟩
    · rw [← List.cons_append, ← List.append_assoc] at heq
      obtain ⟨-, hlast⟩ := List.append_inj' heq rfl
      rw [List.singleton_inj.1 hlast] at hk
      exact absurd (hpost l (by simp)) hk
  · rintro ⟨micros, data, rfl, hpacket⟩
    exact ⟨calls, micros, data, [], rfl, hpacket, fun _ hl => by cases hl⟩

/-- What the clock notes is the last packet. -/
theorem run_lastHeard (hc : c.synced = false) (calls : List ClockCall) (heard : UInt32) :
    LastHeard calls heard ↔
      (Mealy.run call c calls).1.synced = true ∧ (Mealy.run call c calls).1.lastSync = heard := by
  induction calls using List.reverseRecOn with
  | nil =>
    rw [Mealy.run_nil, hc]
    refine ⟨?_, fun h => absurd h.1 Bool.false_ne_true⟩
    rintro ⟨pre, micros, data, post, heq, -⟩
    exact absurd heq.symm (by simp)
  | append_singleton calls k ih =>
    rw [Mealy.run_append, Mealy.run_cons, Mealy.run_nil]
    dsimp only
    generalize (Mealy.run call c calls).1 = c' at *
    cases k with
    | loop now entropy read =>
      have hspec := loop_spec c' now entropy read
      rw [lastHeard_concat_of_quiet (show Quiet (.loop now entropy read) from trivial), ih]
      unfold call
      rw [hspec.2.1, hspec.2.2.1]
    | receive micros now data =>
      unfold call handleReceive
      dsimp only
      split_ifs with hpacket
      · have hloud : ¬Quiet (.receive micros now data) := fun hq => by
          rw [show isMeshClockPacket data = false from hq] at hpacket
          exact Bool.false_ne_true hpacket
        rw [lastHeard_concat_of_not_quiet hloud]
        simp only [ClockCall.receive.injEq, adjust_synced, adjust_lastSync, true_and]
        exact ⟨fun ⟨_, _, ⟨_, hnow, _⟩, _⟩ => hnow, fun hnow => ⟨_, _, ⟨rfl, hnow, rfl⟩, hpacket⟩⟩
      · have hquiet : Quiet (.receive micros now data) := Bool.eq_false_of_not_eq_true hpacket
        rw [lastHeard_concat_of_quiet hquiet, ih]
    | reset =>
      rw [lastHeard_concat_of_not_quiet id]
      unfold call reset
      simp

/-- **The sync state** is that of the last clock packet since the last reset: none makes the node `ALONE`, one
that is at most five seconds old `SYNCED`, an older one `LOST`, ages modulo `2 ^ 32`. -/
theorem getSyncState_run (hc : c.synced = false) (calls : List ClockCall) (now : UInt32) :
    let c' := (Mealy.run call c calls).1
    (c'.getSyncState now = .alone ↔ ∀ heard, ¬LastHeard calls heard) ∧
      (c'.getSyncState now = .synced ↔ ∃ heard, LastHeard calls heard ∧ now - heard ≤ meshClockSyncTimeoutMs) ∧
      (c'.getSyncState now = .lost ↔ ∃ heard, LastHeard calls heard ∧ now - heard > meshClockSyncTimeoutMs) := by
  have hlast := run_lastHeard hc calls
  dsimp only
  generalize (Mealy.run call c calls).1 = c' at *
  simp only [hlast]
  unfold getSyncState
  cases hsynced : c'.synced with
  | false => simp
  | true =>
    by_cases hold : now - c'.lastSync > meshClockSyncTimeoutMs
    · simp [hold, UInt32.not_le.2 hold]
    · simp [hold, UInt32.not_lt.1 hold]

theorem getSyncState_run_oneBeacon :
    let c' := (Mealy.run call {} oneBeacon).1
    (c'.getSyncState 6000 = .alone ↔ ∀ heard, ¬LastHeard oneBeacon heard) ∧
      (c'.getSyncState 6000 = .synced ↔
        ∃ heard, LastHeard oneBeacon heard ∧ (6000 : UInt32) - heard ≤ meshClockSyncTimeoutMs) ∧
      (c'.getSyncState 6000 = .lost ↔
        ∃ heard, LastHeard oneBeacon heard ∧ (6000 : UInt32) - heard > meshClockSyncTimeoutMs) :=
  getSyncState_run rfl oneBeacon 6000

/-! ## Torn reads -/

/-- **The reads of one beacon**: each shows a mesh time, or one that is off in its high word because the offset
was being written, and no two in a row are off. -/
structure StampReads (time tear : ℕ → ℤ) (read : ℕ → UInt64) : Prop where
  reading : ∀ i < 5, ((read i).toNat : ℤ) = (time i + tear i) % 2 ^ 64
  range : 0 ≤ time 0 ∧ time 0 < 2 ^ 62
  close : ∀ i < 4, time i ≤ time (i + 1) ∧ time (i + 1) < time i + 1000000
  torn : ∀ i < 5, tear i = 0 ∨ 2 ^ 32 ≤ |tear i| ∧ |tear i| ≤ 2 ^ 56 - 2 ^ 32
  apart : ∀ i < 4, tear i = 0 ∨ tear (i + 1) = 0

/-- The frame carries the time of an untorn read, and the way it goes. -/
def Stamped (time tear : ℕ → ℤ) (frame : List UInt8) : Prop :=
  ∃ i < 5, tear i = 0 ∧ ((le56 frame 3).toNat : ℤ) = (time i + transmissionDelayUs.toNat) % 2 ^ 56

/-- `diff < 1000000`, of read `i` and the next. -/
def Agree (read : ℕ → UInt64) (i : ℕ) : Prop :=
  (if read (i + 1) > read i then read (i + 1) - read i else read i - read (i + 1)) < 1000000

instance (read : ℕ → UInt64) (i : ℕ) : Decidable (Agree read i) := inferInstanceAs (Decidable (_ < _))

theorem meshMicrosStable_eq (read : ℕ → UInt64) :
    meshMicrosStable read =
      if Agree read 0 then read 1 else if Agree read 1 then read 2
      else if Agree read 2 then read 3 else read 4 := by
  simp only [meshMicrosStable, meshMicrosStable.go, ite_self, Nat.reduceAdd]
  rfl

section Torn

variable {time tear : ℕ → ℤ} {read : ℕ → UInt64} (h : StampReads time tear read)

include h

theorem StampReads.time_le {i : ℕ} (hi : i < 5) : time 0 ≤ time i ∧ time i < time 0 + 5000000 := by
  suffices time 0 ≤ time i ∧ time i ≤ time 0 + 1000000 * i by omega
  induction i with
  | zero => simp
  | succ i ih =>
    have hclose := h.close i (by omega)
    have := ih (by omega)
    push_cast
    omega

/-- The tear of a read, with its sign. -/
theorem StampReads.tear_cases {i : ℕ} (hi : i < 5) :
    tear i = 0 ∨ (2 ^ 32 ≤ tear i ∧ tear i ≤ 2 ^ 56 - 2 ^ 32) ∨ 2 ^ 32 - 2 ^ 56 ≤ tear i ∧ tear i ≤ -2 ^ 32 := by
  have := h.torn i hi
  rcases abs_cases (tear i) with ⟨habs, _⟩ | ⟨habs, _⟩ <;> omega

/-- **Two reads agree exactly when neither is torn.** -/
theorem StampReads.agree_iff {i : ℕ} (hi : i < 4) : Agree read i ↔ tear i = 0 ∧ tear (i + 1) = 0 := by
  have hclose := h.close i hi
  have hapart := h.apart i hi
  have hfst := h.tear_cases (by omega : i < 5)
  have hsnd := h.tear_cases (by omega : i + 1 < 5)
  have hlo := h.time_le (by omega : i < 5)
  have hrange := h.range
  have ha := h.reading i (by omega)
  have hb := h.reading (i + 1) (by omega)
  have hmillion : (1000000 : UInt64).toNat = 1000000 := rfl
  unfold Agree
  rw [UInt64.lt_iff_toNat_lt, hmillion]
  split_ifs with hgt
  · have hnat := UInt64.lt_iff_toNat_lt.1 hgt
    rw [UInt64.toNat_sub_of_le _ _ (UInt64.le_of_lt hgt)]
    omega
  · have hle := UInt64.not_lt.1 hgt
    have hnat := UInt64.le_iff_toNat_le.1 hle
    rw [UInt64.toNat_sub_of_le _ _ hle]
    omega

/-- A torn read shows no time of an untorn one. -/
theorem StampReads.stamped_iff {i : ℕ} (hi : i < 5) {frame : List UInt8}
    (hframe : (le56 frame 3).toNat = ((read i).toNat + transmissionDelayUs.toNat) % 2 ^ 56) :
    Stamped time tear frame ↔ tear i = 0 := by
  have hread := h.reading i hi
  constructor
  · rintro ⟨j, hj, hz, heq⟩
    have hti := h.time_le hi
    have htj := h.time_le hj
    have hcases := h.tear_cases hi
    omega
  · intro hz
    exact ⟨i, hi, hz, by omega⟩

/-- **A beacon carries no torn read**, unless the first, the third and the fifth of its reads are torn. -/
theorem broadcast_untorn_iff :
    Stamped time tear (broadcast read) ↔ ¬(tear 0 ≠ 0 ∧ tear 2 ≠ 0 ∧ tear 4 ≠ 0) := by
  have a0 := h.apart 0 (by omega)
  have a1 := h.apart 1 (by omega)
  have a2 := h.apart 2 (by omega)
  have a3 := h.apart 3 (by omega)
  have hstamp : (le56 (broadcast read) 3).toNat =
      ((meshMicrosStable read).toNat + transmissionDelayUs.toNat) % 2 ^ 56 := by
    have hdelay : transmissionDelayUs.toNat = 1000 := rfl
    unfold broadcast
    rw [le56_meshClockPacket, UInt64.toNat_add, hdelay]
    omega
  rw [meshMicrosStable_eq] at hstamp
  simp only [h.agree_iff (by omega : 0 < 4), h.agree_iff (by omega : 1 < 4), h.agree_iff (by omega : 2 < 4),
    Nat.zero_add, Nat.reduceAdd] at hstamp a0 a1 a2 a3
  -- the read returned is the second of the first pair that agrees, or the fifth
  split_ifs at hstamp with h01 h12 h23
  · rw [h.stamped_iff (by omega) hstamp]
    omega
  · rw [h.stamped_iff (by omega) hstamp]
    omega
  · rw [h.stamped_iff (by omega) hstamp]
    omega
  · rw [h.stamped_iff (by omega) hstamp]
    omega

end Torn

/-- Reads a microsecond apart, the third one off by `2 ^ 32`. -/
theorem broadcast_untorn_third :
    Stamped (fun i => 7 + i) (fun i => if i = 2 then 2 ^ 32 else 0)
      (broadcast fun i => UInt64.ofNat (7 + i + if i = 2 then 2 ^ 32 else 0)) := by
  refine (broadcast_untorn_iff ⟨fun i hi => ?_, by decide, fun i _ => ?_, fun i _ => ?_, fun i _ => ?_⟩).2 (by decide)
  · interval_cases i <;> decide
  · push_cast
    omega
  · by_cases h : i = 2
    · right
      simp [h]
    · left
      simp [h]
  · by_cases h : i = 2
    · right
      simp [h]
    · left
      simp [h]

end MeshClock

end Nowde
