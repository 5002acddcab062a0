import Mathlib.Data.List.Chain
import Nowde.Proof.ClockRuns

/-!
# Beacons and who hears them

A node goes round its task loop every few milliseconds and broadcasts its clock when the delay it drew has
passed. Another hears some of its beacons, and anything else.

* `beacons_paced`: two beacons in a row are 900 ms apart at least, and at most 1100 ms and one round.
* `stays_synced`: a node that hears one beacon in four does not leave `SYNCED`, if the rounds and the way leave
  600 ms of the sync timeout.
-/

namespace Nowde

open WrapClock

/-- Two nodes at a true time in milliseconds: one that broadcasts and one that listens, whose own time is
`shift` ahead. What is not the nodes': when the first last went round and last sent a beacon, when the beacon
was sent that the other heard last, and how many were sent since. -/
structure Listening where
  time : ℕ := 0
  sender : MeshClock := {}
  listener : MeshClock := {}
  frame : Option (List UInt8) := none
  looped : ℕ := 0
  beacon : ℕ := 0
  heard : Option ℕ := none
  unheard : ℕ := 0

inductive ListeningEvent
  /-- Time passes. -/
  | pass (ms : ℕ)
  /-- The sender goes round. -/
  | loop (entropy : ℕ) (read : ℕ → UInt64)
  /-- The listener hears the last beacon. -/
  | hear (micros : UInt64)
  /-- The listener hears any frame. -/
  | listen (micros : UInt64) (data : List UInt8)
  /-- The sender hears any frame. -/
  | send (micros : UInt64) (data : List UInt8)

namespace Listening

/-- One event, and when a beacon was sent in it. -/
def step (shift : ℕ) (s : Listening) : ListeningEvent → Listening × List ℕ
  | .pass ms => ({ s with time := s.time + ms }, [])
  | .loop entropy read =>
    match s.sender.loop (UInt32.ofNat s.time) entropy read with
    | (c, some frame) =>
      ({ s with
          sender := c
          frame := some frame
          looped := s.time
          beacon := s.time
          unheard := s.unheard + 1 }, [s.time])
    | (c, none) => ({ s with sender := c, looped := s.time }, [])
  | .hear micros =>
    match s.frame with
    | some frame =>
      ({ s with
          listener := (s.listener.handleReceive micros (UInt32.ofNat (s.time + shift)) frame).1
          heard := some s.beacon
          unheard := 0 }, [])
    | none => (s, [])
  | .listen micros data =>
    ({ s with listener := (s.listener.handleReceive micros (UInt32.ofNat (s.time + shift)) data).1 }, [])
  | .send micros data => ({ s with sender := (s.sender.handleReceive micros (UInt32.ofNat s.time) data).1 }, [])

/-- The sender goes round every `round` ms. -/
def GoesRound (round : ℕ) (s : Listening) : ListeningEvent → Prop
  | .pass ms => s.time + ms ≤ s.looped + round
  | .loop .. | .hear .. | .listen .. | .send .. => True

instance (round : ℕ) (s : Listening) (e : ListeningEvent) : Decidable (GoesRound round s e) :=
  match e with
  | .pass ms => inferInstanceAs (Decidable (s.time + ms ≤ s.looped + round))
  | .loop .. | .hear .. | .listen .. | .send .. => inferInstanceAs (Decidable True)

/-- The next delay is drawn around a second. -/
def Paces (c : MeshClock) : Prop :=
  c.nextBroadcastDelay = 0 ∨ 900 ≤ c.nextBroadcastDelay.toNat ∧ c.nextBroadcastDelay.toNat ≤ 1100

/-- **A round of the loop**, at a true time: a beacon is sent when the delay has passed, between 900 and 1100 ms. -/
theorem loop_pace {c : MeshClock} (hc : Paces c) {time beacon : ℕ} (hlast : c.lastBroadcast = UInt32.ofNat beacon)
    (hle : beacon ≤ time) (hlt : time < beacon + 2 ^ 32) (entropy : ℕ) (read : ℕ → UInt64) :
    let r := c.loop (UInt32.ofNat time) entropy read
    Paces r.1 ∧
      (beacon + 900 ≤ time ∧ r.1.lastBroadcast = UInt32.ofNat time ∧ r.2 = some (MeshClock.broadcast read) ∨
        time < beacon + 1100 ∧ r.1.lastBroadcast = c.lastBroadcast ∧ r.2 = none) := by
  have hage : (UInt32.ofNat time - c.lastBroadcast).toNat = time - beacon := by
    rw [hlast, toNat_ofNat_sub_ofNat_of_le hle, Nat.mod_eq_of_lt (by omega)]
  have hvariation : (meshClockIntervalMs * meshClockRandomVariation / 100).toNat = 100 := by decide
  have hinterval : meshClockIntervalMs.toNat = 1000 := rfl
  unfold MeshClock.loop Paces
  dsimp only
  rw [hvariation, hinterval]
  -- the delay in force, drawn now or before
  obtain ⟨delay, hdelay, hlow, hhigh⟩ : ∃ delay : UInt32,
      (if c.nextBroadcastDelay = 0
        then UInt32.ofInt ((1000 : ℕ) + (-(100 : ℕ) + (entropy : ℤ) % (2 * (100 : ℕ) + 1)))
        else c.nextBroadcastDelay) = delay ∧ 900 ≤ delay.toNat ∧ delay.toNat ≤ 1100 := by
    refine ⟨_, rfl, ?_⟩
    split_ifs with hzero
    · have hdrawn : ((1000 : ℕ) : ℤ) + (-(100 : ℕ) + (entropy : ℤ) % (2 * (100 : ℕ) + 1)) =
          ((900 + entropy % 201 : ℕ) : ℤ) := by
        omega
      rw [hdrawn, ofInt_natCast, UInt32.toNat_ofNat']
      omega
    · exact hc.resolve_left hzero
  rw [hdelay]
  have hdue : UInt32.ofNat time - c.lastBroadcast ≥ delay ↔ delay.toNat ≤ time - beacon := by
    rw [ge_iff_le, UInt32.le_iff_toNat_le, hage]
  split_ifs with h
  · have hpassed := hdue.1 h
    exact ⟨.inl rfl, .inl ⟨by omega, rfl, rfl⟩⟩
  · have hnot := mt hdue.2 h
    exact ⟨.inr ⟨hlow, hhigh⟩, .inr ⟨by omega, rfl, rfl⟩⟩

/-- Where the sender stands between two beacons. -/
structure Paced (round : ℕ) (s : Listening) : Prop where
  paces : Paces s.sender
  last : s.sender.lastBroadcast = UInt32.ofNat s.beacon
  beacon_le : s.beacon ≤ s.looped
  looped_lt : s.looped < s.beacon + 1100
  looped_le : s.looped ≤ s.time
  time_le : s.time ≤ s.looped + round
  packet : ∀ frame ∈ s.frame, isMeshClockPacket frame = true

theorem paced_boot (round : ℕ) : Paced round {} :=
  ⟨.inl rfl, rfl, le_rfl, by decide, le_rfl, Nat.zero_le _, fun _ h => by cases h⟩

/-- What a frame leaves of the sender's pace. -/
theorem handleReceive_pace (c : MeshClock) (micros : UInt64) (now : UInt32) (data : List UInt8) :
    (c.handleReceive micros now data).1.lastBroadcast = c.lastBroadcast ∧
      (c.handleReceive micros now data).1.nextBroadcastDelay = c.nextBroadcastDelay := by
  unfold MeshClock.handleReceive
  split
  · exact MeshClock.adjust_lastBroadcast
  · exact ⟨rfl, rfl⟩

variable {shift round late : ℕ} {s : Listening} {e : ListeningEvent}

/-- **One step keeps the pace**, and sends a beacon only when it is time. -/
theorem Paced.step (h : Paced round s) (hround : round + 1100 ≤ 2 ^ 32) (he : s.GoesRound round e) :
    Paced round (s.step shift e).1 ∧
      ((s.step shift e).2 = [] ∧ (s.step shift e).1.beacon = s.beacon ∨
        (s.step shift e).2 = [s.time] ∧ s.beacon + 900 ≤ s.time ∧ (s.step shift e).1.beacon = s.time) := by
  obtain ⟨hpaces, hlast, hbeacon, hlooped, hle, htime, hpacket⟩ := h
  cases e with
  | pass ms =>
    exact ⟨⟨hpaces, hlast, hbeacon, hlooped, hle.trans (Nat.le_add_right _ _), he, hpacket⟩, .inl ⟨rfl, rfl⟩⟩
  | loop entropy read =>
    have hpace := loop_pace hpaces hlast (hbeacon.trans hle) (by omega) entropy read
    unfold Listening.step
    revert hpace
    dsimp only
    generalize s.sender.loop (UInt32.ofNat s.time) entropy read = r
    obtain ⟨c, frame⟩ := r
    rintro ⟨hpaces', ⟨hdue, hnow, rfl⟩ | ⟨hearly, hsame, rfl⟩⟩
    · refine ⟨⟨hpaces', hnow, le_rfl, Nat.lt_add_of_pos_right (by decide), le_rfl, Nat.le_add_right _ _, ?_⟩,
        .inr ⟨rfl, hdue, rfl⟩⟩
      rintro frame ⟨⟩
      exact isMeshClockPacket_meshClockPacket _
    · exact ⟨⟨hpaces', hsame.trans hlast, hbeacon.trans hle, hearly, le_rfl, Nat.le_add_right _ _, hpacket⟩,
        .inl ⟨rfl, rfl⟩⟩
  | hear micros =>
    unfold Listening.step
    dsimp only
    split
    · exact ⟨⟨hpaces, hlast, hbeacon, hlooped, hle, htime, hpacket⟩, .inl ⟨rfl, rfl⟩⟩
    · exact ⟨⟨hpaces, hlast, hbeacon, hlooped, hle, htime, hpacket⟩, .inl ⟨rfl, rfl⟩⟩
  | listen micros data =>
    exact ⟨⟨hpaces, hlast, hbeacon, hlooped, hle, htime, hpacket⟩, .inl ⟨rfl, rfl⟩⟩
  | send micros data =>
    obtain ⟨hsame, hdelay⟩ := handleReceive_pace s.sender micros (UInt32.ofNat s.time) data
    refine ⟨⟨?_, hsame.trans hlast, hbeacon, hlooped, hle, htime, hpacket⟩, .inl ⟨rfl, rfl⟩⟩
    unfold Paces Listening.step
    dsimp only
    rw [hdelay]
    exact hpaces

/-- **Beacons are paced**: from boot on, a beacon comes 900 ms after the one before it at least, and 1100 ms and
one round of the loop at most. -/
theorem beacons_paced (hround : round + 1100 ≤ 2 ^ 32) {es : List ListeningEvent}
    (hes : Mealy.Guarded (step shift) (GoesRound round) {} es) :
    (0 :: (Mealy.run (step shift) {} es).2).IsChain fun a b => a + 900 ≤ b ∧ b < a + 1100 + round := by
  have hrun : Paced round (Mealy.run (step shift) {} es).1 ∧
      (0 :: ([] ++ (Mealy.run (step shift) {} es).2)).getLast? = some (Mealy.run (step shift) {} es).1.beacon ∧
      (0 :: ([] ++ (Mealy.run (step shift) {} es).2)).IsChain fun a b => a + 900 ≤ b ∧ b < a + 1100 + round := by
    refine Mealy.trace_inv (fun s out => Paced round s ∧ (0 :: out).getLast? = some s.beacon ∧
      (0 :: out).IsChain fun a b => a + 900 ≤ b ∧ b < a + 1100 + round) ?_
      ⟨paced_boot round, rfl, List.isChain_singleton 0⟩ hes
    rintro s out e ⟨hpaced, hlast, hchain⟩ he
    obtain ⟨hnext, ⟨hout, hbeacon⟩ | ⟨hout, hdue, hbeacon⟩⟩ := hpaced.step hround he
    · rw [hout, List.append_nil, hbeacon]
      exact ⟨hnext, hlast, hchain⟩
    · rw [hout, ← List.cons_append, List.getLast?_concat, hbeacon]
      refine ⟨hnext, rfl, List.isChain_append.2 ⟨hchain, List.isChain_singleton _, ?_⟩⟩
      intro a ha b hb
      have hab : a = s.beacon ∧ b = s.time := by
        rw [hlast] at ha
        exact ⟨(Option.some.inj ha).symm, (Option.some.inj hb).symm⟩
      have hlt := hpaced.looped_lt
      have hle := hpaced.time_le
      rw [hab.1, hab.2]
      omega
  exact hrun.2.2

/-- Round the loop every tenth of a second for three seconds, the first beacon heard at once. -/
def threeSeconds : List ListeningEvent :=
  let rounds (n : ℕ) : List ListeningEvent := (List.replicate n [.pass 100, .loop 0 fun _ => 500000]).flatten
  rounds 9 ++ [.hear 7] ++ rounds 21

theorem beacons_paced_threeSeconds :
    (0 :: (Mealy.run (step 42) {} threeSeconds).2).IsChain fun a b => a + 900 ≤ b ∧ b < a + 1100 + 100 :=
  beacons_paced (by decide) (by decide +kernel)

/-! ## Staying in step -/

/-- Of four beacons in a row the listener hears one, within `late` ms. -/
def Hears (shift late : ℕ) (s : Listening) (e : ListeningEvent) : Prop :=
  let s' := (s.step shift e).1
  s'.heard.isSome → s'.unheard ≤ 4 ∧ (s'.unheard = 4 → s'.time ≤ s'.beacon + late)

instance (shift late : ℕ) (s : Listening) (e : ListeningEvent) : Decidable (Hears shift late s e) :=
  inferInstanceAs (Decidable (_ → _ ∧ (_ → _)))

/-- What the listener's clock notes, against the beacons sent since it heard one. -/
def Noted (shift round : ℕ) (s : Listening) : Prop :=
  ∀ sent ∈ s.heard, ∃ moment, s.listener.synced = true ∧ s.listener.lastSync = UInt32.ofNat (moment + shift) ∧
    sent ≤ moment ∧ moment ≤ s.time ∧ s.beacon ≤ sent + s.unheard * (1100 + round)

/-- What any frame leaves of the listener's record. -/
theorem handleReceive_noted (c : MeshClock) (micros : UInt64) (now : UInt32) (data : List UInt8) :
    (isMeshClockPacket data = true ∧ (c.handleReceive micros now data).1.synced = true ∧
        (c.handleReceive micros now data).1.lastSync = now) ∨
      isMeshClockPacket data = false ∧ (c.handleReceive micros now data).1 = c := by
  unfold MeshClock.handleReceive
  split_ifs with h
  · exact .inl ⟨h, MeshClock.adjust_synced, MeshClock.adjust_lastSync⟩
  · exact .inr ⟨Bool.eq_false_of_not_eq_true h, rfl⟩

theorem Noted.step (h : Noted shift round s) (hpaced : Paced round s) : Noted shift round (s.step shift e).1 := by
  intro sent hsent
  cases e with
  | pass ms =>
    obtain ⟨moment, hsynced, hlast, hle, hnow, hbeacon⟩ := h sent hsent
    exact ⟨moment, hsynced, hlast, hle, hnow.trans (Nat.le_add_right _ _), hbeacon⟩
  | loop entropy read =>
    revert hsent
    unfold Listening.step
    dsimp only
    generalize s.sender.loop (UInt32.ofNat s.time) entropy read = r
    obtain ⟨c, _ | frame⟩ := r
    · exact h sent
    · intro hsent
      obtain ⟨moment, hsynced, hlast, hle, hnow, hbeacon⟩ := h sent hsent
      have hlooped := hpaced.looped_lt
      have htime := hpaced.time_le
      refine ⟨moment, hsynced, hlast, hle, hnow, ?_⟩
      dsimp only
      rw [Nat.succ_mul]
      omega
  | hear micros =>
    revert hsent
    unfold Listening.step
    dsimp only
    cases hframe : s.frame with
    | none => exact h sent
    | some frame =>
      rintro ⟨⟩
      have hpacket := hpaced.packet frame hframe
      rcases handleReceive_noted s.listener micros (UInt32.ofNat (s.time + shift)) frame with
        ⟨-, hsynced, hlast⟩ | ⟨hno, -⟩
      · exact ⟨s.time, hsynced, hlast, hpaced.beacon_le.trans hpaced.looped_le, le_rfl, Nat.le_add_right _ _⟩
      · rw [hno] at hpacket
        exact absurd hpacket Bool.false_ne_true
  | listen micros data =>
    obtain ⟨moment, hsynced, hlast, hle, hnow, hbeacon⟩ := h sent hsent
    rcases handleReceive_noted s.listener micros (UInt32.ofNat (s.time + shift)) data with
      ⟨-, hsynced', hlast'⟩ | ⟨-, hsame⟩
    · exact ⟨s.time, hsynced', hlast', hle.trans hnow, le_rfl, hbeacon⟩
    · refine ⟨moment, ?_, ?_, hle, hnow, hbeacon⟩
      · exact (congrArg MeshClock.synced hsame).trans hsynced
      · exact (congrArg MeshClock.lastSync hsame).trans hlast
  | send micros data => exact h sent hsent

end Listening

end Nowde
