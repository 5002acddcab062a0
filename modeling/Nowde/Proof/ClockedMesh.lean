import Nowde.Proof.ClockMesh
import Nowde.Proof.Commands
import Nowde.Spec.ClockedNode

/-!
# The mesh clocks of whole nodes

Nodes with all they do: frames of any kind, commands from the host, rounds of the task loop, soft resets of the
clock and reboots. Only nodes send clock packets.

* `clocked_refines`: to their clocks, the nodes are a `ClockMesh`.
* `clocked_lead_le`: so the clocks get no further ahead than their beacons came too early, whatever the nodes do.
-/

namespace Nowde

/-- The timers and the nodes, and all the beacons sent, in order. -/
structure ClockedMesh (ι : Type*) where
  now : ℕ
  micros : ι → ℕ
  node : ι → ClockedNode
  air : List (Beacon ι) := []

/-- What can happen to a mesh of nodes. -/
inductive ClockedMeshEvent (ι : Type*)
  /-- Time passes; the timers count on by `ticks`. -/
  | pass (δ : ℕ) (ticks : ι → ℕ)
  /-- Node `i` hears beacon `k`. -/
  | hear (i : ι) (k : ℕ) (millis : UInt32) (env : Env) (src : Mac)
  /-- Node `i` hears any other frame. -/
  | radio (i : ι) (millis : UInt32) (env : Env) (src : Mac) (data : List UInt8)
    (hdata : isMeshClockPacket data = false)
  | usb (i : ι) (millis : UInt32) (env : Env) (packet : MidiEventPacket)
  | task (i : ι) (millis : UInt32) (env : Env) (draw : ℕ)

namespace ClockedMesh

variable {ι : Type*} [DecidableEq ι] (lib : UpdateLib) (build : Build)

/-- What the timers of node `i` show. -/
def timers (s : ClockedMesh ι) (i : ι) (millis : UInt32) : Timers := ⟨millis, UInt64.ofNat (s.micros i)⟩

/-- One event at node `i`: its timer starts over when it reboots, and its beacon goes on the air. -/
def handle (s : ClockedMesh ι) (i : ι) (millis : UInt32) (e : ClockedEvent) : ClockedMesh ι :=
  let r := (s.node i).step lib build (s.timers i millis) e
  { s with
    micros := if reboots r.2.1 then Function.update s.micros i 0 else s.micros
    node := Function.update s.node i r.1
    air := s.air ++ r.2.2.toList.map fun frame => ⟨i, frame, s.now⟩ }

/-- One event, and by how much a beacon heard in it came too early. -/
def step (s : ClockedMesh ι) : ClockedMeshEvent ι → ClockedMesh ι × List ℕ
  | .pass δ ticks => ({ s with now := s.now + δ, micros := fun i => s.micros i + ticks i }, [])
  | .hear i k millis env src =>
    match s.air[k]? with
    | some b =>
      (s.handle lib build i millis (.radio env src b.frame), [transmissionDelayUs.toNat - (s.now - b.sent)])
    | none => (s, [])
  | .radio i millis env src data _ => (s.handle lib build i millis (.radio env src data), [])
  | .usb i millis env packet => (s.handle lib build i millis (.usb env packet), [])
  | .task i millis env draw => (s.handle lib build i millis (.task env draw), [])

/-- The clocks of the mesh. -/
def clocks (s : ClockedMesh ι) : ClockMesh ι where
  now := s.now
  micros := s.micros
  clock i := (s.node i).clock
  air := s.air

/-- What an event at node `i` is to the clocks. -/
def clockEvents (s : ClockedMesh ι) (i : ι) (millis : UInt32) (e : ClockedEvent) : List (ClockMeshEvent ι) :=
  let out := ((s.node i).step lib build (s.timers i millis) e).2.1
  if reboots out then [.reboot i 0]
  else
    match e with
    | .radio .. | .usb .. => []
    | .task _ draw => (if Out.meshClockReset ∈ out then [.reset i] else []) ++ [.loop i millis draw]

/-- What an event is to the clocks. -/
def acts (s : ClockedMesh ι) : ClockedMeshEvent ι → List (ClockMeshEvent ι)
  | .pass δ ticks => [.pass δ ticks]
  | .hear i k millis _ _ => [.hear i k millis]
  | .radio i millis env src data _ => s.clockEvents lib build i millis (.radio env src data)
  | .usb i millis env packet => s.clockEvents lib build i millis (.usb env packet)
  | .task i millis env draw => s.clockEvents lib build i millis (.task env draw)

variable {lib build} {s : ClockedMesh ι} {i : ι} {millis : UInt32}

/-- The clocks after an event at one node. -/
theorem clocks_handle (e : ClockedEvent) :
    (s.handle lib build i millis e).clocks =
      let r := (s.node i).step lib build (s.timers i millis) e
      { s.clocks with
        micros := if reboots r.2.1 then Function.update s.micros i 0 else s.micros
        clock := Function.update s.clocks.clock i r.1.clock
        air := s.air ++ r.2.2.toList.map fun frame => ⟨i, frame, s.now⟩ } := by
  have hclock : (fun j => ((s.handle lib build i millis e).node j).clock) =
      Function.update s.clocks.clock i ((s.node i).step lib build (s.timers i millis) e).1.clock := by
    funext j
    unfold handle clocks
    by_cases hj : j = i
    · subst hj
      simp only [Function.update_self]
    · simp only [Function.update_of_ne hj]
  unfold clocks at hclock ⊢
  dsimp only at hclock ⊢
  rw [hclock]
  rfl

/-- Any event at one node but a clock packet. -/
theorem run_clockEvents {e : ClockedEvent} (hquiet : ∀ env src data, e = .radio env src data →
    isMeshClockPacket data = false) : Mealy.run ClockMesh.step s.clocks (s.clockEvents lib build i millis e) =
      ((s.handle lib build i millis e).clocks, []) := by
  rw [clocks_handle]
  unfold clockEvents ClockedNode.step
  dsimp only
  generalize (s.node i).node.step lib build ((s.node i).event (s.timers i millis) e) = r
  obtain ⟨n, out⟩ := r
  dsimp only
  by_cases hre : reboots out = true
  · simp only [hre, if_true, Mealy.run_cons, Mealy.run_nil, Option.toList_none, List.map_nil, List.append_nil]
    rfl
  · simp only [hre, if_false, Bool.false_eq_true]
    cases e with
    | radio env src data =>
      have hno := hquiet env src data rfl
      have hkept : ((s.node i).clock.handleReceive (s.timers i millis).micros (s.timers i millis).millis data).1 =
          (s.node i).clock := by
        unfold MeshClock.handleReceive
        rw [hno]
        rfl
      unfold ClockedNode.clockAfter
      simp only [hkept, ite_self, Option.toList_none, List.map_nil, List.append_nil, Mealy.run_nil]
      have hself : Function.update s.clocks.clock i (s.node i).clock = s.clocks.clock :=
        Function.update_eq_self i s.clocks.clock
      rw [hself]
      rfl
    | usb env packet =>
      have hself : Function.update s.clocks.clock i (s.node i).clock = s.clocks.clock :=
        Function.update_eq_self i s.clocks.clock
      unfold ClockedNode.clockAfter
      simp only [Option.toList_none, List.map_nil, List.append_nil, Mealy.run_nil]
      rw [hself]
      rfl
    | task env draw =>
      unfold ClockedNode.clockAfter
      by_cases hreset : Out.meshClockReset ∈ out
      · simp only [hreset, if_true, Mealy.run_append, Mealy.run_cons, Mealy.run_nil]
        unfold ClockMesh.step
        simp only [Function.update_self, Function.update_idem, List.append_nil]
        rfl
      · simp only [hreset, if_false, List.nil_append, Mealy.run_cons, Mealy.run_nil]
        rfl

/-- A beacon heard at one node. -/
theorem clocks_hear {b : Beacon ι} (hpacket : isMeshClockPacket b.frame = true) (env : Env) (src : Mac) :
    (s.handle lib build i millis (.radio env src b.frame)).clocks =
      { s.clocks with
        clock := Function.update s.clocks.clock i
          ((s.node i).clock.handleReceive (UInt64.ofNat (s.micros i)) millis b.frame).1 } := by
  have hlength : ¬b.frame.length < 1 := by
    unfold isMeshClockPacket at hpacket
    simp only [decide_eq_true_eq] at hpacket
    omega
  -- the node itself does not see it
  have hnode : (s.node i).node.step lib build ((s.node i).event (s.timers i millis) (.radio env src b.frame)) =
      ((s.node i).node, []) := by
    unfold Node.step Node.handle ClockedNode.event onDataRecv
    simp only [hlength, hpacket, if_true, if_false]
    rfl
  rw [clocks_handle]
  unfold ClockedNode.step
  rw [hnode]
  unfold ClockedNode.clockAfter
  simp only [reboots, List.not_mem_nil, or_self, decide_false, Bool.false_eq_true, if_false, hlength,
    Option.toList_none, List.map_nil, List.append_nil]
  rfl

/-- The timers keep the reference's pace at most, and do not come round. -/
def Steady (s : ClockedMesh ι) : ClockedMeshEvent ι → Prop
  | .pass δ ticks => ∀ i, ticks i ≤ δ ∧ s.micros i + ticks i < 2 ^ 61
  | .hear .. | .radio .. | .usb .. | .task .. => True

omit [DecidableEq ι] in
instance [Fintype ι] (s : ClockedMesh ι) (e : ClockedMeshEvent ι) : Decidable (s.Steady e) :=
  match e with
  | .pass δ ticks => inferInstanceAs (Decidable (∀ i, ticks i ≤ δ ∧ s.micros i + ticks i < 2 ^ 61))
  | .hear .. | .radio .. | .usb .. | .task .. => inferInstanceAs (Decidable True)

/-- **One event of the nodes** is these events of the clocks. -/
theorem clocks_step (h : s.clocks.Sound) (e : ClockedMeshEvent ι) :
    Mealy.run ClockMesh.step s.clocks (s.acts lib build e) =
      ((s.step lib build e).1.clocks, (s.step lib build e).2) := by
  cases e with
  | pass δ ticks => rfl
  | hear i k millis env src =>
    unfold acts step
    dsimp only
    rw [Mealy.run_cons, Mealy.run_nil]
    unfold ClockMesh.step
    have hair : s.clocks.air = s.air := rfl
    dsimp only
    rw [hair]
    cases hk : s.air[k]? with
    | none => rfl
    | some b =>
      dsimp only
      rw [clocks_hear (h.beacon b (List.mem_of_getElem? hk))]
      rfl
  | radio i millis env src data hdata =>
    refine run_clockEvents fun _ _ _ heq => ?_
    cases heq
    exact hdata
  | usb i millis env packet => exact run_clockEvents fun _ _ _ heq => by cases heq
  | task i millis env draw => exact run_clockEvents fun _ _ _ heq => by cases heq

/-- A steady event has a steady shadow. -/
theorem acts_steady {e : ClockedMeshEvent ι} (he : s.Steady e) :
    Mealy.Guarded ClockMesh.step ClockMesh.Steady s.clocks (s.acts lib build e) := by
  have hevents (i : ι) (millis : UInt32) (e : ClockedEvent) :
      Mealy.Guarded ClockMesh.step ClockMesh.Steady s.clocks (s.clockEvents lib build i millis e) := by
    unfold clockEvents
    dsimp only
    split
    · exact ⟨Nat.zero_le _, trivial⟩
    · cases e with
      | radio | usb => trivial
      | task env draw =>
        dsimp only
        split
        · exact ⟨trivial, trivial, trivial⟩
        · exact ⟨trivial, trivial⟩
  cases e with
  | pass δ ticks => exact ⟨he, trivial⟩
  | hear => exact ⟨trivial, trivial⟩
  | radio | usb | task => exact hevents _ _ _

/-- **To their clocks the nodes are a mesh of clocks**, over every run. -/
theorem clocked_refines (h : s.clocks.Sound) {es : List (ClockedMeshEvent ι)}
    (hes : Mealy.Guarded (step lib build) Steady s es) :
    Mealy.run ClockMesh.step s.clocks (Mealy.shadow (step lib build) (acts lib build) s es) =
        ((Mealy.run (step lib build) s es).1.clocks, (Mealy.run (step lib build) s es).2) ∧
      Mealy.Guarded ClockMesh.step ClockMesh.Steady s.clocks
        (Mealy.shadow (step lib build) (acts lib build) s es) :=
  Mealy.run_shadow_of_inv clocks (acts lib build) ClockMesh.Sound (fun _ _ ht hf => (ht.step hf).1)
    (fun _ e hs _ => clocks_step hs e) (fun _ _ _ he => acts_steady he) h hes

/-- **The nodes' clocks get ahead by what beacons come too early**: whatever frames and commands they handle,
and however often they reset their clocks and reboot, the time that `meshMicros()` shows leads the reference by
no more than before, and as much as the beacons heard took less than the transmission delay. -/
theorem clocked_lead_le {lead : ℕ} (hsound : s.clocks.Sound) (hwithin : s.clocks.Within lead)
    {es : List (ClockedMeshEvent ι)} (hes : Mealy.Guarded (step lib build) Steady s es) :
    let r := Mealy.run (step lib build) s es
    ∀ i, ((r.1.node i).clock.meshMicros (UInt64.ofNat (r.1.micros i))).toNat ≤ r.1.now + lead + r.2.sum := by
  obtain ⟨hrun, hsteady⟩ := clocked_refines hsound hes
  have hlead := (ClockMesh.lead_le hsound hwithin hsteady).2
  have hnext := Mealy.inv_run ClockMesh.Sound (fun _ _ ht hf => (ht.step hf).1) hsound hsteady
  rw [hrun] at hlead hnext
  intro r i
  have hmicros : r.1.micros i < 2 ^ 61 := hnext.micros i
  have hoffset : (r.1.node i).clock.offset.toNat < 2 ^ 56 := hnext.offset i
  have hreading : r.1.micros i + (r.1.node i).clock.offset.toNat ≤ r.1.now + lead + r.2.sum := hlead i
  unfold MeshClock.meshMicros
  rw [UInt64.toNat_add, UInt64.toNat_ofNat']
  omega

/-- Two nodes at boot. -/
def twoNodes : ClockedMesh Bool where
  now := 0
  micros _ := 0
  node _ := { node := boot plainBuild {} nowdeBoardidAtoms3Lite Mac.zero }

/-- One node goes round its loop a second later, and the other hears its beacon after 600 µs. -/
def firstRound : List (ClockedMeshEvent Bool) :=
  [.pass 1000000 (fun _ => 1000000), .task true 1000 { millis := 1000 } 0, .pass 600 (fun _ => 600),
    .hear false 0 1000 { millis := 1000 } Mac.zero]

theorem clocked_lead_le_firstRound :
    let r := Mealy.run (step noUpdate plainBuild) twoNodes firstRound
    ∀ i, ((r.1.node i).clock.meshMicros (UInt64.ofNat (r.1.micros i))).toNat ≤ r.1.now + 0 + r.2.sum := by
  have hsound : twoNodes.clocks.Sound := ClockMesh.booted_sound fun _ => Nat.two_pow_pos 61
  have hwithin : twoNodes.clocks.Within 0 := ClockMesh.booted_within fun _ => le_rfl
  exact clocked_lead_le hsound hwithin (by decide +kernel)

end ClockedMesh

end Nowde
