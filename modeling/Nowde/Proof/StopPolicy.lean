import Nowde.Proof.Modes
import Nowde.Lib.Clock

/-!
# The STOP policy

Under STOP a node whose master falls silent stops its clock and tells its host. The check that does
so fires once, when it declares the link lost; under FREEWHEEL it declares the link lost too and
lets the clock run.

* `receiverTick_stops`: what one round does to a playing node, and what it then sends.
* `stopPolicy_iff`: a run obeys the policy **exactly** when no round under STOP finds a silent node
  that plays on with the link declared lost before, or with a silence that `millis()` has wrapped.
* `stopWhileFreewheeling_playsOn`: STOP is set while the node freewheels, and the time code goes on.
-/

namespace Nowde

/-! ## One round -/

/-- The link-lost check stops the clock. -/
def LinkStops (now : UInt32) (ms : MediaSyncState) : Prop :=
  ms.currentState = 1 ∧ ms.linkLost = false ∧ now - ms.lastSyncTime > linkLostTimeoutMs ∧ ms.stopOnLinkLost = true

instance (now : UInt32) (ms : MediaSyncState) : Decidable (LinkStops now ms) :=
  inferInstanceAs (Decidable (_ ∧ _ ∧ _ ∧ _))

/-- Time code, counted by its quarter-frames: a full frame goes out only on an accepted playing packet. -/
def HostMsg.isTimeCode : HostMsg → Bool
  | .timeCode _ => true
  | _ => false

/-- A CC#100 or a Stop. -/
def HostMsg.isStop : HostMsg → Bool
  | .cc number _ => number = 100
  | .stop => true
  | _ => false

section Round

variable (now : UInt32) (ms : MediaSyncState)

theorem checkLinkLost_stops : (checkLinkLost now ms).1.currentState = (if LinkStops now ms then 0 else ms.currentState) ∧
    (checkLinkLost now ms).2 = (if LinkStops now ms then [.cc 100 0, .stop] else []) := by
  unfold checkLinkLost
  by_cases hlost : ms.currentState = 1 ∧ ¬ms.linkLost = true ∧ now - ms.lastSyncTime > linkLostTimeoutMs
  · rw [if_pos hlost]
    cases hstop : ms.stopOnLinkLost with
    | true =>
      have hstops : LinkStops now ms := ⟨hlost.1, by simpa using hlost.2.1, hlost.2.2, hstop⟩
      simp [hstops]
    | false =>
      -- declared lost, but the clock runs on
      have hruns : ¬LinkStops now ms := fun h => absurd (h.2.2.2.symm.trans hstop) (by decide)
      simp [hruns]
  · rw [if_neg hlost]
    have hruns : ¬LinkStops now ms := fun h => hlost ⟨h.1, by simp [h.2.1], h.2.2.1⟩
    simp [hruns]

theorem generateMtc_plays : (generateMtc now ms).1.currentState = ms.currentState ∧
    (generateMtc now ms).2.filter HostMsg.isStop = [] ∧
    ((generateMtc now ms).2.any HostMsg.isTimeCode = true → ms.currentState = 1) := by
  unfold generateMtc
  split
  · next hplays => exact ⟨rfl, rfl, fun _ => hplays.1⟩
  · exact ⟨rfl, rfl, by simp⟩

/-- **One round** stops the clock exactly when the check does, tells the host so exactly then, and
sends time code only while the clock runs on. -/
theorem receiverTick_stops (r : Receiver) :
    let t := receiverTick now r
    t.1.mediaSyncState.currentState =
        (if LinkStops now r.mediaSyncState then 0 else r.mediaSyncState.currentState) ∧
      t.2.filter HostMsg.isStop = (if LinkStops now r.mediaSyncState then [.cc 100 0, .stop] else []) ∧
      (t.2.any HostMsg.isTimeCode = true → t.1.mediaSyncState.currentState = 1) := by
  obtain ⟨hstate, hout⟩ := checkLinkLost_stops now r.mediaSyncState
  obtain ⟨hmtc, hnostop, hplays⟩ := generateMtc_plays now (checkLinkLost now r.mediaSyncState).1
  unfold receiverTick
  dsimp only
  refine ⟨hmtc.trans hstate, ?_, ?_⟩
  · rw [List.filter_append, hnostop, hout, List.append_nil]
    split <;> rfl
  · intro hany
    rw [List.any_append, hout] at hany
    have hnone : (if LinkStops now r.mediaSyncState then [HostMsg.cc 100 0, .stop] else []).any
        HostMsg.isTimeCode = false := by
      split <;> rfl
    rw [hnone, Bool.false_or] at hany
    exact hmtc.trans (hplays hany)

/-- A packet brings no time code by itself. -/
theorem followPacket_noTimeCode (env : Env) (hasVolume : Bool) (p : MediaSyncPacket) :
    (followPacket env hasVolume p ms).2.any HostMsg.isTimeCode = false := by
  have hindex : ∀ ms, (sendIndexChange env p ms).2.any HostMsg.isTimeCode = false := by
    intro ms
    unfold sendIndexChange
    split <;> rfl
  have hvolume : ∀ ms, (sendVolume env hasVolume p ms).2.any HostMsg.isTimeCode = false := by
    intro ms
    unfold sendVolume
    dsimp only
    split_ifs <;> rfl
  have htransition : ∀ a b ms, (sendTransition env p a b ms).2.any HostMsg.isTimeCode = false := by
    intro a b ms
    unfold sendTransition
    split_ifs <;> rfl
  have hjump : (if jumped env p ms then [HostMsg.fullFrame (compensatedPositionMs env p)] else []).any
      HostMsg.isTimeCode = false := by
    split <;> rfl
  unfold followPacket
  simp only [List.any_append, hindex, hvolume, htransition, hjump, Bool.or_self]

end Round

/-! ## Runs -/

/-- An event at a true time since boot. -/
structure Timed where
  time : ℕ
  event : Event

/-- The event as the node sees it at that time. -/
def Timed.seen (e : Timed) : Event :=
  match e.event with
  | .radio env src data => .radio (env.at e.time) src data
  | .usb env packet => .usb (env.at e.time) packet
  | .task env => .task (env.at e.time)

def Event.isTask : Event → Bool
  | .task _ => true
  | _ => false

/-- A node, the true time of the last packet accepted since it booted, and whether a round since then
has found STOP set and the link silent, with no playing packet accepted after it. -/
structure PolicyState where
  node : Node
  accepted : Option ℕ := none
  halted : Bool := false

namespace PolicyState

variable (s : PolicyState)

/-- A round that finds STOP set and more than the timeout since the last accepted packet. -/
def mustStop (e : Timed) : Bool :=
  e.event.isTask && s.node.receiver.mediaSyncState.stopOnLinkLost &&
    s.accepted.any fun a => linkLostTimeoutMs.toNat < e.time - a

/-- One event; a reboot starts over. -/
def step (lib : UpdateLib) (build : Build) (s : PolicyState) (e : Timed) : PolicyState × List Out :=
  let r := s.node.step lib build e.seen
  if reboots r.2 then ({ node := r.1 }, r.2)
  else
    match acceptedPacket s.node e.seen with
    | some p => ({ node := r.1, accepted := some e.time, halted := s.halted && p.state ≠ 1 }, r.2)
    | none => ({ node := r.1, accepted := s.accepted, halted := s.halted || s.mustStop e }, r.2)

end PolicyState

/-- **The policy is obeyed** in an event: from a round that must stop until the next playing packet the
node does not play and sends no time code, and a round tells the host CC#100 = 0 and one Stop when
it stops the clock, and nothing of the kind otherwise. -/
def Obeyed (lib : UpdateLib) (s : PolicyState) (e : Timed) : Prop :=
  let r := s.node.handle lib e.seen
  (s.halted = true ∨ s.mustStop e = true → (∀ p ∈ acceptedPacket s.node e.seen, p.state ≠ 1) →
      r.1.receiver.mediaSyncState.currentState ≠ 1 ∧ (hostMsgs r.2).any HostMsg.isTimeCode = false) ∧
    (e.event.isTask = true → (hostMsgs r.2).filter HostMsg.isStop =
      if s.node.receiver.mediaSyncState.currentState = 1 ∧ r.1.receiver.mediaSyncState.currentState ≠ 1 then
        [.cc 100 0, .stop] else [])

/-- A round that must stop finds the node stopped, or playing with the link not yet declared lost and
a silence that `millis()` can tell from a short one. -/
def Caught (s : PolicyState) (e : Timed) : Prop :=
  s.mustStop e = true → s.node.receiver.mediaSyncState.currentState = 1 →
    s.node.receiver.mediaSyncState.linkLost = false ∧
      ∀ a ∈ s.accepted, linkLostTimeoutMs.toNat < (e.time - a) % 2 ^ 32

/-- The playing state was accepted when its stamp says, and a halted node does not play. -/
structure PolicyInv (s : PolicyState) : Prop where
  receiver : s.node.receiverModeEnabled = true
  stamped : s.node.core.currentState = 1 →
    ∃ a, s.accepted = some a ∧ s.node.core.lastSyncTime = UInt32.ofNat a
  halted : s.halted = true → s.node.core.currentState ≠ 1

section Steps

variable {lib : UpdateLib} {build : Build} {s : PolicyState} {e : Timed}

theorem boot_policyInv (nvs : Nvs) (boardId : UInt8) (mac : Mac) :
    PolicyInv { node := boot build nvs boardId mac } where
  receiver := (boot_modes build nvs boardId mac).1
  stamped h := by
    rw [boot_core] at h
    exact absurd h (by decide)
  halted h := by cases h

/-- The check at a round that must stop, on a playing node. -/
theorem linkStops_iff (h : PolicyInv s) (hplays : s.node.receiver.mediaSyncState.currentState = 1)
    (hmust : s.mustStop e = true) :
    LinkStops (UInt32.ofNat e.time) s.node.receiver.mediaSyncState ↔
      s.node.receiver.mediaSyncState.linkLost = false ∧
        ∀ a ∈ s.accepted, linkLostTimeoutMs.toNat < (e.time - a) % 2 ^ 32 := by
  obtain ⟨a, ha, hstamp⟩ := h.stamped hplays
  have hsync : s.node.receiver.mediaSyncState.lastSyncTime = UInt32.ofNat a := hstamp
  simp only [PolicyState.mustStop, ha, Option.any_some, Bool.and_eq_true, decide_eq_true_eq] at hmust
  obtain ⟨⟨-, hstop⟩, hsilent⟩ := hmust
  have hage : (UInt32.ofNat e.time - UInt32.ofNat a).toNat = (e.time - a) % 2 ^ 32 :=
    WrapClock.toNat_ofNat_sub_ofNat_of_le (by omega)
  unfold LinkStops
  rw [hsync, gt_iff_lt, UInt32.lt_iff_toNat_lt, hage, ha]
  simp only [Option.mem_def, Option.some.injEq, forall_eq']
  constructor
  · rintro ⟨-, hlost, hold, -⟩
    exact ⟨hlost, hold⟩
  · rintro ⟨hlost, hold⟩
    exact ⟨hplays, hlost, hold, hstop⟩

variable (lib) in
/-- What a round does. -/
theorem task_policy (h : PolicyInv s) {env : Env} (he : e.event = .task env) :
    let r := s.node.handle lib e.seen
    let stops := LinkStops (UInt32.ofNat e.time) s.node.receiver.mediaSyncState
    r.1.receiver.mediaSyncState.currentState =
        (if stops then 0 else s.node.receiver.mediaSyncState.currentState) ∧
      (hostMsgs r.2).filter HostMsg.isStop = (if stops then [.cc 100 0, .stop] else []) ∧
      ((hostMsgs r.2).any HostMsg.isTimeCode = true → r.1.receiver.mediaSyncState.currentState = 1) := by
  have hseen : e.seen = .task (env.at e.time) := by
    unfold Timed.seen
    rw [he]
  have hreceiver := (espnowTask_spec (env.at e.time) s.node).1
  have hhost := espnowTask_host (env.at e.time) s.node
  rw [if_pos h.receiver] at hreceiver hhost
  rw [hseen]
  simp only [Node.handle]
  rw [hreceiver, hhost]
  exact receiverTick_stops (UInt32.ofNat e.time) s.node.receiver

variable (lib) in
/-- An event that is no round sends no time code, and plays on as before unless it is accepted. -/
theorem other_policy (he : e.event.isTask = false) (hacc : acceptedPacket s.node e.seen = none) :
    (s.node.handle lib e.seen).1.core = s.node.core ∧
      (hostMsgs (s.node.handle lib e.seen).2).any HostMsg.isTimeCode = false := by
  have hquiet : ∀ out, NotPlayed out → (hostMsgs out).any HostMsg.isTimeCode = false := by
    intro out hout
    rw [List.any_eq_false]
    intro m hm
    obtain ⟨o, ho, hhost⟩ := List.mem_filterMap.1 hm
    have hno := hout o ho
    cases o with
    | host m' =>
      cases hhost
      cases m with
      | timeCode position => exact Bool.noConfusion (show true = false from hno)
      | _ => simp [HostMsg.isTimeCode]
    | _ => cases hhost
  obtain ⟨time, event⟩ := e
  refine ⟨?_, hquiet _ (handle_notPlayed lib s.node hacc fun env h => ?_)⟩
  · cases event with
    | task env => cases he
    | usb env packet => exact (midiPacket_spec lib _ s.node packet).core
    | radio env src data => exact (radio_of_not_accepted lib s.node hacc).1
  · cases event with
    | task env => cases he
    | usb env packet => cases h
    | radio env src data => cases h

variable (lib) in
/-- An accepted packet comes by radio, is followed, and brings no reboot. -/
theorem accepted_policy {p : MediaSyncPacket} (hacc : acceptedPacket s.node e.seen = some p) :
    e.event.isTask = false ∧
      (s.node.handle lib e.seen).1.core.currentState = p.state ∧
      (s.node.handle lib e.seen).1.core.lastSyncTime = UInt32.ofNat e.time ∧
      reboots (s.node.handle lib e.seen).2 = false := by
  obtain ⟨hasVolume, base, hf⟩ := handle_accepted lib s.node hacc
  obtain ⟨time, event⟩ := e
  cases event with
  | radio env src data => exact ⟨rfl, hf.currentState, hf.lastSyncTime, hf.reboots⟩
  | _ => cases hacc

/-- A round obeys the policy exactly when it catches a playing node that it must stop. -/
theorem task_obeyed_iff (h : PolicyInv s) {env : Env} (he : e.event = .task env) : Obeyed lib s e ↔ Caught s e := by
  have htask : e.event.isTask = true := by
    rw [he]
    rfl
  obtain ⟨hstate, hout, hplays⟩ := task_policy lib h he
  have hnoacc : acceptedPacket s.node e.seen = none := by
    unfold Timed.seen
    rw [he]
    rfl
  -- the messages go with the transition in any case
  have htransition : (hostMsgs (s.node.handle lib e.seen).2).filter HostMsg.isStop =
      if s.node.receiver.mediaSyncState.currentState = 1 ∧
        (s.node.handle lib e.seen).1.receiver.mediaSyncState.currentState ≠ 1 then [.cc 100 0, .stop] else [] := by
    rw [hout, hstate]
    by_cases hstops : LinkStops (UInt32.ofNat e.time) s.node.receiver.mediaSyncState
    · rw [if_pos hstops, if_pos hstops, if_pos ⟨hstops.1, by decide⟩]
    · rw [if_neg hstops, if_neg hstops, if_neg]
      rintro ⟨h1, hne⟩
      exact hne h1
  have hnotplayed : (s.node.handle lib e.seen).1.receiver.mediaSyncState.currentState ≠ 1 →
      (hostMsgs (s.node.handle lib e.seen).2).any HostMsg.isTimeCode = false := by
    intro hne
    by_contra hany
    exact hne (hplays (by simpa using hany))
  unfold Obeyed Caught
  simp only [hnoacc, Option.not_mem_none, false_implies, implies_true, true_implies, htask]
  constructor
  · rintro ⟨hobey, -⟩ hmust hplaying
    have hne := (hobey (Or.inr hmust)).1
    by_contra hno
    rw [← linkStops_iff h hplaying hmust] at hno
    rw [hstate, if_neg hno] at hne
    exact hne hplaying
  · intro hcaught
    refine ⟨fun hhalt => ?_, htransition⟩
    have hne : (s.node.handle lib e.seen).1.receiver.mediaSyncState.currentState ≠ 1 := by
      rw [hstate]
      by_cases hplaying : s.node.receiver.mediaSyncState.currentState = 1
      · rcases hhalt with hhalt | hmust
        · exact absurd hplaying (h.halted hhalt)
        · rw [if_pos ((linkStops_iff h hplaying hmust).2 (hcaught hmust hplaying))]
          decide
      · rw [if_neg (fun hstops => hplaying hstops.1)]
        exact hplaying
    exact ⟨hne, hnotplayed hne⟩

/-- Any other event does, and there is nothing to catch. -/
theorem other_obeyed (h : PolicyInv s) (htask : e.event.isTask = false) : Obeyed lib s e ↔ Caught s e := by
  have hmust : s.mustStop e = false := by
    unfold PolicyState.mustStop
    rw [htask, Bool.false_and, Bool.false_and]
  unfold Obeyed Caught
  simp only [hmust, htask, Bool.false_eq_true, or_false, false_implies, and_true, iff_true]
  intro hhalt hnoplay
  cases hacc : acceptedPacket s.node e.seen with
  | none =>
    obtain ⟨hcore, hquiet⟩ := other_policy lib htask hacc
    refine ⟨fun h1 => h.halted hhalt ?_, hquiet⟩
    rw [← hcore]
    exact h1
  | some p =>
    -- a packet that does not play, and no packet brings time code
    obtain ⟨-, hstate, -, -⟩ := accepted_policy lib hacc
    refine ⟨fun h1 => hnoplay p hacc (hstate.symm.trans h1), ?_⟩
    obtain ⟨hasVolume, base, hf⟩ := handle_accepted lib s.node hacc
    rw [hf.out, hostMsgs_map]
    exact followPacket_noTimeCode _ _ _ _

/-- **One event obeys the policy exactly when** its round, if it is one that must stop, catches it. -/
theorem obeyed_iff (h : PolicyInv s) : Obeyed lib s e ↔ Caught s e := by
  cases hev : e.event with
  | task env => exact task_obeyed_iff h hev
  | _ =>
    apply other_obeyed h
    rw [hev]
    rfl

/-- **One event** that obeys the policy keeps the invariant. -/
theorem PolicyInv.step (h : PolicyInv s) (hobeyed : Obeyed lib s e) : PolicyInv (s.step lib build e).1 := by
  have hmode := (handle_modes lib s.node e.seen).receiver h.receiver
  unfold PolicyState.step
  cases hre : reboots (s.node.handle lib e.seen).2 with
  | true =>
    simp only [step_of_reboots build hre, hre, if_true]
    exact boot_policyInv _ _ _
  | false =>
    simp only [step_of_not_reboots build hre, hre, Bool.false_eq_true, if_false]
    cases hacc : acceptedPacket s.node e.seen with
    | none =>
      obtain ⟨hplays, hstamp⟩ := handle_unaccepted lib s.node hacc
      refine ⟨hmode, fun h1 => ?_, fun hhalt => ?_⟩
      · obtain ⟨a, ha, hsync⟩ := h.stamped (hplays h1)
        exact ⟨a, ha, hstamp.trans hsync⟩
      · exact (hobeyed.1 (by simpa using hhalt) (by simp [hacc])).1
    | some p =>
      obtain ⟨-, hstate, hsync, -⟩ := accepted_policy lib hacc
      refine ⟨hmode, fun _ => ⟨e.time, rfl, hsync⟩, fun hhalt => ?_⟩
      show (s.node.handle lib e.seen).1.core.currentState ≠ 1
      rw [hstate]
      simp only [Bool.and_eq_true, decide_eq_true_eq] at hhalt
      exact hhalt.2

end Steps

/-! ## All runs -/

/-- **The STOP policy is obeyed** along a run from boot exactly when every round that must stop the clock
catches the link being lost. -/
theorem stopPolicy_iff (lib : UpdateLib) (build : Build) (nvs : Nvs) (boardId : UInt8) (mac : Mac)
    (es : List Timed) :
    Mealy.Guarded (PolicyState.step lib build) (Obeyed lib) { node := boot build nvs boardId mac } es ↔
      Mealy.Guarded (PolicyState.step lib build) (fun s e => Caught s e) { node := boot build nvs boardId mac } es := by
  have hboot : PolicyInv { node := boot build nvs boardId mac } := boot_policyInv nvs boardId mac
  constructor
  · exact Mealy.guarded_of_inv PolicyInv (fun s e h hobeyed => h.step hobeyed)
      (fun s e h hobeyed => (obeyed_iff h).1 hobeyed) hboot
  · exact Mealy.guarded_of_inv PolicyInv (fun s e h hcaught => h.step ((obeyed_iff h).2 hcaught))
      (fun s e h hcaught => (obeyed_iff h).2 hcaught) hboot

/-! ## A switch of policy while freewheeling -/

/-- A build that follows every layer and freewheels on link loss. -/
def freewheelBuild : Build := { wildcardBuild with stopOnLinkLost := false }

/-- A slave plays, freewheels on eleven seconds later, and is told to stop on loss. -/
def stopWhileFreewheeling : List Timed :=
  [⟨1000, .radio { millis := 0 } masterA (clip 5 1 1).toFrame⟩,
    ⟨12000, .task { millis := 0 }⟩,
    ⟨12500, .usb { millis := 0 } ⟨0x04, 0xF0, 0x7D, 0x0D⟩⟩,
    ⟨12500, .usb { millis := 0 } ⟨0x06, 0x01, 0xF7, 0x00⟩⟩]

/-- The round after. -/
def nextRound : Timed := ⟨13000, .task { millis := 0 }⟩

/-- **STOP comes too late.** The link is declared lost while the node freewheels; once the policy is
STOP, the next round still plays. -/
theorem stopWhileFreewheeling_playsOn :
    ¬∀ (lib : UpdateLib) (build : Build) (nvs : Nvs) (boardId : UInt8) (mac : Mac) (es : List Timed),
      Mealy.Guarded (PolicyState.step lib build) (Obeyed lib) { node := boot build nvs boardId mac } es := by
  intro hall
  have hobeyed := hall noUpdate freewheelBuild {} nowdeBoardidAtoms3Lite slaveMac
    (stopWhileFreewheeling ++ [nextRound])
  rw [Mealy.guarded_append] at hobeyed
  have hlast := hobeyed.2.1.1 (Or.inr (by decide +kernel)) (fun p hp => by cases hp)
  exact hlast.1 (by decide +kernel)

end Nowde
