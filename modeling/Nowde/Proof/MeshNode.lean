import Nowde.Proof.Flooding
import Nowde.Proof.Outputs
import Nowde.Proof.TaskLoop

/-!
# A node of the mesh

What one event does to the two tables a node transmits media from: the pending forwards and the
delayed packets. The node is the one in small steps, so a frame may come in between any two parts of
the task loop. Both tables are read off one list of cases each, and the modules on the mesh as a
whole go through these lists only.

* `handle_relay`: the relay is left alone, takes a copy, or has its turn in the task loop.
* `handle_media`: a packet is minted, or the delayed ones have their turn, or neither.
-/

namespace Nowde

/-! ## One copy -/

/-- The forward a copy schedules, in a slot that held `old`. -/
def FloodCandidate.forward (c : FloodCandidate) (env : Env) (old : PendingRelay) : PendingRelay where
  active := true
  sendTime := env.millis + UInt32.ofNat (env.random meshRelayDelayMinMs (meshRelayDelayMaxMs + 1))
  hop := c.hop + 1
  origin := c.origin
  seq := c.seq
  payload := old.payload.blit (c.inner.take mediaSyncSize)
  payloadLen := UInt8.ofNat (c.inner.take mediaSyncSize).length

/-- A copy goes through `handleFloodCandidate`. -/
def FloodCandidate.handle (c : FloodCandidate) (env : Env) (r : Relay) : Relay :=
  handleFloodCandidate env r c.origin c.seq c.hop c.inner c.isRelay

/-- The dedup table holds the number for the origin: the `alreadySeen` of `handleFloodCandidate`. -/
def Relay.remembers (r : Relay) (origin : Mac) (seq : UInt16) : Bool :=
  let found := findOrCreateOrigin r.relayOrigins origin
  (found.1 found.2).valid ∧ (found.1 found.2).lastSeq = seq

/-- What is pending afterwards was pending before. -/
def NoneScheduled (t t' : Fin maxPendingRelays → PendingRelay) : Prop := ∀ i, (t' i).active = true → t' i = t i

section Candidate

variable {env : Env} {r : Relay} {c : FloodCandidate}

theorem FloodCandidate.handle_mac : (c.handle env r).myMacAddress = r.myMacAddress := by
  unfold FloodCandidate.handle handleFloodCandidate
  dsimp only
  split_ifs <;> rfl

/-- What overhearing leaves pending. -/
def FloodCandidate.suppressed (c : FloodCandidate) (t : Fin maxPendingRelays → PendingRelay) :
    Fin maxPendingRelays → PendingRelay :=
  if c.isRelay then suppressPending t c.origin c.seq else t

theorem FloodCandidate.noneScheduled_suppressed (t : Fin maxPendingRelays → PendingRelay) :
    NoneScheduled t (c.suppressed t) := by
  intro i hi
  unfold FloodCandidate.suppressed at hi ⊢
  split at hi
  · next hrelay =>
    rw [if_pos hrelay]
    exact (suppressPending_of_active hi).1
  · next hrelay => rw [if_neg hrelay]

/-- **The pending table after a copy**: overheard first, then scheduled if it is new and has hops left. -/
theorem FloodCandidate.handle_pending (hself : c.origin ≠ r.myMacAddress) :
    (c.handle env r).pendingRelays =
      if r.remembers c.origin c.seq = true ∨ c.hop + 1 > maxHops then c.suppressed r.pendingRelays
      else scheduleForward env (c.suppressed r.pendingRelays) c.origin c.seq (c.hop + 1) (c.inner.take mediaSyncSize) := by
  unfold FloodCandidate.handle handleFloodCandidate
  rw [if_neg hself]
  dsimp only
  have hpending : (if c.isRelay = true then suppressPending r.pendingRelays c.origin c.seq else r.pendingRelays) =
      c.suppressed r.pendingRelays := rfl
  have hremembers : decide (((findOrCreateOrigin r.relayOrigins c.origin).1
      (findOrCreateOrigin r.relayOrigins c.origin).2).valid = true ∧
      ((findOrCreateOrigin r.relayOrigins c.origin).1
        (findOrCreateOrigin r.relayOrigins c.origin).2).lastSeq = c.seq) = r.remembers c.origin c.seq := rfl
  rw [hpending, hremembers]
  by_cases hseen : r.remembers c.origin c.seq = true
  · rw [if_pos hseen, if_pos (Or.inl hseen)]
  · rw [if_neg hseen]
    by_cases hhop : c.hop + 1 > maxHops
    · rw [if_pos hhop, if_pos (Or.inr hhop)]
    · have hnone : ¬(r.remembers c.origin c.seq = true ∨ c.hop + 1 > maxHops) := not_or.2 ⟨hseen, hhop⟩
      rw [if_neg hhop, if_neg hnone]

/-- A copy is scheduled in at most one slot, as its forward. -/
theorem FloodCandidate.handle_cases (env : Env) (r : Relay) (c : FloodCandidate) :
    NoneScheduled r.pendingRelays (c.handle env r).pendingRelays ∨
      (c.origin ≠ r.myMacAddress ∧ c.hop + 1 ≤ maxHops ∧
        ∃ i old, (c.handle env r).pendingRelays i = c.forward env old ∧
          ∀ j, j ≠ i → ((c.handle env r).pendingRelays j).active = true →
            (c.handle env r).pendingRelays j = r.pendingRelays j) := by
  have hless : NoneScheduled r.pendingRelays (c.suppressed r.pendingRelays) := c.noneScheduled_suppressed _
  by_cases hself : c.origin = r.myMacAddress
  · refine Or.inl fun i _ => ?_
    unfold FloodCandidate.handle handleFloodCandidate
    rw [if_pos hself]
  · rw [handle_pending hself]
    by_cases hno : r.remembers c.origin c.seq = true ∨ c.hop + 1 > maxHops
    · rw [if_pos hno]
      exact Or.inl hless
    · rw [if_neg hno]
      unfold scheduleForward
      cases hfree : Slots.find (c.suppressed r.pendingRelays) fun p => !p.active with
      | none => exact Or.inl hless
      | some i =>
        refine Or.inr ⟨hself, UInt8.not_lt.1 (not_or.1 hno).2, i, c.suppressed r.pendingRelays i, ?_, ?_⟩
        · dsimp only
          rw [Function.update_self]
          rfl
        · intro j hj
          dsimp only
          rw [Function.update_of_ne hj]
          exact hless j

/-- A new copy that passes the hop check is scheduled when overhearing leaves a slot idle. -/
theorem FloodCandidate.handle_scheduled (hself : c.origin ≠ r.myMacAddress)
    (hnew : r.remembers c.origin c.seq = false) (hhop : ¬c.hop + 1 > maxHops) {i : Fin maxPendingRelays}
    (hi : (c.suppressed r.pendingRelays i).active = false) :
    ∃ j, (c.suppressed r.pendingRelays j).active = false ∧
      (c.handle env r).pendingRelays =
        Function.update (c.suppressed r.pendingRelays) j (c.forward env (c.suppressed r.pendingRelays j)) := by
  obtain ⟨j, hj⟩ := Slots.find_isSome (t := c.suppressed r.pendingRelays) (p := fun p => !p.active) (i := i)
    (by simp [hi])
  have hgo : ¬(r.remembers c.origin c.seq = true ∨ c.hop + 1 > maxHops) := by
    rw [hnew]
    exact not_or.2 ⟨Bool.false_ne_true, hhop⟩
  refine ⟨j, by simpa using Slots.find_eq_some hj, ?_⟩
  rw [handle_pending hself, if_neg hgo]
  unfold scheduleForward
  rw [hj]
  rfl

/-- A new copy with hops left is scheduled when overhearing leaves a slot idle. -/
theorem FloodCandidate.handle_schedules (hself : c.origin ≠ r.myMacAddress)
    (hnew : r.remembers c.origin c.seq = false) (hhop : c.hop < maxHops)
    (hidle : ∃ i, (c.suppressed r.pendingRelays i).active = false) :
    ∃ i old, (c.handle env r).pendingRelays i = c.forward env old := by
  obtain ⟨i, hi⟩ := hidle
  have hnext : ¬c.hop + 1 > maxHops := by
    have hthree : maxHops.toNat = 3 := rfl
    have hlt := UInt8.lt_iff_toNat_lt.1 hhop
    have hone : (1 : UInt8).toNat = 1 := rfl
    have hadd : (c.hop + 1).toNat = c.hop.toNat + 1 := by
      rw [UInt8.toNat_add, hone]
      omega
    intro hgt
    have hgt := UInt8.lt_iff_toNat_lt.1 hgt
    omega
  obtain ⟨j, -, hj⟩ := @handle_scheduled env r c hself hnew hnext i hi
  refine ⟨j, c.suppressed r.pendingRelays j, ?_⟩
  rw [hj, Function.update_self]

/-- A copy leaves a pending forward alone, unless it is another node's forward of the same packet. -/
theorem FloodCandidate.handle_keeps {i : Fin maxPendingRelays} (hi : (r.pendingRelays i).active = true)
    (hother : c.isRelay = true → (r.pendingRelays i).key ≠ (c.origin, c.seq)) :
    (c.handle env r).pendingRelays i = r.pendingRelays i := by
  have hsupp : c.suppressed r.pendingRelays i = r.pendingRelays i := by
    unfold FloodCandidate.suppressed
    split
    · next hrelay =>
      unfold suppressPending
      rw [if_neg]
      rintro ⟨-, hseq, horigin⟩
      exact hother hrelay (Prod.ext horigin hseq)
    · rfl
  by_cases hself : c.origin = r.myMacAddress
  · unfold FloodCandidate.handle handleFloodCandidate
    rw [if_pos hself]
  · rw [handle_pending hself]
    split
    · exact hsupp
    · unfold scheduleForward
      cases hfree : Slots.find (c.suppressed r.pendingRelays) fun p => !p.active with
      | none => exact hsupp
      | some j =>
        dsimp only
        have hj : (c.suppressed r.pendingRelays j).active = false := by simpa using Slots.find_eq_some hfree
        have hij : i ≠ j := by
          rintro rfl
          rw [hsupp, hi] at hj
          cases hj
        rw [Function.update_of_ne hij]
        exact hsupp

end Candidate

/-! ## One event and the relay -/

/-- What an event does to the relay of a node, up to the handler's return. -/
inductive RelayStep (s : TaskState) : TaskEvent → Node × List Out → Prop
  /-- Nothing, when there is no copy and it is not the relay's turn in the task loop. -/
  | idle {te : TaskEvent} {r : Node × List Out} : (∀ e, te = .task e → s.point ≠ .relays) →
    (∀ e src data, te = .receive e src data → floodCandidate src data = none) →
    r.1.relay = s.node.relay → NoForward r.2 → RelayStep s te r
  /-- It takes the copy of a radio frame. -/
  | copy {e : Env} {src : Mac} {data : List UInt8} {c : FloodCandidate} {r : Node × List Out} :
    floodCandidate src data = some c → r.1.relay = c.handle (s.env e) s.node.relay → NoForward r.2 →
    RelayStep s (.receive e src data) r
  /-- It transmits what is due. -/
  | turn {e : Env} {r : Node × List Out} : s.point = .relays →
    r.1.relay = (processPendingRelays (millisAt s.time) s.node.relay).1 →
    r.2 = (processPendingRelays (millisAt s.time) s.node.relay).2.map (.espNowSend Mac.broadcast) →
    RelayStep s (.task e) r

/-! ## One event and the packets minted -/

/-- A `0x03` frame. -/
def Out.isMedia : Out → Bool
  | .espNowSend _ frame => byteAt frame 0 = espnowMsgMediaSync
  | _ => false

/-- Outputs without a `0x03` frame. -/
def NoMedia (out : List Out) : Prop := ∀ o ∈ out, o.isMedia = false

/-- The packet an event has the node mint: a `MEDIA_SYNC` command on a sender, long enough. -/
def Node.mints (n : Node) (e : Event) : Option MediaSyncPacket :=
  match n.commandOf e with
  | some (.mediaSync, data, length) =>
    if n.senderModeEnabled ∧ length ≥ 27 then some (mintPacket e.env n.mediaSyncSeq data length) else none
  | _ => none

/-- The packet an event has a node mint, whatever its task is at. -/
def TaskState.mints (s : TaskState) : TaskEvent → Option MediaSyncPacket
  | .receive e src data => s.node.mints (.radio (s.env e) src data)
  | .usb e packet => s.node.mints (.usb (s.env e) packet)
  | _ => none

/-- What an event that mints `minted` does to the media a node sends of its own, up to the handler's
return. -/
inductive MediaStep (n : Node) (minted : Option MediaSyncPacket) (r : Node × List Out) : Prop
  | none : minted = none → r.1.delayedPackets = n.delayedPackets → NoMedia r.2 → MediaStep n minted r
  | sent {p : MediaSyncPacket} : minted = some p → r.1.delayedPackets = n.delayedPackets →
    r.2 = [.espNowSend Mac.broadcast p.toFrame] → MediaStep n minted r
  | delayed {p : MediaSyncPacket} (env : Env) (rfSimMaxDelayMs : UInt32) : minted = some p →
    r.1.delayedPackets = delayPacket env rfSimMaxDelayMs n.delayedPackets p.toFrame → r.2 = [] →
    MediaStep n minted r
  | turn (now : UInt32) : minted = none → r.1.delayedPackets = (sendDelayedPackets now n.delayedPackets).1 →
    r.2 = (sendDelayedPackets now n.delayedPackets).2 → MediaStep n minted r

section Media

variable {out out' : List Out} {o : Out}

@[simp] theorem noMedia_nil : NoMedia [] := fun _ h => absurd h (by simp)

@[simp] theorem noMedia_cons : NoMedia (o :: out) ↔ o.isMedia = false ∧ NoMedia out := by simp [NoMedia]

theorem noMedia_host (msgs : List HostMsg) : NoMedia (msgs.map .host) := by
  intro o ho
  obtain ⟨m, -, rfl⟩ := List.mem_map.1 ho
  rfl

variable (lib : UpdateLib) (env : Env) (n : Node)

theorem noted_eqs (e : Event) : (n.noted e).senderModeEnabled = n.senderModeEnabled ∧
    (n.noted e).mediaSyncSeq = n.mediaSyncSeq ∧ (n.noted e).delayedPackets = n.delayedPackets := by
  cases e <;> exact ⟨rfl, rfl, rfl⟩

/-- **A command** mints a packet if it is a `MEDIA_SYNC`, and sends it or has it delayed. -/
theorem handle_media_of_command {e : Event} {c : Command} {data : List UInt8} {length : ℕ}
    (h : n.commandOf e = some (c, data, length)) : MediaStep n (n.mints e) (n.handle lib e) := by
  obtain ⟨hsender, hseq, hdelayed⟩ := noted_eqs n e
  by_cases hc : c = .mediaSync
  · subst hc
    by_cases hmint : n.senderModeEnabled = true ∧ length ≥ 27
    · have hp : n.mints e = some (mintPacket e.env n.mediaSyncSeq data length) := by
        unfold Node.mints
        rw [h]
        exact if_pos hmint
      have hexecute : n.handle lib e = mediaSync e.env (n.noted e) data length := handle_of_command lib n h
      unfold mediaSync at hexecute
      rw [hsender, hseq, if_pos hmint] at hexecute
      dsimp only at hexecute
      split at hexecute
      · rw [hexecute]
        exact .sent hp hdelayed rfl
      · rw [hexecute]
        refine .delayed e.env (n.noted e).rfSimMaxDelayMs hp ?_ rfl
        rw [← hdelayed]
    · have hp : n.mints e = none := by
        unfold Node.mints
        rw [h]
        exact if_neg hmint
      have hexecute : n.handle lib e = mediaSync e.env (n.noted e) data length := handle_of_command lib n h
      unfold mediaSync at hexecute
      rw [hsender, if_neg hmint] at hexecute
      rw [hexecute]
      exact .none hp hdelayed noMedia_nil
  · have hp : n.mints e = none := by
      unfold Node.mints
      rw [h]
      cases c <;> first | rfl | exact absurd rfl hc
    rw [handle_of_command lib n h]
    have hapart := congrArg (·.2.1) (execute_apart lib e.env (n.noted e) data length hc)
    refine .none hp (hapart.trans hdelayed) fun o ho => ?_
    cases execute_out lib e.env _ data length c o ho with
    | minted => exact absurd rfl hc
    | _ => rfl

theorem mediaEffect_delayedPackets (src : Mac) (data : List UInt8) :
    (mediaEffect env n src data).1.delayedPackets = n.delayedPackets := by
  unfold mediaEffect
  split
  · unfold receiveMedia
    split <;> rfl
  · rfl

/-- **A radio frame or a USB packet without a command** mints nothing. -/
theorem handle_media_of_none {e : Event} (h : n.commandOf e = none) (htask : ∀ env, e ≠ .task env) :
    MediaStep n (n.mints e) (n.handle lib e) := by
  have hp : n.mints e = none := by
    unfold Node.mints
    rw [h]
  cases e with
  | task env => exact absurd rfl (htask env)
  | usb env packet =>
    obtain ⟨hnode, hout⟩ := midiPacket_of_none lib env n h
    refine .none hp ?_ fun o ho => ?_
    · simp only [Node.handle, hnode]
      rfl
    · obtain ⟨a, b, l, rfl⟩ := hout o ho
      rfl
  | radio env src data =>
    have hnone : radioCommand data = none := by simpa [Node.commandOf] using h
    simp only [Node.handle]
    rcases onDataRecv_cases lib env n src data with
      ⟨-, -, -, hrecv⟩ | ⟨-, -, -, hrecv⟩ | ⟨-, -, -, hsysex, hrecv⟩ | ⟨-, -, relay, hrecv⟩
    · rw [hrecv]
      refine .none hp rfl fun o ho => ?_
      cases handleSenderBeacon_out env n.senderTable src o ho <;> rfl
    · rw [hrecv]
      refine .none hp rfl fun o ho => ?_
      cases handleReceiverInfo_out env n.receiverTable src data o ho <;> rfl
    · unfold radioCommand at hnone
      rw [if_pos hsysex] at hnone
      rw [hrecv, handleSysExMessage_of_none lib env n hnone]
      refine .none hp rfl fun o ho => ?_
      obtain ⟨a, b, l, rfl⟩ := sysexRejection_out _ _ o ho
      rfl
    · rw [hrecv]
      refine .none hp (mediaEffect_delayedPackets env n src data) fun o ho => ?_
      obtain ⟨h, rfl⟩ := mediaEffect_out env n src data o ho
      rfl

theorem relayTick_media : NoMedia (relayTick env n).2 := by
  intro o ho
  obtain ⟨i, -, rfl⟩ := mem_relayTick env n ho
  rfl

/-- **A radio frame or a USB packet** has media sent only if it mints it. -/
theorem handle_media_of_not_task {e : Event} (htask : ∀ env, e ≠ .task env) :
    MediaStep n (n.mints e) (n.handle lib e) := by
  cases hcmd : n.commandOf e with
  | some k =>
    obtain ⟨c, data, length⟩ := k
    exact handle_media_of_command lib n hcmd
  | none => exact handle_media_of_none lib n hcmd htask

/-! ## The parts of the task loop -/

section Task

variable (s : TaskState) (e : Env)

theorem senderBeacon_noMedia (now : UInt32) : NoMedia (senderBeacon now n).2 := by
  unfold senderBeacon
  split
  · exact noMedia_cons.2 ⟨rfl, noMedia_nil⟩
  · exact noMedia_nil

theorem receiverBeacon_noMedia (now : UInt32) : NoMedia (receiverBeacon now env n).2 := by
  unfold receiverBeacon
  split
  · intro o ho
    obtain ⟨i, -, rfl⟩ := mem_sendReceiverInfo env _ ho
    rfl
  · exact noMedia_nil

theorem meshResyncTick_noMedia : NoMedia (meshResyncTick env n).2 := by
  unfold meshResyncTick
  dsimp only
  split_ifs <;> simp [Out.isMedia]

/-- **A step of the task** is the relay's turn, or that of the delayed packets, or neither. -/
theorem task_cases :
    (s.point = .relays ∧ (s.task e).1.node = (relayTick (s.env e) s.node).1 ∧
        (s.task e).2 = (relayTick (s.env e) s.node).2) ∨
      (s.point = .delayed ∧ (s.task e).1.node = (delayedTick (millisAt s.now) s.node).1 ∧
        (s.task e).2 = (delayedTick (millisAt s.now) s.node).2) ∨
      (s.point ≠ .relays ∧ (s.task e).1.node.relay = s.node.relay ∧
        (s.task e).1.node.delayedPackets = s.node.delayedPackets ∧ NoForward (s.task e).2 ∧ NoMedia (s.task e).2) := by
  cases hpoint : s.point with
  | relays =>
    refine Or.inl ⟨rfl, ?_, ?_⟩ <;> simp only [TaskState.task, hpoint, TaskState.goto]
  | delayed =>
    refine Or.inr (Or.inl ⟨rfl, ?_, ?_⟩) <;> simp only [TaskState.task, hpoint, TaskState.goto]
  | top =>
    refine Or.inr (Or.inr ⟨by simp, ?_⟩)
    simp only [TaskState.task, hpoint, TaskState.goto]
    split
    · obtain ⟨hrelay, hdelayed, hnone⟩ := senderBeacon_sends s.node (millisAt s.time)
      exact ⟨hrelay, hdelayed, hnone, senderBeacon_noMedia s.node _⟩
    · exact ⟨rfl, rfl, noForward_nil, noMedia_nil⟩
  | receivers =>
    refine Or.inr (Or.inr ⟨by simp, ?_⟩)
    simp only [TaskState.task, hpoint]
    exact ⟨trivial, trivial, noForward_nil, noMedia_nil⟩
  | receiver i =>
    refine Or.inr (Or.inr ⟨by simp, ?_⟩)
    simp only [TaskState.task, hpoint, TaskState.goto]
    split <;> exact ⟨trivial, trivial, by simp [Out.isForward], by simp [Out.isMedia]⟩
  | senders =>
    refine Or.inr (Or.inr ⟨by simp, ?_⟩)
    simp only [TaskState.task, hpoint]
    obtain ⟨hrelay, hdelayed, hnone⟩ := receiverBeacon_sends (s.env e) s.node (millisAt s.now)
    exact ⟨hrelay, hdelayed, hnone, receiverBeacon_noMedia (s.env e) s.node _⟩
  | sender i =>
    refine Or.inr (Or.inr ⟨by simp, ?_⟩)
    simp only [TaskState.task, hpoint, TaskState.goto]
    split <;> exact ⟨trivial, trivial, by simp [Out.isForward], by simp [Out.isMedia]⟩
  | link =>
    refine Or.inr (Or.inr ⟨by simp, ?_⟩)
    simp only [TaskState.task, hpoint, TaskState.goto]
    exact ⟨trivial, trivial, noForward_host _, noMedia_host _⟩
  | mtc =>
    refine Or.inr (Or.inr ⟨by simp, ?_⟩)
    simp only [TaskState.task, hpoint, TaskState.goto]
    exact ⟨trivial, trivial, noForward_host _, noMedia_host _⟩
  | resync =>
    refine Or.inr (Or.inr ⟨by simp, ?_⟩)
    simp only [TaskState.task, hpoint, TaskState.goto]
    obtain ⟨hrelay, hdelayed, hnone⟩ := meshResyncTick_sends (s.env e) s.node
    exact ⟨hrelay, hdelayed, hnone, meshResyncTick_noMedia (s.env e) s.node⟩

end Task

variable {n}
variable {minted : Option MediaSyncPacket} {r : Node × List Out}

/-- A `0x03` frame is a packet just minted, or a delayed one. -/
theorem MediaStep.media_out (h : MediaStep n minted r) {dest : Mac} {frame : List UInt8}
    (hmem : Out.espNowSend dest frame ∈ r.2) (hthree : byteAt frame 0 = espnowMsgMediaSync) :
    (∃ p, minted = some p ∧ dest = Mac.broadcast ∧ frame = p.toFrame) ∨
      ∃ i, (n.delayedPackets i).active = true ∧ (n.delayedPackets i).receiverMac = dest ∧
        (n.delayedPackets i).packet = frame := by
  have hyes : (Out.espNowSend dest frame).isMedia = true := by simpa [Out.isMedia] using hthree
  have hno : ∀ {out : List Out}, NoMedia out → Out.espNowSend dest frame ∉ out := by
    intro out hout hin
    rw [hout _ hin] at hyes
    cases hyes
  cases h with
  | none _ _ hnone => exact absurd hmem (hno hnone)
  | sent hp _ hout =>
    rw [hout, List.mem_singleton] at hmem
    cases hmem
    exact Or.inl ⟨_, hp, rfl, rfl⟩
  | delayed _ _ _ _ hout =>
    rw [hout] at hmem
    cases hmem
  | turn now _ _ hout =>
    rw [hout] at hmem
    obtain ⟨i, hdue, heq⟩ := mem_sendDelayedPackets hmem
    cases heq
    exact Or.inr ⟨i, hdue.1, rfl, rfl⟩

/-- A packet is delayed since before, or just minted. -/
theorem MediaStep.delayed_after (h : MediaStep n minted r) {i : Fin maxDelayedPackets}
    (hi : (r.1.delayedPackets i).active = true) :
    r.1.delayedPackets i = n.delayedPackets i ∨
      ∃ p, minted = some p ∧ (r.1.delayedPackets i).receiverMac = Mac.broadcast ∧
        (r.1.delayedPackets i).packet = p.toFrame := by
  cases h with
  | none _ hsame => exact Or.inl (by rw [hsame])
  | sent _ hsame => exact Or.inl (by rw [hsame])
  | delayed env d hp hdelay =>
    rw [hdelay]
    unfold delayPacket
    cases Slots.find n.delayedPackets fun d => !d.active with
    | none => exact Or.inl rfl
    | some j =>
      by_cases hij : i = j
      · subst hij
        refine Or.inr ⟨_, hp, ?_, ?_⟩
        · simp
        · simp
      · exact Or.inl (Function.update_of_ne hij _ _)
  | turn now _ hturn =>
    rw [hturn] at hi ⊢
    unfold sendDelayedPackets at hi ⊢
    dsimp only at hi ⊢
    split at hi
    · cases hi
    · next hdue =>
      rw [if_neg hdue]
      exact Or.inl rfl

/-- A delayed packet stays delayed or is sent. -/
theorem MediaStep.waits_or_sent (h : MediaStep n minted r) {i : Fin maxDelayedPackets}
    (hi : (n.delayedPackets i).active = true) :
    r.1.delayedPackets i = n.delayedPackets i ∨
      Out.espNowSend (n.delayedPackets i).receiverMac (n.delayedPackets i).packet ∈ r.2 := by
  cases h with
  | none _ hsame => exact Or.inl (by rw [hsame])
  | sent _ hsame => exact Or.inl (by rw [hsame])
  | delayed env d hp hdelay =>
    left
    rw [hdelay]
    unfold delayPacket
    cases hfree : Slots.find n.delayedPackets fun d => !d.active with
    | none => rfl
    | some j =>
      have hj : (n.delayedPackets j).active = false := by simpa using Slots.find_eq_some hfree
      have hij : i ≠ j := by
        intro hij
        rw [hij, hj] at hi
        cases hi
      exact Function.update_of_ne hij _ _
  | turn now _ hturn hout =>
    rw [hturn, hout]
    unfold sendDelayedPackets
    dsimp only
    by_cases hdue : (n.delayedPackets i).active = true ∧ now ≥ (n.delayedPackets i).sendTime
    · right
      apply Slots.mem_collect.2
      exact ⟨i, if_pos hdue⟩
    · left
      exact if_neg hdue

/-- A packet minted is sent or delayed, when a slot is idle. -/
theorem MediaStep.minted_out {p : MediaSyncPacket} (h : MediaStep n (some p) r)
    (hidle : ∃ i, (n.delayedPackets i).active = false) :
    Out.espNowSend Mac.broadcast p.toFrame ∈ r.2 ∨
      ∃ i, (r.1.delayedPackets i).active = true ∧ (r.1.delayedPackets i).packet = p.toFrame := by
  cases h with
  | none hp => cases hp
  | turn now hp => cases hp
  | sent hp _ hout =>
    left
    cases hp
    rw [hout]
    exact List.mem_singleton_self _
  | delayed env d hp hdelay _ =>
    right
    cases hp
    obtain ⟨i, hi⟩ := hidle
    obtain ⟨j, hj⟩ := Slots.find_isSome (t := n.delayedPackets) (p := fun d => !d.active) (i := i) (by simp [hi])
    refine ⟨j, ?_⟩
    rw [hdelay]
    unfold delayPacket
    rw [hj]
    simp only [Function.update_self, and_self]

/-- The packets that wait to be sent. -/
def Node.waiting (n : Node) : ℕ := Slots.count n.delayedPackets DelayedMediaSyncPacket.active

/-- **Each packet is sent or waits once**: an event sends and leaves waiting no more than waited before
it or was minted in it. -/
theorem MediaStep.count (h : MediaStep n minted r) :
    r.2.countP Out.isMedia + r.1.waiting ≤ n.waiting + minted.toList.length := by
  unfold Node.waiting
  cases h with
  | none _ hsame hnone =>
    have hzero : r.2.countP Out.isMedia = 0 :=
      List.countP_eq_zero.2 fun o ho => by simp [hnone o ho]
    rw [hsame, hzero]
    omega
  | @sent p hp hsame hout =>
    have hone : r.2.countP Out.isMedia = 1 := by
      rw [hout]
      rfl
    rw [hsame, hone, hp]
    simp only [Option.toList_some, List.length_singleton]
    omega
  | @delayed p env d hp hdelay hout =>
    have hzero : r.2.countP Out.isMedia = 0 := by rw [hout, List.countP_nil]
    have hle : Slots.count r.1.delayedPackets DelayedMediaSyncPacket.active ≤
        Slots.count n.delayedPackets DelayedMediaSyncPacket.active + 1 := by
      rw [hdelay]
      unfold delayPacket
      split
      · omega
      · exact Slots.count_update_le _ _ _ _
    rw [hzero, hp]
    simp only [Option.toList_some, List.length_singleton]
    omega
  | turn now _ hturn hout =>
    have hle : (sendDelayedPackets now n.delayedPackets).2.length +
        Slots.count (sendDelayedPackets now n.delayedPackets).1 DelayedMediaSyncPacket.active ≤
        Slots.count n.delayedPackets DelayedMediaSyncPacket.active := by
      unfold sendDelayedPackets
      dsimp only
      refine Slots.length_collect_add_count_le n.delayedPackets
        (g := fun d => if d.active ∧ now ≥ d.sendTime then { d with active := false } else d) ?_ ?_
      · intro d hd
        by_cases hdue : d.active = true ∧ now ≥ d.sendTime
        · rw [if_pos hdue]
          exact ⟨hdue.1, rfl⟩
        · rw [if_neg hdue] at hd
          exact absurd rfl hd
      · intro d hd
        by_cases hdue : d.active = true ∧ now ≥ d.sendTime
        · exact hdue.1
        · rwa [if_neg hdue] at hd
    have hcount := List.countP_le_length (p := Out.isMedia) (l := (sendDelayedPackets now n.delayedPackets).2)
    rw [hturn, hout]
    omega

end Media

/-! ## Any event -/

section Step

variable (lib : UpdateLib) (build : Build) (s : TaskState) (te : TaskEvent)

/-- **What an event does to the relay**, while delayed packets are media packets. -/
theorem handle_relay (h : DelaysMedia s.node.delayedPackets) :
    RelayStep s te ((s.handle lib te).1.node, (s.handle lib te).2) := by
  cases te with
  | pass ms => exact .idle (fun _ htask => by cases htask) (fun _ _ _ hreceive => by cases hreceive) rfl noForward_nil
  | receive e src data =>
    have hnone : NoForward (onDataRecv lib (s.env e) s.node src data).2 :=
      (onDataRecv_sendsNone lib (s.env e) s.node src data).noForward h
    have hrelay := onDataRecv_relay lib (s.env e) s.node src data
    cases hc : floodCandidate src data with
    | none =>
      rw [hc] at hrelay
      refine .idle (fun _ htask => by cases htask) (fun _ _ _ hreceive => ?_) hrelay hnone
      cases hreceive
      exact hc
    | some c =>
      rw [hc] at hrelay
      exact .copy hc hrelay hnone
  | usb e packet =>
    have hspec := midiPacket_spec lib (s.env e) s.node packet
    exact .idle (fun _ htask => by cases htask) (fun _ _ _ hreceive => by cases hreceive) hspec.relay hspec.noForward
  | task e =>
    rcases task_cases s e with ⟨hpoint, hnode, hout⟩ | ⟨hpoint, hnode, hout⟩ | ⟨hpoint, hrelay, -, hnone, -⟩
    · refine .turn hpoint ?_ hout
      simp only [TaskState.handle, hnode]
      rfl
    · have hleaves := delayedTick_leavesRelay s.node (millisAt s.now)
      refine .idle (fun _ _ => by simp [hpoint]) (fun _ _ _ hreceive => by cases hreceive) ?_ ?_
      · simp only [TaskState.handle, hnode]
        exact hleaves.relay
      · simp only [TaskState.handle, hout]
        exact hleaves.noForward h
    · exact .idle (fun _ _ => hpoint) (fun _ _ _ hreceive => by cases hreceive) hrelay hnone

/-- **What an event does to the media a node sends of its own.** -/
theorem handle_media : MediaStep s.node (s.mints te) ((s.handle lib te).1.node, (s.handle lib te).2) := by
  cases te with
  | pass ms => exact .none rfl rfl noMedia_nil
  | receive e src data => exact handle_media_of_not_task lib s.node fun _ => by simp
  | usb e packet => exact handle_media_of_not_task lib s.node fun _ => by simp
  | task e =>
    rcases task_cases s e with ⟨-, hnode, hout⟩ | ⟨-, hnode, hout⟩ | ⟨-, -, hdelayed, -, hnone⟩
    · refine .none rfl ?_ ?_
      · simp only [TaskState.handle, hnode]
        rfl
      · simp only [TaskState.handle, hout]
        exact relayTick_media (s.env e) s.node
    · unfold delayedTick at hnode hout
      by_cases hsim : s.node.rfSimulationEnabled = true
      · rw [if_pos hsim] at hnode hout
        refine .turn (millisAt s.now) rfl ?_ hout
        simp only [TaskState.handle, hnode]
      · rw [if_neg hsim] at hnode hout
        refine .none rfl ?_ ?_
        · simp only [TaskState.handle, hnode]
        · simp only [TaskState.handle, hout]
          exact noMedia_nil
    · exact .none rfl hdelayed hnone

theorem handle_mac (h : DelaysMedia s.node.delayedPackets) :
    (s.handle lib te).1.node.relay.myMacAddress = s.node.relay.myMacAddress := by
  have hstep := handle_relay lib s te h
  generalize hr : ((s.handle lib te).1.node, (s.handle lib te).2) = r at hstep
  have hnode : (s.handle lib te).1.node = r.1 := by rw [← hr]
  rw [hnode]
  cases hstep with
  | idle _ _ hrelay => rw [hrelay]
  | copy _ hrelay =>
    rw [hrelay]
    exact FloodCandidate.handle_mac
  | turn _ hrelay =>
    rw [hrelay]
    rfl

/-! ## Reboots -/

theorem step_out : (s.step lib build te).2 = (s.handle lib te).2 := by
  unfold TaskState.step
  dsimp only
  split <;> rfl

/-- A step is what the handler does, unless the node reboots. -/
theorem step_cases : (reboots (s.handle lib te).2 = false ∧ s.step lib build te = s.handle lib te) ∨
    (reboots (s.handle lib te).2 = true ∧ ∃ nvs boardId, (s.step lib build te).1.node =
      boot build nvs boardId (s.handle lib te).1.node.relay.myMacAddress) := by
  unfold TaskState.step
  dsimp only
  cases hreboots : reboots (s.handle lib te).2 with
  | true => exact Or.inr ⟨rfl, _, _, rfl⟩
  | false => exact Or.inl ⟨rfl, rfl⟩

theorem boot_delayedPackets (nvs : Nvs) (boardId : UInt8) (mac : Mac) :
    (boot build nvs boardId mac).delayedPackets = fun _ => {} := by
  unfold boot applyRole
  dsimp only
  split_ifs <;> rfl

/-- A reboot leaves nothing pending. -/
theorem step_pending {i : Fin maxPendingRelays}
    (hi : ((s.step lib build te).1.node.relay.pendingRelays i).active = true) :
    (s.step lib build te).1.node.relay.pendingRelays i = (s.handle lib te).1.node.relay.pendingRelays i := by
  rcases step_cases lib build s te with ⟨-, hstep⟩ | ⟨-, nvs, boardId, hboot⟩
  · rw [hstep]
  · rw [hboot, boot_relay] at hi
    cases hi

/-- Nor a packet delayed. -/
theorem step_delayed {i : Fin maxDelayedPackets}
    (hi : ((s.step lib build te).1.node.delayedPackets i).active = true) :
    (s.step lib build te).1.node.delayedPackets i = (s.handle lib te).1.node.delayedPackets i := by
  rcases step_cases lib build s te with ⟨-, hstep⟩ | ⟨-, nvs, boardId, hboot⟩
  · rw [hstep]
  · rw [hboot, boot_delayedPackets] at hi
    cases hi

theorem step_waiting : (s.step lib build te).1.node.waiting ≤ (s.handle lib te).1.node.waiting := by
  rcases step_cases lib build s te with ⟨-, hstep⟩ | ⟨-, nvs, boardId, hboot⟩
  · rw [hstep]
  · have hzero : (s.step lib build te).1.node.waiting = 0 := by
      rw [hboot, Node.waiting, boot_delayedPackets]
      exact List.countP_eq_zero.2 fun _ _ => by simp
    omega

theorem step_mac (h : DelaysMedia s.node.delayedPackets) :
    (s.step lib build te).1.node.relay.myMacAddress = s.node.relay.myMacAddress := by
  rcases step_cases lib build s te with ⟨-, hstep⟩ | ⟨-, nvs, boardId, hboot⟩
  · rw [hstep]
    exact handle_mac lib s te h
  · rw [hboot, boot_relay]
    exact handle_mac lib s te h

end Step

end Nowde
