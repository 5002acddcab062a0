import Nowde.Lib.Ledger
import Nowde.Proof.Deadlines
import Nowde.Spec.Tools

/-!
# The delayed packets of RF simulation

`MEDIA_SYNC` queues a packet while RF simulation is on, and the task loop sends what is due while it and
sender mode are on. Nothing clears the queue when either is switched off. A `SimState` has beside the
node a ledger of the packets queued and all that the task loop has broadcast from the queue.

* `espnowTask_media`: the media of a round is what it finds due in the queue.
* `round_inv`, `queue_inv`: what a round and any other event do to the queue.
* `staleMedia_iff`: each packet is broadcast once at most and within its delay and a round **exactly** when
  the task loop, whenever it comes back to the queue, finds no packet that is older.
* `switchedOff_replayed`: a packet queued before RF simulation was switched off comes out afterwards.
-/

namespace Nowde

/-! ## The queue -/

/-- A packet as it is queued: its bytes, when, and the maximum delay then in force. -/
structure QueuedPacket where
  packet : List UInt8
  queuedAt : ℕ
  maxDelay : ℕ

/-- The slot an event has queued a packet in. -/
def Node.queuedSlot (n m : Node) : Option (Fin maxDelayedPackets) :=
  (List.finRange maxDelayedPackets).find? fun i => (m.delayedPackets i).active && !(n.delayedPackets i).active

/-- The slots a round has sent. -/
def Node.sentSlots (n m : Node) : List (Fin maxDelayedPackets) :=
  (List.finRange maxDelayedPackets).filter fun i => (n.delayedPackets i).active && !(m.delayedPackets i).active

section Queued

variable {n m : Node}

theorem queuedSlot_of_same (h : m.delayedPackets = n.delayedPackets) : n.queuedSlot m = none := by
  unfold Node.queuedSlot
  rw [List.find?_eq_none]
  intro i _
  rw [h]
  simp

theorem queuedSlot_of_update {j : Fin maxDelayedPackets} {d : DelayedMediaSyncPacket}
    (h : m.delayedPackets = Function.update n.delayedPackets j d) (hd : d.active = true)
    (hj : (n.delayedPackets j).active = false) : n.queuedSlot m = some j := by
  unfold Node.queuedSlot
  have honly : ∀ i, ((m.delayedPackets i).active && !(n.delayedPackets i).active) = true → i = j := by
    intro i hi
    by_contra hij
    rw [h, Function.update_of_ne hij, Bool.and_not_self] at hi
    cases hi
  cases hfind : (List.finRange maxDelayedPackets).find? fun i =>
      (m.delayedPackets i).active && !(n.delayedPackets i).active with
  | some i =>
    have hi := List.find?_some hfind
    rw [honly i hi]
  | none =>
    have hno := List.find?_eq_none.1 hfind j (List.mem_finRange j)
    rw [h, Function.update_self, hd, hj] at hno
    exact absurd rfl hno

end Queued

section Round

variable (env : Env) (n : Node)

theorem NoMedia.filter {out : List Out} (h : NoMedia out) : out.filter Out.isMedia = [] :=
  List.filter_eq_nil_iff.2 fun o ho => by simp [h o ho]

theorem receiverModeTick_noMedia : NoMedia (receiverModeTick env n).2 := by
  intro o ho
  rcases mem_receiverModeTick ho with hbeacon | ⟨mac, rfl⟩ | ⟨m, -, rfl⟩ | rfl | rfl
  · exact receiverBeacon_noMedia env n env.millis o hbeacon
  all_goals rfl

/-- The sender's part sends the delayed packets that are due, and no other media. -/
theorem senderTick_media (h : DelaysMedia n.delayedPackets) : (senderTick env n).2.filter Out.isMedia =
    if n.rfSimulationEnabled then (sendDelayedPackets env.millis n.delayedPackets).2 else [] := by
  obtain ⟨-, hdelayed, -⟩ := senderBeacon_sends n env.millis
  obtain ⟨-, hsim, -⟩ := senderBeacon_timers n env.millis
  have hpeers : NoMedia (cleanupReceiverTable env.millis (senderBeacon env.millis n).1.receiverTable).2 := by
    intro o ho
    obtain ⟨i, -, rfl⟩ := mem_cleanupReceiverTable ho
    rfl
  unfold senderTick delayedTick
  dsimp only
  rw [List.filter_append, List.filter_append, (senderBeacon_noMedia n env.millis).filter, hpeers.filter, hsim,
    hdelayed, List.nil_append, List.nil_append]
  split
  · refine List.filter_eq_self.2 fun o ho => ?_
    obtain ⟨i, hdue, rfl⟩ := mem_sendDelayedPackets ho
    simpa [Out.isMedia] using h i hdue.1
  · rfl

/-- **The media of a round** is what it finds due in the queue. -/
theorem espnowTask_media (h : DelaysMedia n.delayedPackets) : (espnowTask env n).2.filter Out.isMedia =
    if n.Draining then (sendDelayedPackets env.millis n.delayedPackets).2 else [] := by
  obtain ⟨s, r, hs, hr, htask⟩ := espnowTask_parts env n
  have hsender : s.2.filter Out.isMedia =
      if n.Draining then (sendDelayedPackets env.millis n.delayedPackets).2 else [] := by
    rcases hs with ⟨hon, rfl⟩ | ⟨hoff, rfl⟩
    · rw [senderTick_media env n h]
      by_cases hsim : n.rfSimulationEnabled = true
      · rw [if_pos hsim, if_pos ⟨hon, hsim⟩]
      · rw [if_neg hsim, if_neg fun hd => hsim hd.2]
    · have hidle : ¬n.Draining := fun hd => by simp [hoff, Node.Draining] at hd
      rw [if_neg hidle]
      rfl
  have hreceiver : r.2.filter Out.isMedia = [] := by
    rcases hr with ⟨-, rfl⟩ | ⟨-, rfl⟩
    · exact (receiverModeTick_noMedia env s.1).filter
    · rfl
  rcases htask with ⟨-, htask⟩ | ⟨-, htask⟩
  · rw [htask, List.filter_append, hsender, hreceiver, List.append_nil]
  · rw [htask, List.filter_append, List.filter_append, hsender, hreceiver, (relayTick_media env r.1).filter,
      List.append_nil, List.append_nil]

end Round

/-- What a round sends it sends from the slots it clears. -/
theorem mem_sentSlots {env : Env} {n : Node} {i : Fin maxDelayedPackets} :
    i ∈ n.sentSlots (espnowTask env n).1 ↔
      n.Draining ∧ (n.delayedPackets i).active = true ∧ (n.delayedPackets i).sendTime ≤ env.millis := by
  unfold Node.sentSlots
  rw [List.mem_filter, Bool.and_eq_true, Bool.not_eq_true', espnowTask_delayedPackets]
  by_cases hdrain : n.Draining
  · rw [if_pos hdrain]
    unfold sendDelayedPackets
    dsimp only
    by_cases hdue : (n.delayedPackets i).active = true ∧ env.millis ≥ (n.delayedPackets i).sendTime
    · rw [if_pos hdue]
      exact ⟨fun _ => ⟨hdrain, hdue⟩, fun _ => ⟨List.mem_finRange i, hdue.1, rfl⟩⟩
    · rw [if_neg hdue]
      refine ⟨fun h => ?_, fun h => absurd h.2 hdue⟩
      have hboth := h.2
      rw [hboth.1] at hboth
      exact absurd hboth.2 (by simp)
  · rw [if_neg hdrain]
    refine ⟨fun h => ?_, fun h => absurd h.1 hdrain⟩
    have hboth := h.2
    rw [hboth.1] at hboth
    exact absurd hboth.2 (by simp)

/-- What is still queued after a round was not sent. -/
theorem not_mem_sentSlots {env : Env} {n : Node} {i : Fin maxDelayedPackets}
    (hi : ((espnowTask env n).1.delayedPackets i).active = true) : i ∉ n.sentSlots (espnowTask env n).1 := by
  intro hmem
  have hboth := (List.mem_filter.1 hmem).2
  rw [hi, Bool.not_true, Bool.and_false] at hboth
  cases hboth

/-- Two lists read off one, item by item. -/
theorem forall₂_filterMap {ι α β : Type*} {R : α → β → Prop} {f : ι → Option α} {g : ι → Option β} {q : ι → Bool}
    {l : List ι} (hyes : ∀ i ∈ l, q i = true → ∃ x a, f i = some x ∧ g i = some a ∧ R x a)
    (hno : ∀ i ∈ l, q i = false → f i = none) : List.Forall₂ R (l.filterMap f) ((l.filter q).filterMap g) := by
  induction l with
  | nil => exact List.Forall₂.nil
  | cons i l ih =>
    have hrest := ih (fun j hj => hyes j (List.mem_cons_of_mem _ hj)) fun j hj => hno j (List.mem_cons_of_mem _ hj)
    cases hq : q i with
    | true =>
      obtain ⟨x, a, hx, ha, hR⟩ := hyes i List.mem_cons_self hq
      rw [List.filterMap_cons_some hx, List.filter_cons_of_pos hq, List.filterMap_cons_some ha]
      exact List.Forall₂.cons hR hrest
    | false =>
      rw [List.filterMap_cons_none (hno i List.mem_cons_self hq), List.filter_cons_of_neg (by simp [hq])]
      exact hrest

/-! ## Runs -/

/-- A node, the true time since boot, the last round of the task loop and whether that one sent what was
due, the ledger of the packets queued, and what the task loop has broadcast from the queue, with the times. -/
structure SimState where
  node : Node
  time : ℕ := 0
  lastRound : ℕ := 0
  drained : Bool := true
  queue : Ledger maxDelayedPackets QueuedPacket := {}
  sent : List (ℕ × Out) := []

namespace SimState

/-- The ledger after an event that has left the node as `m`. -/
def queued (s : SimState) (m : Node) : Ledger maxDelayedPackets QueuedPacket :=
  match s.node.queuedSlot m with
  | some i => s.queue.put i ⟨(m.delayedPackets i).packet, s.time, s.node.rfSimMaxDelayMs.toNat⟩
  | none => s.queue

/-- A round of the task loop. -/
def round (env : Env) (s : SimState) : SimState × List Out :=
  let r := espnowTask (env.at s.time) s.node
  ({ s with
      node := r.1
      lastRound := s.time
      drained := s.node.Draining
      queue := s.queue.takeAll (s.node.sentSlots r.1)
      sent := s.sent ++ (r.2.filter Out.isMedia).map fun o => (s.time, o) }, r.2)

/-- One event, up to the handler's return. -/
def handle (lib : UpdateLib) (s : SimState) : ClockEvent → SimState × List Out
  | .pass ms => ({ s with time := s.time + ms }, [])
  | .event (.task env) => s.round env
  | .event e =>
    let r := s.node.handle lib (e.at s.time)
    ({ s with node := r.1, queue := s.queued r.1 }, r.2)

/-- One event, with the reboot it may bring, in which all that is queued is lost. -/
def step (lib : UpdateLib) (build : Build) (s : SimState) (e : ClockEvent) : SimState × List Out :=
  let r := s.handle lib e
  if reboots r.2 then
    ({ node := boot build r.1.node.nvs r.1.node.boardId r.1.node.relay.myMacAddress
       queue := r.1.queue.clear
       sent := r.1.sent }, r.2)
  else r

end SimState

/-- A broadcast is of packet `a`, no earlier than it was queued and no later than its maximum delay and one
round after that. -/
def InTime (issued : List QueuedPacket) (x : ℕ × Out) (a : ℕ) : Prop :=
  ∃ p ∈ issued[a]?, x.2 = .espNowSend Mac.broadcast p.packet ∧ p.queuedAt ≤ x.1 ∧ x.1 ≤ p.queuedAt + p.maxDelay + 20

/-- What was broadcast from the queue are packets queued, each once and in time. -/
structure NoReplay (s : SimState) : Prop where
  once : s.queue.taken.Nodup
  inTime : List.Forall₂ (InTime s.queue.issued) s.sent s.queue.taken

/-- Rounds are at most 20 ms apart, and `millis()` has not wrapped. -/
def Steady (s : SimState) : ClockEvent → Prop
  | .event (.task _) => s.time < 2 ^ 32 ∧ s.time ≤ s.lastRound + 20
  | _ => True

instance (s : SimState) : ∀ e, Decidable (Steady s e)
  | .pass _ | .event (.radio ..) | .event (.usb ..) => isTrue trivial
  | .event (.task _) => inferInstanceAs (Decidable (s.time < 2 ^ 32 ∧ s.time ≤ s.lastRound + 20))

/-- A round that comes back to the queue, after one that did not send, finds no packet older than its
maximum delay and one round. -/
def ResumesFresh (s : SimState) : ClockEvent → Prop
  | .event (.task _) => s.node.Draining → s.drained = false → ∀ i, (s.node.delayedPackets i).active = true →
      ∀ p ∈ s.queue.item i, s.time ≤ p.queuedAt + p.maxDelay + 20
  | _ => True

/-- The queue and its ledger. `fresh` is what the last round has seen to. -/
structure SimInv (s : SimState) : Prop where
  wf : s.queue.WF
  held : ∀ i, (s.node.delayedPackets i).active = true → ∃ p ∈ s.queue.item i,
    p.packet = (s.node.delayedPackets i).packet ∧ (s.node.delayedPackets i).receiverMac = Mac.broadcast ∧
      p.queuedAt ≤ s.time ∧ (s.node.delayedPackets i).sendTime.toNat ≤ p.queuedAt + p.maxDelay
  idle : ∀ i, (s.node.delayedPackets i).active = false → s.queue.holder i = none
  fresh : s.drained = true → ∀ i, (s.node.delayedPackets i).active = true →
    ∀ p ∈ s.queue.item i, s.lastRound ≤ p.queuedAt + p.maxDelay
  inTime : List.Forall₂ (InTime s.queue.issued) s.sent s.queue.taken
  past : s.lastRound ≤ s.time
  media : DelaysMedia s.node.delayedPackets

section Run

variable {lib : UpdateLib} {build : Build} {s : SimState}

theorem SimInv.noReplay (h : SimInv s) : NoReplay s := ⟨h.wf.once, h.inTime⟩

theorem boot_simInv (build : Build) (nvs : Nvs) (boardId : UInt8) (mac : Mac)
    {queue : Ledger maxDelayedPackets QueuedPacket} {sent : List (ℕ × Out)} (hwf : queue.WF)
    (hempty : ∀ i, queue.holder i = none) (hsent : List.Forall₂ (InTime queue.issued) sent queue.taken) :
    SimInv { node := boot build nvs boardId mac, queue := queue, sent := sent } := by
  have hidle : ∀ i, ((boot build nvs boardId mac).delayedPackets i).active ≠ true := by
    intro i
    rw [boot_delayedPackets]
    exact Bool.false_ne_true
  exact ⟨hwf, fun i hi => absurd hi (hidle i), fun i _ => hempty i, fun _ i hi => absurd hi (hidle i), hsent,
    Nat.le_refl _, fun i hi => absurd hi (hidle i)⟩

/-- More packets queued later change nothing for a broadcast. -/
theorem InTime.append {issued : List QueuedPacket} {x : ℕ × Out} {a : ℕ} (h : InTime issued x a)
    (more : List QueuedPacket) : InTime (issued ++ more) x a := by
  obtain ⟨p, hp, hrest⟩ := h
  refine ⟨p, ?_, hrest⟩
  rw [Option.mem_def, List.getElem?_append_left (List.getElem?_eq_some_iff.1 hp).1]
  exact hp

/-- A stamp is no later than the time it was drawn for. -/
theorem stamp_le (time : ℕ) {drawn maxDelay : ℕ} (h : drawn ≤ maxDelay) :
    (millisAt time + UInt32.ofNat drawn).toNat ≤ time + maxDelay := by
  have hle := Nat.mod_le (time + drawn) (2 ^ 32)
  rw [millisAt_add, millisAt, UInt32.toNat_ofNat']
  omega

/-- **A packet queued.** -/
theorem put_inv (h : SimInv s) {e : Event} {m : Node} {j : Fin maxDelayedPackets} {frame : List UInt8}
    (hj : (s.node.delayedPackets j).active = false)
    (hdelay : m.delayedPackets = Function.update s.node.delayedPackets j
      { sendTime := (e.at s.time).env.millis +
          UInt32.ofNat ((e.at s.time).env.random 0 (s.node.rfSimMaxDelayMs.toNat + 1))
        packet := frame
        receiverMac := Mac.broadcast
        active := true })
    (hnow : (e.at s.time).env.millis = millisAt s.time) (hmedia : DelaysMedia m.delayedPackets) :
    SimInv { s with node := m, queue := s.queued m } := by
  have hself := congrFun hdelay j
  rw [Function.update_self] at hself
  have hothers : ∀ i, i ≠ j → m.delayedPackets i = s.node.delayedPackets i := by
    intro i hi
    rw [hdelay, Function.update_of_ne hi]
  have hqueued : s.queued m = s.queue.put j ⟨frame, s.time, s.node.rfSimMaxDelayMs.toNat⟩ := by
    unfold SimState.queued
    rw [queuedSlot_of_update hdelay rfl hj]
    dsimp only
    rw [hself]
  have hstamp : ((e.at s.time).env.millis +
      UInt32.ofNat ((e.at s.time).env.random 0 (s.node.rfSimMaxDelayMs.toNat + 1))).toNat ≤
        s.time + s.node.rfSimMaxDelayMs.toNat := by
    rw [hnow]
    exact stamp_le s.time (Nat.le_of_lt_succ (random_lt _ (Nat.succ_pos _)))
  rw [hqueued]
  refine ⟨Ledger.put_wf h.wf fun a ha => ?_, fun i hi => ?_, fun i hi => ?_, fun hdrained i hi p hp => ?_, ?_,
    h.past, hmedia⟩
  · rw [h.idle j hj] at ha
    cases ha
  · by_cases hij : i = j
    · subst hij
      refine ⟨_, Ledger.put_item_self, ?_⟩
      show frame = (m.delayedPackets i).packet ∧ (m.delayedPackets i).receiverMac = Mac.broadcast ∧ _ ∧
        (m.delayedPackets i).sendTime.toNat ≤ _
      rw [hself]
      exact ⟨rfl, rfl, Nat.le_refl _, hstamp⟩
    · have hi : (m.delayedPackets i).active = true := hi
      rw [hothers i hij] at hi
      show ∃ p ∈ (s.queue.put j _).item i, p.packet = (m.delayedPackets i).packet ∧
        (m.delayedPackets i).receiverMac = Mac.broadcast ∧ _ ∧ (m.delayedPackets i).sendTime.toNat ≤ _
      rw [Ledger.put_item_of_ne h.wf hij, hothers i hij]
      exact h.held i hi
  · have hi : (m.delayedPackets i).active = false := hi
    have hij : i ≠ j := by
      rintro rfl
      rw [hself] at hi
      cases hi
    rw [hothers i hij] at hi
    exact (Ledger.put_holder_of_ne hij).trans (h.idle i hi)
  · by_cases hij : i = j
    · subst hij
      have hp : p ∈ (s.queue.put i _).item i := hp
      rw [Ledger.put_item_self] at hp
      cases hp
      exact h.past.trans (Nat.le_add_right _ _)
    · have hi : (m.delayedPackets i).active = true := hi
      rw [hothers i hij] at hi
      have hp : p ∈ (s.queue.put j _).item i := hp
      rw [Ledger.put_item_of_ne h.wf hij] at hp
      exact h.fresh hdrained i hi p hp
  · exact h.inTime.imp fun _ _ hx => hx.append _

/-- **Any event but a round** queues at most one packet. -/
theorem queue_inv (h : SimInv s) {e : Event} (htask : ∀ env, e ≠ .task env) :
    SimInv (s.handle lib (.event e)).1 := by
  -- the queue is as it was, or one idle slot of it took the packet of a `MEDIA_SYNC`
  have hat : ∀ env, e.at s.time ≠ .task env := by
    intro env heq
    cases e with
    | task env' => exact htask env' rfl
    | _ => cases heq
  have hhandle : (s.handle lib (.event e)).1 =
      { s with
        node := (s.node.handle lib (e.at s.time)).1
        queue := s.queued (s.node.handle lib (e.at s.time)).1 } := by
    cases e with
    | task env => exact absurd rfl (htask env)
    | _ => rfl
  have hnow : (e.at s.time).env.millis = millisAt s.time := e.env_at_millis s.time
  have hmedia := handle_delaysMedia lib s.node (e.at s.time) h.media
  have hqueue := handle_delayed lib s.node hat
  rw [hhandle]
  generalize (s.node.handle lib (e.at s.time)).1 = m at hmedia hqueue ⊢
  have hsame : m.delayedPackets = s.node.delayedPackets → SimInv { s with node := m, queue := s.queued m } := by
    intro heq
    have hqueued : s.queued m = s.queue := by
      unfold SimState.queued
      rw [queuedSlot_of_same heq]
    rw [hqueued]
    exact ⟨h.wf, by rw [heq]; exact h.held, by rw [heq]; exact h.idle, by rw [heq]; exact h.fresh, h.inTime, h.past,
      hmedia⟩
  rcases hqueue with heq | ⟨-, -, frame, hdelay⟩
  · exact hsame heq
  · unfold delayPacket at hdelay
    cases hfree : Slots.find s.node.delayedPackets fun d => !d.active with
    | none =>
      rw [hfree] at hdelay
      exact hsame hdelay
    | some j =>
      rw [hfree] at hdelay
      dsimp only at hdelay
      have hj : (s.node.delayedPackets j).active = false := by simpa using Slots.find_eq_some hfree
      exact put_inv h hj hdelay hnow hmedia

/-- The broadcasts of a round, packet by packet. -/
theorem round_sent (h : SimInv s) {env : Env}
    (hdue : ∀ i ∈ s.node.sentSlots (espnowTask (env.at s.time) s.node).1, ∀ p ∈ s.queue.item i,
      s.time ≤ p.queuedAt + p.maxDelay + 20) :
    List.Forall₂ (InTime s.queue.issued)
      (((espnowTask (env.at s.time) s.node).2.filter Out.isMedia).map fun o => (s.time, o))
      ((s.node.sentSlots (espnowTask (env.at s.time) s.node).1).filterMap s.queue.holder) := by
  rw [espnowTask_media _ _ h.media]
  by_cases hdrain : s.node.Draining
  · rw [if_pos hdrain]
    unfold sendDelayedPackets
    dsimp only
    unfold Slots.collect
    rw [List.map_filterMap]
    have hslot : ∀ i, ((s.node.delayedPackets i).active &&
        !((espnowTask (env.at s.time) s.node).1.delayedPackets i).active) = true ↔
          (s.node.delayedPackets i).active = true ∧ millisAt s.time ≥ (s.node.delayedPackets i).sendTime := by
      intro i
      have hmem := @mem_sentSlots (env.at s.time) s.node i
      unfold Node.sentSlots at hmem
      rw [List.mem_filter] at hmem
      exact ⟨fun hq => (hmem.1 ⟨List.mem_finRange i, hq⟩).2, fun hd => (hmem.2 ⟨hdrain, hd⟩).2⟩
    refine forall₂_filterMap (fun i hi hq => ?_) fun i hi hq => ?_
    · have hready := (hslot i).1 hq
      obtain ⟨p, hp, hpacket, hmac, hqueued, -⟩ := h.held i hready.1
      obtain ⟨a, ha, hissued⟩ := Ledger.mem_item.1 hp
      refine ⟨(s.time, .espNowSend Mac.broadcast p.packet), a, ?_, ha, p, hissued, rfl, hqueued,
        hdue i (mem_sentSlots.2 ⟨hdrain, hready⟩) p hp⟩
      rw [hpacket, ← hmac]
      exact congrArg _ (if_pos hready)
    · have hwait : ¬((s.node.delayedPackets i).active = true ∧
          millisAt s.time ≥ (s.node.delayedPackets i).sendTime) := by
        rw [← hslot i, hq]
        exact Bool.false_ne_true
      exact congrArg _ (if_neg hwait)
  · have hnone : s.node.sentSlots (espnowTask (env.at s.time) s.node).1 = [] :=
      List.eq_nil_iff_forall_not_mem.2 fun i hi => hdrain (mem_sentSlots.1 hi).1
    rw [if_neg hdrain, hnone]
    exact List.Forall₂.nil

/-- A clock that has not wrapped shows the true time. -/
theorem millisAt_ge_iff {time : ℕ} (hwrap : time < 2 ^ 32) (stamp : UInt32) :
    millisAt time ≥ stamp ↔ stamp.toNat ≤ time := by
  unfold millisAt
  rw [ge_iff_le, UInt32.le_iff_toNat_le, UInt32.toNat_ofNat', Nat.mod_eq_of_lt hwrap]

/-- What is due when a round comes is in time, unless the round comes back to older packets. -/
theorem due_inTime (h : SimInv s) {env : Env} (hsteady : Steady s (.event (.task env)))
    (hfresh : ResumesFresh s (.event (.task env))) :
    ∀ i ∈ s.node.sentSlots (espnowTask (env.at s.time) s.node).1, ∀ p ∈ s.queue.item i,
      s.time ≤ p.queuedAt + p.maxDelay + 20 := by
  intro i hi p hp
  obtain ⟨hdrain, hactive, -⟩ := mem_sentSlots.1 hi
  cases hdrained : s.drained with
  | true =>
    -- the last round sent what was due by then
    have hlast := h.fresh hdrained i hactive p hp
    have hround : s.time ≤ s.lastRound + 20 := hsteady.2
    omega
  | false => exact hfresh hdrain hdrained i hactive p hp

/-- **A round** broadcasts what is due. -/
theorem round_inv (h : SimInv s) {env : Env} (hsteady : Steady s (.event (.task env)))
    (hfresh : ResumesFresh s (.event (.task env))) : SimInv (s.round env).1 := by
  have hsent := round_sent h (due_inTime h hsteady hfresh)
  have hnodup : (s.node.sentSlots (espnowTask (env.at s.time) s.node).1).Nodup :=
    (List.nodup_finRange _).filter _
  refine ⟨Ledger.takeAll_wf h.wf _, fun i hi => ?_, fun i hi => ?_, fun hdrained i hi p hp => ?_, ?_, Nat.le_refl _, ?_⟩
  · have hi : ((espnowTask (env.at s.time) s.node).1.delayedPackets i).active = true := hi
    have hsame := espnowTask_still_delayed _ _ hi
    have hheld := h.held i (by rw [← hsame]; exact hi)
    rw [← Ledger.takeAll_item (not_mem_sentSlots hi), ← hsame] at hheld
    exact hheld
  · show (s.queue.takeAll _).holder i = none
    rw [Ledger.takeAll_holder]
    split
    · rfl
    · next hout =>
      refine h.idle i ?_
      by_contra hactive
      refine hout (List.mem_filter.2 ⟨List.mem_finRange i, ?_⟩)
      have hi : ((espnowTask (env.at s.time) s.node).1.delayedPackets i).active = false := hi
      rw [hi, Bool.not_false, Bool.and_true]
      simpa using hactive
  · -- what was not due will be sent in time
    have hi : ((espnowTask (env.at s.time) s.node).1.delayedPackets i).active = true := hi
    have hout := not_mem_sentSlots hi
    have hactive : (s.node.delayedPackets i).active = true := by rw [← espnowTask_still_delayed _ _ hi]; exact hi
    have hp : p ∈ (s.queue.takeAll _).item i := hp
    rw [Ledger.takeAll_item hout] at hp
    obtain ⟨q, hq, -, -, -, hstamp⟩ := h.held i hactive
    have hsame : q = p := Option.mem_unique hq hp
    have hdrain : s.node.Draining := of_decide_eq_true hdrained
    have hwait : ¬(s.node.delayedPackets i).sendTime ≤ millisAt s.time :=
      fun hdue => hout (mem_sentSlots.2 ⟨hdrain, hactive, hdue⟩)
    have hlate : ¬(s.node.delayedPackets i).sendTime.toNat ≤ s.time :=
      fun hdue => hwait ((millisAt_ge_iff hsteady.1 _).2 hdue)
    show s.time ≤ p.queuedAt + p.maxDelay
    rw [hsame] at hstamp
    omega
  · show List.Forall₂ (InTime (s.queue.takeAll _).issued) (s.sent ++ _) (s.queue.takeAll _).taken
    rw [Ledger.takeAll_issued, Ledger.takeAll_taken hnodup]
    exact List.rel_append h.inTime hsent
  · exact (espnowTask_forwards _ _ h.media).1

/-- A round that comes back to an older packet broadcasts it. -/
theorem round_replays (h : SimInv s) {env : Env} (hsteady : Steady s (.event (.task env)))
    (hstale : ¬ResumesFresh s (.event (.task env))) : ¬NoReplay (s.round env).1 := by
  intro hround
  refine hstale fun hdrain _ i hactive p hp => ?_
  by_contra hlate
  obtain ⟨q, hq, -, -, -, hstamp⟩ := h.held i hactive
  have hsame : q = p := Option.mem_unique hq hp
  rw [hsame] at hstamp
  -- it is due, so it is among what the round takes
  have hdue : (s.node.delayedPackets i).sendTime ≤ millisAt s.time := (millisAt_ge_iff hsteady.1 _).2 (by omega)
  have hslot : i ∈ s.node.sentSlots (espnowTask (env.at s.time) s.node).1 := mem_sentSlots.2 ⟨hdrain, hactive, hdue⟩
  obtain ⟨a, ha, hissued⟩ := Ledger.mem_item.1 hp
  have hnodup : (s.node.sentSlots (espnowTask (env.at s.time) s.node).1).Nodup :=
    (List.nodup_finRange _).filter _
  have hall : List.Forall₂ (InTime (s.queue.takeAll _).issued) (s.sent ++ _) (s.queue.takeAll _).taken := hround.inTime
  rw [Ledger.takeAll_issued, Ledger.takeAll_taken hnodup] at hall
  -- its broadcast is among the last, which are of this round
  have hnew := List.forall₂_drop s.sent.length hall
  rw [List.drop_left, h.inTime.length_eq, List.drop_left] at hnew
  have hmem : a ∈ (s.node.sentSlots (espnowTask (env.at s.time) s.node).1).filterMap s.queue.holder :=
    List.mem_filterMap.2 ⟨i, hslot, ha⟩
  obtain ⟨k, hk, hka⟩ := List.mem_iff_getElem.1 hmem
  obtain ⟨q', hq', -, -, hin⟩ := hnew.get (by rw [hnew.length_eq]; exact hk) hk
  have hlast : ∀ x ∈ ((espnowTask (env.at s.time) s.node).2.filter Out.isMedia).map fun o => (s.time, o),
      x.1 = s.time := by
    intro x hx
    obtain ⟨o, -, rfl⟩ := List.mem_map.1 hx
    rfl
  rw [hlast _ (List.get_mem _ _)] at hin
  rw [List.get_eq_getElem, hka] at hq'
  rw [Option.mem_unique hq' hissued] at hin
  exact hlate hin

/-- A reboot keeps the record and loses the queue. -/
theorem step_of_reboot {e : ClockEvent} (hre : reboots (s.handle lib e).2 = true) :
    (s.step lib build e).1 =
      { node := boot build (s.handle lib e).1.node.nvs (s.handle lib e).1.node.boardId
          (s.handle lib e).1.node.relay.myMacAddress
        queue := (s.handle lib e).1.queue.clear
        sent := (s.handle lib e).1.sent } := by
  unfold SimState.step
  dsimp only
  rw [if_pos hre]

theorem step_of_no_reboot {e : ClockEvent} (hre : reboots (s.handle lib e).2 = false) :
    s.step lib build e = s.handle lib e := by
  unfold SimState.step
  dsimp only
  rw [if_neg (by simp [hre])]

theorem handle_simInv (h : SimInv s) {e : ClockEvent} (hsteady : Steady s e) (hfresh : ResumesFresh s e) :
    SimInv (s.handle lib e).1 := by
  cases e with
  | pass ms =>
    refine ⟨h.wf, fun i hi => ?_, h.idle, h.fresh, h.inTime, h.past.trans (Nat.le_add_right _ _), h.media⟩
    obtain ⟨p, hp, hpacket, hmac, hqueued, hstamp⟩ := h.held i hi
    exact ⟨p, hp, hpacket, hmac, hqueued.trans (Nat.le_add_right _ _), hstamp⟩
  | event e =>
    cases e with
    | task env => exact round_inv h hsteady hfresh
    | radio env src data => exact queue_inv h fun _ => by simp
    | usb env packet => exact queue_inv h fun _ => by simp

theorem step_simInv (h : SimInv s) {e : ClockEvent} (hsteady : Steady s e) (hfresh : ResumesFresh s e) :
    SimInv (s.step lib build e).1 := by
  have hhandle : SimInv (s.handle lib e).1 := handle_simInv h hsteady hfresh
  cases hre : reboots (s.handle lib e).2 with
  | true =>
    rw [step_of_reboot hre]
    exact boot_simInv build _ _ _ (Ledger.clear_wf hhandle.wf) (fun _ => rfl) hhandle.inTime
  | false =>
    rw [step_of_no_reboot hre]
    exact hhandle

theorem step_replays (h : SimInv s) {e : ClockEvent} (hsteady : Steady s e) (hstale : ¬ResumesFresh s e) :
    ¬NoReplay (s.step lib build e).1 := by
  match e, hstale with
  | .pass ms, hstale => exact absurd trivial hstale
  | .event (.radio ..), hstale => exact absurd trivial hstale
  | .event (.usb ..), hstale => exact absurd trivial hstale
  | .event (.task env), hstale =>
    have hround := round_replays h hsteady hstale
    intro hafter
    cases hre : reboots (s.handle lib (.event (.task env))).2 with
    | true =>
      rw [step_of_reboot hre] at hafter
      exact hround ⟨hafter.once, hafter.inTime⟩
    | false =>
      rw [step_of_no_reboot hre] at hafter
      exact hround hafter

end Run

/-- **Each packet queued is broadcast at most once and within its delay and a round exactly when the task
loop, whenever it comes back to the queue, finds none that is older**, for every run from boot. -/
theorem staleMedia_iff (lib : UpdateLib) (build : Build) (nvs : Nvs) (boardId : UInt8) (mac : Mac)
    {events : List ClockEvent}
    (hsteady : Mealy.Guarded (SimState.step lib build) Steady { node := boot build nvs boardId mac } events) :
    (∀ pre post, events = pre ++ post →
      NoReplay (Mealy.run (SimState.step lib build) { node := boot build nvs boardId mac } pre).1) ↔
      Mealy.Guarded (SimState.step lib build) ResumesFresh { node := boot build nvs boardId mac } events :=
  Mealy.always_iff_guarded SimInv NoReplay (fun _ => SimInv.noReplay)
    (fun _ _ h hsteady hfresh => step_simInv h hsteady hfresh)
    (fun _ _ h hsteady hstale => step_replays h hsteady hstale)
    (boot_simInv build nvs boardId mac Ledger.wf_empty (fun _ => rfl) List.Forall₂.nil) hsteady

/-- The host pushes a configuration: RF simulation with no delay, or none. -/
def pushRfSim (on : UInt8) : List ClockEvent :=
  (Host.sysexPackets [sysexStart, sysexManufacturerId, sysexCmdPushFullConfig, on, 0, 0, sysexEnd]).map fun packet =>
    .event (.usb { millis := 0 } packet)

/-- The host has the node mint a packet. -/
def mintOne : List ClockEvent :=
  (Host.sysexPackets ([sysexStart, sysexManufacturerId, sysexCmdMediaSync] ++ List.replicate 16 0x61 ++
    [5, 0, 0, 0, 0, 0, 1, sysexEnd])).map fun packet => .event (.usb { millis := 0 } packet)

/-- The task loop goes round after 20 ms. -/
def roundIn20 : List ClockEvent := [.pass 20, .event (.task { millis := 0 })]

/-- A master that simulates a bad link queues a packet and sends it. -/
def simulated : List ClockEvent := pushRfSim 1 ++ mintOne ++ roundIn20

/-- Its host switches the simulation off before the packet goes out, and on again three rounds later. -/
def switchedOff : List ClockEvent :=
  pushRfSim 1 ++ mintOne ++ pushRfSim 0 ++ roundIn20 ++ roundIn20 ++ roundIn20 ++ pushRfSim 1 ++ roundIn20

/-- A master. -/
def bootedMaster : SimState where
  node := boot plainBuild { role := some nowdeRoleMaster } 0 masterA

theorem simulated_inTime :
    (∀ pre post, simulated = pre ++ post →
      NoReplay (Mealy.run (SimState.step noUpdate plainBuild) bootedMaster pre).1) ↔
    Mealy.Guarded (SimState.step noUpdate plainBuild) ResumesFresh bootedMaster simulated :=
  staleMedia_iff noUpdate plainBuild { role := some nowdeRoleMaster } 0 masterA (by decide +kernel)

/-- One packet queued, and broadcast too late. -/
theorem not_noReplay_of_late {s : SimState} {sentAt deadline : ℕ} (hsent : s.sent.map Prod.fst = [sentAt])
    (htaken : s.queue.taken = [0]) (hissued : s.queue.issued.map (fun p => p.queuedAt + p.maxDelay) = [deadline])
    (hlate : deadline + 20 < sentAt) : ¬NoReplay s := by
  intro hno
  have hin := hno.inTime
  rw [htaken] at hin
  obtain ⟨x, u, ⟨p, hp, -, -, htime⟩, hu, hx⟩ := List.forall₂_cons_right_iff.1 hin
  rw [List.forall₂_nil_right_iff.1 hu] at hx
  rw [hx] at hsent
  have hat : x.1 = sentAt := List.head_eq_of_cons_eq hsent
  have hqueued := congrArg (fun l : List ℕ => l[0]?) hissued
  rw [List.getElem?_map, hp] at hqueued
  have hdeadline : p.queuedAt + p.maxDelay = deadline := Option.some.inj hqueued
  omega

/-- **A packet queued before RF simulation was switched off** is broadcast 80 ms later, when it is on again. -/
theorem switchedOff_replayed :
    Mealy.Guarded (SimState.step noUpdate plainBuild) Steady bootedMaster switchedOff ∧
      ¬NoReplay (Mealy.run (SimState.step noUpdate plainBuild) bootedMaster switchedOff).1 :=
  ⟨by decide +kernel,
    @not_noReplay_of_late _ 80 0 (by decide +kernel) (by decide +kernel) (by decide +kernel) (by decide)⟩

end Nowde
