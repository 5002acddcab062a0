import Nowde.Proof.RelayTables
import Nowde.Proof.Commands

/-!
# Controlled flooding

A node forwards a packet once, unless it hears another node forward it first. What it remembers of
an origin is the number of the packet heard last, so a packet it handled before the last one is a
new packet to it when another copy comes in.

* `onDataRecv_relay`: a radio frame does to the relay what its copy does.
* `espnowTask_forwards`: only the relay's turn in the task loop transmits `0x05` frames.
* `forward_atMostOnce`: as long as a packet handled before comes again only while it is the last
  one heard from its origin, no packet is forwarded twice, and hearing a forward cancels ours.
* `lateCopy_forwardedTwice`: two packets and a late copy of the first.
-/

namespace Nowde

/-! ## A node in the mesh -/

/-- A copy of a packet as the relay takes it from a frame. -/
structure FloodCandidate where
  origin : Mac
  seq : UInt16
  hop : UInt8
  inner : List UInt8
  isRelay : Bool

/-- The copy a radio frame carries: a whole `0x03` frame, or what a `0x05` frame wraps. -/
def floodCandidate (src : Mac) (data : List UInt8) : Option FloodCandidate :=
  if isMeshClockPacket data then none
  else if data.length ≥ 1 ∧ byteAt data 0 = espnowMsgMediaSync then
    if data.length ≥ mediaSyncSize then some ⟨src, (MediaSyncPacket.ofFrame data).seq, 0, data, false⟩ else none
  else if data.length ≥ 1 ∧ byteAt data 0 = espnowMsgMeshRelay then
    if data.length < meshRelayHeaderSize + mediaSyncMinLen then none
    else
      let header := MeshRelayHeader.ofFrame data
      some ⟨header.origin, header.seq, header.hop, data.drop meshRelayHeaderSize, true⟩
  else none

/-- The packet of a copy the node handles: not its own. -/
def handledKey (n : Node) (src : Mac) (data : List UInt8) : Option (Mac × UInt16) :=
  match floodCandidate src data with
  | some c => if c.origin = n.relay.myMacAddress then none else some (c.origin, c.seq)
  | none => none

/-- The packet a node handles in an event. -/
def handledIn (n : Node) : Event → Option (Mac × UInt16)
  | .radio _ src data => handledKey n src data
  | _ => none

/-- A node with the packets it has handled, the latest first: since it booted, and in all. -/
structure FloodState where
  node : Node
  heard : List (Mac × UInt16) := []
  handled : List (Mac × UInt16) := []

/-- One event. A reboot forgets what was heard. -/
def floodStep (lib : UpdateLib) (build : Build) (s : FloodState) (e : Event) : FloodState × List Out :=
  let r := s.node.step lib build e
  ({ node := r.1
     heard := if reboots r.2 then [] else (handledIn s.node e).toList ++ s.heard
     handled := (handledIn s.node e).toList ++ s.handled }, r.2)

/-- The packet of a `0x05` frame. -/
def Out.forward? : Out → Option (Mac × UInt16)
  | .espNowSend _ frame => if byteAt frame 0 = espnowMsgMeshRelay then some (forwardKey frame) else none
  | _ => none

/-- The packets of the `0x05` frames among some outputs. -/
def forwards (out : List Out) : List (Mac × UInt16) := out.filterMap Out.forward?

/-- Packets come from the masters of the mesh. -/
def FromMasters (masters : List Mac) (s : FloodState) (e : Event) : Prop :=
  ∀ k ∈ handledIn s.node e, k.1 ∈ masters

/-- A packet handled before comes again only while it is the last one heard from its origin. -/
def NotLate (s : FloodState) (e : Event) : Prop :=
  ∀ k ∈ handledIn s.node e, k ∈ s.handled → lastHeardSeq s.heard k.1 = some k.2

/-- Hearing another node forward a packet handled before leaves no forward of it pending. -/
def Suppresses (lib : UpdateLib) (build : Build) (s : FloodState) : Event → Prop
  | .radio env src data =>
    byteAt data 0 = espnowMsgMeshRelay → ∀ k ∈ handledKey s.node src data, k ∈ s.handled →
      ∀ i, (((floodStep lib build s (.radio env src data)).1.node.relay.pendingRelays i).active = true →
        ((floodStep lib build s (.radio env src data)).1.node.relay.pendingRelays i).key ≠ k)
  | _ => True

instance (masters : List Mac) (s : FloodState) (e : Event) : Decidable (FromMasters masters s e) :=
  inferInstanceAs (Decidable (∀ k ∈ handledIn s.node e, k.1 ∈ masters))

instance (s : FloodState) (e : Event) : Decidable (NotLate s e) :=
  inferInstanceAs (Decidable (∀ k ∈ handledIn s.node e, k ∈ s.handled → lastHeardSeq s.heard k.1 = some k.2))

section Node

variable (lib : UpdateLib) (env : Env) (n : Node)

theorem receiveMedia_relay (origin : Mac) (data : List UInt8) :
    (receiveMedia env n origin data).1.relay = n.relay := by
  unfold receiveMedia
  split <;> rfl

/-- Other frames carry no copy. -/
theorem floodCandidate_none {src : Mac} {data : List UInt8}
    (h : isMeshClockPacket data = true ∨ data.length < 1 ∨
      byteAt data 0 ≠ espnowMsgMediaSync ∧ byteAt data 0 ≠ espnowMsgMeshRelay) :
    floodCandidate src data = none := by
  unfold floodCandidate
  split
  · rfl
  · next hclock =>
    rw [if_neg, if_neg]
    · rintro ⟨hlen, h5⟩
      rcases h with h | h | h
      · exact hclock h
      · omega
      · exact h.2 h5
    · rintro ⟨hlen, h3⟩
      rcases h with h | h | h
      · exact hclock h
      · omega
      · exact h.1 h3

theorem floodCandidate_mediaSync {src : Mac} {data : List UInt8} (hclock : ¬isMeshClockPacket data = true)
    (hlen : ¬data.length < 1) (h3 : byteAt data 0 = espnowMsgMediaSync) :
    floodCandidate src data = if data.length ≥ mediaSyncSize then
      some ⟨src, (MediaSyncPacket.ofFrame data).seq, 0, data, false⟩ else none := by
  unfold floodCandidate
  rw [if_neg hclock, if_pos ⟨by omega, h3⟩]

theorem floodCandidate_meshRelay {src : Mac} {data : List UInt8} (hclock : ¬isMeshClockPacket data = true)
    (hlen : ¬data.length < 1) (h5 : byteAt data 0 = espnowMsgMeshRelay) :
    floodCandidate src data = if data.length < meshRelayHeaderSize + mediaSyncMinLen then none else
      some ⟨(MeshRelayHeader.ofFrame data).origin, (MeshRelayHeader.ofFrame data).seq,
        (MeshRelayHeader.ofFrame data).hop, data.drop meshRelayHeaderSize, true⟩ := by
  unfold floodCandidate
  rw [if_neg hclock, if_neg (by rw [h5]; exact fun h => absurd h.2 (by decide)), if_pos ⟨by omega, h5⟩]

/-- **What a radio frame does to the relay**: its copy goes through `handleFloodCandidate`. -/
theorem onDataRecv_relay (src : Mac) (data : List UInt8) :
    (onDataRecv lib env n src data).1.relay =
      match floodCandidate src data with
      | some c => handleFloodCandidate env n.relay c.origin c.seq c.hop c.inner c.isRelay
      | none => n.relay := by
  unfold onDataRecv
  by_cases hlen : data.length < 1
  · rw [if_pos hlen, floodCandidate_none (Or.inr (Or.inl hlen))]
  · by_cases hclock : isMeshClockPacket data = true
    · rw [if_neg hlen, if_pos hclock, floodCandidate_none (Or.inl hclock)]
    · rw [if_neg hlen, if_neg hclock]
      dsimp only
      by_cases h3 : byteAt data 0 = espnowMsgMediaSync
      · -- a whole `0x03` frame is a copy under the MAC of its source
        rw [floodCandidate_mediaSync hclock hlen h3]
        simp only [h3]
        rw [if_neg (by decide), if_neg (by decide), if_neg (by decide), if_pos trivial]
        unfold onMediaSync
        dsimp only
        by_cases hsize : data.length ≥ mediaSyncSize
        · rw [if_pos hsize, if_pos hsize]
          dsimp only
          rw [receiveMedia_relay]
        · rw [if_neg hsize, if_neg hsize]
          exact receiveMedia_relay env n src data
      · by_cases h5 : byteAt data 0 = espnowMsgMeshRelay
        · -- a `0x05` frame wraps one, under the MAC of its origin
          rw [floodCandidate_meshRelay hclock hlen h5]
          simp only [h5]
          rw [if_neg (by decide), if_neg (by decide), if_neg (by decide), if_neg (by decide), if_pos trivial]
          unfold onMeshRelay
          by_cases hshort : data.length < meshRelayHeaderSize + mediaSyncMinLen
          · rw [if_pos hshort, if_pos hshort]
          · rw [if_neg hshort, if_neg hshort]
            dsimp only
            rw [receiveMedia_relay]
        · rw [floodCandidate_none (Or.inr (Or.inr ⟨h3, h5⟩))]
          dsimp only
          rw [if_neg h3, if_neg h5]
          split
          · exact (handleSysExMessage_spec lib env n data _).relay
          · split
            · rfl
            · split
              · split <;> rfl
              · rfl

/-- A copy the node does not handle leaves its relay alone. -/
theorem onDataRecv_relay_of_not_handled {src : Mac} {data : List UInt8} (h : handledKey n src data = none) :
    (onDataRecv lib env n src data).1.relay = n.relay := by
  rw [onDataRecv_relay]
  unfold handledKey at h
  cases hc : floodCandidate src data with
  | none => rfl
  | some c =>
    rw [hc] at h
    have hself : c.origin = n.relay.myMacAddress := by
      by_contra hother
      dsimp only at h
      rw [if_neg hother] at h
      cases h
    dsimp only
    unfold handleFloodCandidate
    rw [if_pos hself]

theorem handledKey_eq_some {src : Mac} {data : List UInt8} {k : Mac × UInt16}
    (h : handledKey n src data = some k) :
    ∃ c, floodCandidate src data = some c ∧ c.origin ≠ n.relay.myMacAddress ∧ k = (c.origin, c.seq) := by
  unfold handledKey at h
  split at h
  · next c hc =>
    split at h
    · cases h
    · next hself => exact ⟨c, hc, hself, (Option.some.inj h).symm⟩
  · cases h

/-- A `0x05` frame carries a relayed copy. -/
theorem isRelay_of_meshRelay {src : Mac} {data : List UInt8} {c : FloodCandidate}
    (h : floodCandidate src data = some c) (h5 : byteAt data 0 = espnowMsgMeshRelay) : c.isRelay = true := by
  unfold floodCandidate at h
  split at h
  · cases h
  · rw [if_neg (by rw [h5]; exact fun h3 => absurd h3.2 (by decide))] at h
    split at h
    · split at h
      · cases h
      · cases h
        rfl
    · cases h

end Node

/-! ## What a node sends -/

section Sends

theorem forwards_append (out out' : List Out) : forwards (out ++ out') = forwards out ++ forwards out' :=
  List.filterMap_append

theorem NoForward.forwards {out : List Out} (h : NoForward out) : forwards out = [] := by
  refine List.filterMap_eq_nil_iff.2 fun o ho => ?_
  have hno := h o ho
  cases o with
  | espNowSend mac frame => simpa [Out.forward?, Out.isForward] using hno
  | _ => rfl

theorem noForward_collect {n : ℕ} {α : Type*} {t : Fin n → α} {f : α → Option Out}
    (h : ∀ i o, f (t i) = some o → o.isForward = false) : NoForward (Slots.collect t f) := by
  intro o ho
  obtain ⟨i, hi⟩ := Slots.mem_collect.1 ho
  exact h i o hi

/-- A tick of the relay sends what was due. -/
theorem forwards_relayTick (env : Env) (n : Node) :
    forwards (relayTick env n).2 = (processPendingRelays env.millis n.relay).2.map forwardKey := by
  have hframe : ∀ frame ∈ (processPendingRelays env.millis n.relay).2, byteAt frame 0 = espnowMsgMeshRelay := by
    intro frame h
    simp only [processPendingRelays] at h
    obtain ⟨i, -, rfl⟩ := Slots.mem_collect_ite.1 h
    rfl
  unfold forwards relayTick
  dsimp only
  generalize (processPendingRelays env.millis n.relay).2 = frames at hframe
  induction frames with
  | nil => rfl
  | cons frame frames ih =>
    have hhead := hframe frame List.mem_cons_self
    simp [Out.forward?, hhead, ih fun f hf => hframe f (List.mem_cons_of_mem _ hf)]

variable (lib : UpdateLib) (env : Env) (n : Node)

/-- What an event that is not the relay's turn does: it sends no `0x05` frame, and delays media only. -/
structure SendsNone (n : Node) (r : Node × List Out) : Prop where
  delays : DelaysMedia n.delayedPackets → DelaysMedia r.1.delayedPackets
  noForward : DelaysMedia n.delayedPackets → NoForward r.2

theorem SendsNone.of_eq {n m : Node} {out : List Out} (hd : m.delayedPackets = n.delayedPackets)
    (ho : NoForward out) : SendsNone n (m, out) := ⟨fun h => hd ▸ h, fun _ => ho⟩

theorem SendsNone.of_command {n : Node} {r : Node × List Out} (h : CommandSpec n r) : SendsNone n r :=
  ⟨h.delays, fun _ => h.noForward⟩

theorem handleSenderBeacon_noForward (t : Fin maxSenders → SenderEntry) (src : Mac) :
    NoForward (handleSenderBeacon env t src).2 := by
  unfold handleSenderBeacon
  split
  · exact noForward_nil
  · split
    · simp [Out.isForward]
    · exact noForward_nil

theorem handleReceiverInfo_noForward (t : Fin maxReceivers → ReceiverEntry) (src : Mac) (data : List UInt8) :
    NoForward (handleReceiverInfo env t src data).2 := by
  unfold handleReceiverInfo
  split
  · exact noForward_nil
  · dsimp only
    split
    · exact noForward_nil
    · split
      · simp [Out.isForward]
      · exact noForward_nil

theorem mediaEffect_sendsNone (src : Mac) (data : List UInt8) :
    SendsNone n (mediaEffect env n src data) := by
  unfold mediaEffect
  split
  · unfold receiveMedia
    split
    · exact .of_eq rfl (noForward_host _)
    · exact .of_eq rfl noForward_nil
  · exact .of_eq rfl noForward_nil

/-- **A radio frame** is never answered by a `0x05` frame at once. -/
theorem onDataRecv_sendsNone (src : Mac) (data : List UInt8) :
    SendsNone n (onDataRecv lib env n src data) := by
  rcases onDataRecv_cases lib env n src data with
    ⟨-, -, -, hrecv⟩ | ⟨-, -, -, hrecv⟩ | ⟨-, -, -, -, hrecv⟩ | ⟨-, -, relay, hrecv⟩
  · rw [hrecv]
    exact .of_eq rfl (handleSenderBeacon_noForward env n.senderTable src)
  · rw [hrecv]
    exact .of_eq rfl (handleReceiverInfo_noForward env n.receiverTable src data)
  · rw [hrecv]
    exact .of_command (handleSysExMessage_spec lib env n data _)
  · rw [hrecv]
    obtain ⟨hd, ho⟩ := mediaEffect_sendsNone env n src data
    exact ⟨hd, ho⟩

/-- A part of the task loop before the relay's turn. -/
structure LeavesRelay (n : Node) (r : Node × List Out) : Prop extends SendsNone n r where
  relay : r.1.relay = n.relay

theorem LeavesRelay.of_eq {n m : Node} {out : List Out} (hr : m.relay = n.relay)
    (hd : m.delayedPackets = n.delayedPackets) (ho : NoForward out) : LeavesRelay n (m, out) :=
  ⟨.of_eq hd ho, hr⟩

/-- One part after the other. -/
theorem LeavesRelay.trans {n : Node} {r r' : Node × List Out} (h : LeavesRelay n r) (h' : LeavesRelay r.1 r') :
    LeavesRelay n (r'.1, r.2 ++ r'.2) where
  delays hd := h'.delays (h.delays hd)
  noForward hd := noForward_append.2 ⟨h.noForward hd, h'.noForward (h.delays hd)⟩
  relay := h'.relay.trans h.relay

theorem delayedTick_leavesRelay (now : UInt32) : LeavesRelay n (delayedTick now n) := by
  unfold delayedTick
  split
  · refine ⟨⟨?_, ?_⟩, rfl⟩
    · intro h i hi
      simp only [sendDelayedPackets] at hi ⊢
      split at hi
      · -- what is sent is delayed no more
        cases hi
      · next hdue =>
        rw [if_neg hdue]
        exact h i hi
    · intro h
      unfold sendDelayedPackets
      dsimp only
      refine noForward_collect fun i o ho => ?_
      split at ho
      · next hdue =>
        cases ho
        have hmedia := h i hdue.1
        simp only [Out.isForward, hmedia]
        rfl
      · cases ho
  · exact .of_eq rfl rfl noForward_nil

theorem senderBeacon_sends (now : UInt32) : (senderBeacon now n).1.relay = n.relay ∧
    (senderBeacon now n).1.delayedPackets = n.delayedPackets ∧ NoForward (senderBeacon now n).2 := by
  unfold senderBeacon
  split
  · exact ⟨rfl, rfl, noForward_cons.2 ⟨rfl, noForward_nil⟩⟩
  · exact ⟨rfl, rfl, noForward_nil⟩

theorem senderTick_leavesRelay : LeavesRelay n (senderTick env n) := by
  have hbeacon : LeavesRelay n (senderBeacon env.millis n) := by
    obtain ⟨hrelay, hdelayed, hnone⟩ := senderBeacon_sends n env.millis
    exact .of_eq hrelay hdelayed hnone
  have hcleanup : ∀ m : Node, LeavesRelay m
      ({ m with receiverTable := (cleanupReceiverTable env.millis m.receiverTable).1 },
        (cleanupReceiverTable env.millis m.receiverTable).2) := by
    intro m
    refine .of_eq rfl rfl ?_
    unfold cleanupReceiverTable
    dsimp only
    refine noForward_collect fun i o ho => ?_
    split at ho <;> cases ho
    rfl
  exact (hbeacon.trans (hcleanup _)).trans (delayedTick_leavesRelay _ _)

theorem receiverBeacon_sends (now : UInt32) : (receiverBeacon now env n).1.relay = n.relay ∧
    (receiverBeacon now env n).1.delayedPackets = n.delayedPackets ∧ NoForward (receiverBeacon now env n).2 := by
  unfold receiverBeacon
  split
  · exact ⟨rfl, rfl, (sendReceiverInfo_answers env n).noForward⟩
  · exact ⟨rfl, rfl, noForward_nil⟩

theorem meshResyncTick_sends : (meshResyncTick env n).1.relay = n.relay ∧
    (meshResyncTick env n).1.delayedPackets = n.delayedPackets ∧ NoForward (meshResyncTick env n).2 := by
  unfold meshResyncTick
  dsimp only
  split_ifs <;> exact ⟨rfl, rfl, by simp [Out.isForward]⟩

theorem receiverModeTick_leavesRelay : LeavesRelay n (receiverModeTick env n) := by
  have hbeacon : LeavesRelay n (receiverBeacon env.millis env n) := by
    obtain ⟨hrelay, hdelayed, hnone⟩ := receiverBeacon_sends env n env.millis
    exact .of_eq hrelay hdelayed hnone
  have hresync : ∀ m : Node, LeavesRelay m (meshResyncTick env m) := by
    intro m
    obtain ⟨hrelay, hdelayed, hnone⟩ := meshResyncTick_sends env m
    exact .of_eq hrelay hdelayed hnone
  have hcleanup : ∀ m : Node, LeavesRelay m
      ({ m with senderTable := (cleanupSenderTable env.millis m.senderTable).1 },
        (cleanupSenderTable env.millis m.senderTable).2) := by
    intro m
    refine .of_eq rfl rfl ?_
    unfold cleanupSenderTable
    dsimp only
    refine noForward_collect fun i o ho => ?_
    split at ho <;> cases ho
    rfl
  have htick : ∀ m : Node, LeavesRelay m ({ m with receiver := (receiverTick env.millis m.receiver).1 },
      (receiverTick env.millis m.receiver).2.map .host) :=
    fun m => .of_eq rfl rfl (noForward_host _)
  exact ((hbeacon.trans (hcleanup _)).trans (htick _)).trans (hresync _)

/-- **A task iteration** ends with the relay's turn, unless the node restarts before it. -/
theorem espnowTask_forwards (h : DelaysMedia n.delayedPackets) :
    DelaysMedia (espnowTask env n).1.delayedPackets ∧
      (((espnowTask env n).1.relay = n.relay ∧ forwards (espnowTask env n).2 = []) ∨
        ((espnowTask env n).1.relay = (processPendingRelays env.millis n.relay).1 ∧
          forwards (espnowTask env n).2 = (processPendingRelays env.millis n.relay).2.map forwardKey)) := by
  obtain ⟨s, r, hs, hr, htask⟩ := espnowTask_parts env n
  have hsender : LeavesRelay n s := by
    rcases hs with ⟨-, rfl⟩ | ⟨-, rfl⟩
    · exact senderTick_leavesRelay env n
    · exact .of_eq rfl rfl noForward_nil
  have hreceiver : LeavesRelay s.1 r := by
    rcases hr with ⟨-, rfl⟩ | ⟨-, rfl⟩
    · exact receiverModeTick_leavesRelay env s.1
    · exact .of_eq rfl rfl noForward_nil
  have hboth := hsender.trans hreceiver
  have hnone : forwards (s.2 ++ r.2) = [] := (hboth.noForward h).forwards
  have hrelay : r.1.relay = n.relay := hboth.relay
  rcases htask with ⟨-, htask⟩ | ⟨-, htask⟩
  · rw [htask]
    exact ⟨hboth.delays h, Or.inl ⟨hrelay, hnone⟩⟩
  · rw [htask]
    refine ⟨hboth.delays h, Or.inr ⟨?_, ?_⟩⟩
    · rw [← hrelay]
      rfl
    · rw [forwards_append, hnone, List.nil_append, forwards_relayTick, hrelay]

end Sends

/-! ## The run -/

section Run

variable {lib : UpdateLib} {build : Build} {masters : List Mac} {s : FloodState} {sent : List (Mac × UInt16)}

/-- The invariant of a node in the mesh, with the packets of the `0x05` frames it has transmitted. -/
structure FloodInv (masters : List Mac) (s : FloodState) (sent : List (Mac × UInt16)) : Prop where
  origins : OriginsInv s.node.relay.relayOrigins s.heard
  pending : PendingInv s.node.relay.pendingRelays s.handled sent
  masters : ∀ k ∈ s.heard, k.1 ∈ masters
  delays : DelaysMedia s.node.delayedPackets

/-- The state after an event, before the reboot it may bring. -/
def FloodState.handle (lib : UpdateLib) (s : FloodState) (e : Event) : FloodState where
  node := (s.node.handle lib e).1
  heard := (handledIn s.node e).toList ++ s.heard
  handled := (handledIn s.node e).toList ++ s.handled

theorem boot_relay (nvs : Nvs) (boardId : UInt8) (mac : Mac) :
    (boot build nvs boardId mac).relay = { myMacAddress := mac } :=
  (applyRole_spec _ _).command.relay

/-- A node that boots has heard and scheduled nothing. -/
theorem FloodInv.reboot (h : FloodInv masters s sent) (nvs : Nvs) (boardId : UInt8) (mac : Mac) :
    FloodInv masters { node := boot build nvs boardId mac, heard := [], handled := s.handled } sent where
  origins := by constructor <;> simp [boot_relay]
  pending := by
    constructor
    · simp [boot_relay]
    · simp [boot_relay]
    · simp [boot_relay]
    · exact h.pending.sentHeard
    · exact h.pending.nodup
  masters := by simp
  delays := (applyRole_spec _ _).delays (fun i hi => by cases hi)

/-- **A radio frame**, and what it suppresses. -/
theorem FloodInv.radio (hcount : masters.length ≤ maxRelayOrigins) (h : FloodInv masters s sent) {env : Env}
    {src : Mac} {data : List UInt8} (hfrom : FromMasters masters s (.radio env src data))
    (hlate : NotLate s (.radio env src data)) :
    FloodInv masters (s.handle lib (.radio env src data)) sent ∧
      (byteAt data 0 = espnowMsgMeshRelay → ∀ k ∈ handledKey s.node src data, k ∈ s.handled →
        ∀ i, ((s.handle lib (.radio env src data)).node.relay.pendingRelays i).active = true →
          ((s.handle lib (.radio env src data)).node.relay.pendingRelays i).key ≠ k) := by
  have hdelays := (onDataRecv_sendsNone lib env s.node src data).delays h.delays
  cases hkey : handledKey s.node src data with
  | none =>
    -- no copy, or one of the node's own packets
    have hsame := onDataRecv_relay_of_not_handled lib env s.node hkey
    refine ⟨⟨?_, ?_, ?_, hdelays⟩, ?_⟩
    · simp only [FloodState.handle, Node.handle, handledIn, hsame, hkey]
      exact h.origins
    · simp only [FloodState.handle, Node.handle, handledIn, hsame, hkey]
      exact h.pending
    · simp only [FloodState.handle, handledIn, hkey]
      exact h.masters
    · intro _ k hk
      cases hk
  | some k =>
    obtain ⟨c, hc, hself, rfl⟩ := handledKey_eq_some s.node hkey
    have hrelay := onDataRecv_relay lib env s.node src data
    rw [hc] at hrelay
    dsimp only at hrelay
    have hmem : c.origin ∈ masters := hfrom _ (show _ ∈ handledKey s.node src data by rw [hkey]; rfl)
    have hlast := hlate _ (show _ ∈ handledKey s.node src data by rw [hkey]; rfl)
    obtain ⟨horigins, hpending, hsuppress⟩ := handleFloodCandidate_spec hcount h.origins h.pending
      h.masters hmem hself hlast c.hop c.inner c.isRelay
    rw [← hrelay] at horigins hpending hsuppress
    refine ⟨⟨?_, ?_, ?_, hdelays⟩, ?_⟩
    · simp only [FloodState.handle, handledIn, hkey]
      exact horigins
    · simp only [FloodState.handle, handledIn, hkey]
      exact hpending
    · simp only [FloodState.handle, handledIn, hkey]
      intro k hk
      rcases List.mem_cons.1 hk with rfl | hk
      · exact hmem
      · exact h.masters k hk
    · intro htype k hk hold
      cases hk
      exact hsuppress (isRelay_of_meshRelay hc htype) hold

/-- **A USB packet** does not touch the relay. -/
theorem FloodInv.usb (h : FloodInv masters s sent) (env : Env) (packet : MidiEventPacket) :
    FloodInv masters (s.handle lib (.usb env packet)) sent where
  origins := by
    simp only [FloodState.handle, Node.handle, (midiPacket_spec lib env s.node packet).relay]
    exact h.origins
  pending := by
    simp only [FloodState.handle, Node.handle, (midiPacket_spec lib env s.node packet).relay]
    exact h.pending
  masters := h.masters
  delays := (midiPacket_spec lib env s.node packet).delays h.delays

/-- **A task iteration** transmits what is due. -/
theorem FloodInv.task (h : FloodInv masters s sent) (env : Env) :
    FloodInv masters (s.handle lib (.task env)) (sent ++ forwards (espnowTask env s.node).2) := by
  obtain ⟨hdelays, ⟨hrelay, hsent⟩ | ⟨hrelay, hsent⟩⟩ := espnowTask_forwards env s.node h.delays
  · rw [hsent, List.append_nil]
    refine ⟨?_, ?_, h.masters, hdelays⟩
    · simp only [FloodState.handle, Node.handle, hrelay]
      exact h.origins
    · simp only [FloodState.handle, Node.handle, hrelay]
      exact h.pending
  · rw [hsent]
    refine ⟨?_, ?_, h.masters, hdelays⟩
    · simp only [FloodState.handle, Node.handle, hrelay]
      exact h.origins
    · simp only [FloodState.handle, Node.handle, hrelay]
      exact processPendingRelays_inv h.pending env.millis

/-- **One event**, whatever it is. -/
theorem FloodInv.handle (hcount : masters.length ≤ maxRelayOrigins) (h : FloodInv masters s sent) {e : Event}
    (hfrom : FromMasters masters s e) (hlate : NotLate s e) :
    FloodInv masters (s.handle lib e) (sent ++ forwards (s.node.handle lib e).2) := by
  cases e with
  | radio env src data =>
    have hnone : forwards (s.node.handle lib (.radio env src data)).2 = [] :=
      ((onDataRecv_sendsNone lib env s.node src data).noForward h.delays).forwards
    rw [hnone, List.append_nil]
    exact (h.radio hcount hfrom hlate).1
  | usb env packet =>
    have hnone : forwards (s.node.handle lib (.usb env packet)).2 = [] :=
      (midiPacket_spec lib env s.node packet).noForward.forwards
    rw [hnone, List.append_nil]
    exact h.usb env packet
  | task env => exact h.task env

/-- The step keeps the invariant, reboots included. -/
theorem floodStep_inv (hcount : masters.length ≤ maxRelayOrigins) (h : FloodInv masters s sent) {e : Event}
    (hfrom : FromMasters masters s e) (hlate : NotLate s e) :
    FloodInv masters (floodStep lib build s e).1 (sent ++ forwards (floodStep lib build s e).2) := by
  have hinv : FloodInv masters (s.handle lib e) (sent ++ forwards (s.node.handle lib e).2) :=
    h.handle hcount hfrom hlate
  unfold floodStep
  dsimp only
  cases hre : reboots (s.node.handle lib e).2 with
  | true =>
    rw [step_of_reboots build hre]
    dsimp only
    rw [if_pos hre]
    exact hinv.reboot _ _ _
  | false =>
    rw [step_of_not_reboots build hre, if_neg (by simp [hre])]
    exact hinv

theorem floodStep_suppresses (hcount : masters.length ≤ maxRelayOrigins) (h : FloodInv masters s sent) {e : Event}
    (hfrom : FromMasters masters s e) (hlate : NotLate s e) : Suppresses lib build s e := by
  cases e with
  | usb env packet => trivial
  | task env => trivial
  | radio env src data =>
    have hradio : FloodInv masters (s.handle lib (.radio env src data)) sent ∧ _ := h.radio hcount hfrom hlate
    intro htype k hk hold i
    have hsuppress := hradio.2 htype k hk hold i
    unfold floodStep
    dsimp only
    cases hre : reboots (s.node.handle lib (.radio env src data)).2 with
    | true =>
      -- nothing is pending after a reboot
      rw [step_of_reboots build hre, boot_relay]
      intro hi
      cases hi
    | false =>
      rw [step_of_not_reboots build hre]
      exact hsuppress

/-- **At most one forward, and effective suppression**, in every run in which a packet handled before
comes again only while it is the last one heard from its origin: whatever else happens to the node,
with at most as many masters as there are slots, no two `0x05` frames it transmits are for the same
packet, and hearing a forward of a packet handled before cancels the node's own. -/
theorem forward_atMostOnce (hcount : masters.length ≤ maxRelayOrigins) (nvs : Nvs) (boardId : UInt8) (mac : Mac)
    {events : List Event}
    (hfrom : Mealy.Guarded (floodStep lib build) (FromMasters masters) { node := boot build nvs boardId mac } events)
    (hlate : Mealy.Guarded (floodStep lib build) NotLate { node := boot build nvs boardId mac } events) :
    (forwards (Mealy.run (floodStep lib build) { node := boot build nvs boardId mac } events).2).Nodup ∧
      Mealy.Guarded (floodStep lib build) (Suppresses lib build) { node := boot build nvs boardId mac } events := by
  have hstart : FloodInv masters { node := boot build nvs boardId mac } [] := by
    refine ⟨⟨?_, ?_, ?_⟩, ⟨?_, ?_, ?_, ?_, ?_⟩, ?_, (applyRole_spec _ _).delays fun i hi => by cases hi⟩ <;>
      simp [boot_relay]
  have hboth := Mealy.guarded_and.2 ⟨hfrom, hlate⟩
  -- the invariant is about everything sent so far
  have hstep : ∀ s out e, FloodInv masters s (forwards out) → FromMasters masters s e ∧ NotLate s e →
      FloodInv masters (floodStep lib build s e).1 (forwards (out ++ (floodStep lib build s e).2)) := by
    intro s out e h hg
    rw [forwards_append]
    exact floodStep_inv hcount h hg.1 hg.2
  have htrace := Mealy.trace_inv (fun s out => FloodInv masters s (forwards out)) hstep
    (show FloodInv masters _ (forwards []) from hstart) hboth
  refine ⟨htrace.pending.nodup, ?_⟩
  refine Mealy.guarded_of_inv (fun s => ∃ sent, FloodInv masters s sent) ?_ ?_ ⟨[], hstart⟩ hboth
  · rintro s e ⟨sent, h⟩ hg
    exact ⟨_, floodStep_inv hcount h hg.1 hg.2⟩
  · rintro s e ⟨sent, h⟩ hg
    exact floodStep_suppresses hcount h hg.1 hg.2

end Run

/-! ## A late copy -/

/-- A copy of packet `seq` of master A at time `now`: direct, or forwarded by another node. -/
def copyAt (now : UInt32) (seq : UInt16) (via : Option (Mac × UInt8)) : Event :=
  .radio { millis := now } (wire masterA (clip 5 1 seq) via).1 (wire masterA (clip 5 1 seq) via).2

/-- A round of the task loop at time `now`. -/
def roundAt (now : UInt32) : Event := .task { millis := now }

/-- Two packets; the forward of the second is heard and cancels ours. -/
def promptCopies : List Event :=
  [copyAt 100 1 none, roundAt 1000, copyAt 1100 2 none, copyAt 1105 2 (some (relayerMac, 1)), roundAt 2000]

theorem promptCopies_once :
    (forwards (Mealy.run (floodStep noUpdate plainBuild) { node := boot plainBuild {} 0 slaveMac }
        promptCopies).2).Nodup ∧
      Mealy.Guarded (floodStep noUpdate plainBuild) (Suppresses noUpdate plainBuild)
        { node := boot plainBuild {} 0 slaveMac } promptCopies :=
  forward_atMostOnce (show [masterA].length ≤ maxRelayOrigins by decide) {} 0 slaveMac
    (by decide +kernel) (by decide +kernel)

/-- Two packets; the forward of the first is heard after the second. -/
def lateForward : List Event :=
  [copyAt 100 1 none, roundAt 1000, copyAt 1100 2 none, copyAt 1105 1 (some (relayerMac, 1)), roundAt 2000]

/-- **A forward of a packet heard after the next packet** is taken for a new packet, and the node
forwards the first packet again. -/
theorem lateCopy_forwardedTwice :
    ¬∀ (lib : UpdateLib) (build : Build) (masters : List Mac) (nvs : Nvs) (boardId : UInt8) (mac : Mac)
      (events : List Event), masters.length ≤ maxRelayOrigins →
      Mealy.Guarded (floodStep lib build) (FromMasters masters) { node := boot build nvs boardId mac } events →
      (forwards (Mealy.run (floodStep lib build) { node := boot build nvs boardId mac } events).2).Nodup ∧
        Mealy.Guarded (floodStep lib build) (Suppresses lib build) { node := boot build nvs boardId mac } events := by
  intro hall
  have hnodup := (hall noUpdate plainBuild [masterA] {} 0 slaveMac lateForward (by decide)
    (by decide +kernel)).1
  have hkeys : forwards (Mealy.run (floodStep noUpdate plainBuild) { node := boot plainBuild {} 0 slaveMac }
      lateForward).2 = [(masterA, 1), (masterA, 2), (masterA, 1)] := by
    decide +kernel
  rw [hkeys] at hnodup
  exact absurd hnodup (by decide)

end Nowde
