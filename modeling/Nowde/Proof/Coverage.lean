import Nowde.Proof.Storm
import Mathlib.Combinatorics.SimpleGraph.Metric

/-!
# What a flood covers

A node forwards a frame it hears unless it gives it up: the number is still remembered, no hop is
left, or another node's forward is overheard while its own waits. The one given up may be the only
one that would have reached some part of the mesh, so distance alone does not settle who hears a frame.

* `not_covered`: two nodes near the master that miss a frame, each in its own way.
* `flood_covers`: in a run without losses, once the flood is over, a frame has reached every node
  joined to the master by a path on which nobody gives it up.
-/

namespace Nowde

/-- The tables of a relay have room for a copy of another node's packet: an entry for the origin, and, if
the copy is to be scheduled, a slot that overhearing leaves idle. -/
def Relay.HasRoom (r : Relay) (c : FloodCandidate) : Prop :=
  c.origin ≠ r.myMacAddress →
    (∃ i, (r.relayOrigins i).valid = true → (r.relayOrigins i).mac = c.origin) ∧
      (r.remembers c.origin c.seq = false → c.hop < maxHops →
        ∃ i, (c.suppressed r.pendingRelays i).active = false)

/-- An event does not have the node restart with a forward pending or a packet delayed. -/
def TaskState.KeepsHeld (lib : UpdateLib) (s : TaskState) (te : TaskEvent) : Prop :=
  reboots (s.handle lib te).2 = true →
    (∀ i, ((s.handle lib te).1.node.relay.pendingRelays i).active = false) ∧
      ∀ i, ((s.handle lib te).1.node.delayedPackets i).active = false

instance (r : Relay) (c : FloodCandidate) : Decidable (r.HasRoom c) := by
  unfold Relay.HasRoom
  infer_instance

instance (lib : UpdateLib) (s : TaskState) (te : TaskEvent) : Decidable (s.KeepsHeld lib te) := by
  unfold TaskState.KeepsHeld
  infer_instance

instance (q : PendingRelay) (master : Mac) (p : MediaSyncPacket) : Decidable (q.Wraps master p) :=
  decidable_of_iff (q.origin = master ∧ q.payload.bytes = p.toFrame ∧ q.payloadLen = UInt8.ofNat mediaSyncSize)
    ⟨fun h => ⟨h.1, h.2.1, h.2.2⟩, fun h => ⟨h.origin, h.payload, h.payloadLen⟩⟩

namespace Mesh

variable {ι : Type*}

/-! ## Runs without losses -/

/-- Nothing sent, heard, minted or pending yet. The dedup tables hold what they like. -/
structure Fresh (s : Mesh ι) : Prop where
  air : s.air = []
  heard : s.heard = []
  minted : s.minted = []
  pending : ∀ b i, (s.pending b i).active = false
  delayed : ∀ b i, ((s.node b).node.delayedPackets i).active = false

/-- Every flood is over: no forward is pending, no packet is delayed, and each `0x03` and `0x05` frame sent has
been heard by all the neighbours of its sender. -/
structure Settled (G : SimpleGraph ι) (s : Mesh ι) : Prop where
  pending : ∀ b i, (s.pending b i).active = false
  delayed : ∀ b i, ((s.node b).node.delayedPackets i).active = false
  heard : ∀ k < s.air.length, ∀ tx ∈ s.air[k]?, tx.isMedia = true ∨ tx.isRelay = true →
    ∀ v, G.Adj tx.sender v → (k, v) ∈ s.heard

/-- A frame is heard along a link. -/
def Along (G : SimpleGraph ι) (s : Mesh ι) : MeshEvent ι → Prop
  | .deliver k b _ => ∀ tx ∈ s.air[k]?, G.Adj tx.sender b
  | _ => True

/-- No table overflows. -/
def Roomy (s : Mesh ι) : MeshEvent ι → Prop
  | .deliver k b _ => ∀ tx ∈ s.air[k]?, ∀ c ∈ floodCandidate (s.mac tx.sender) tx.frame, (s.node b).node.relay.HasRoom c
  | _ => True

/-- An event of a run without losses, with `m` the only master: each flood is over before the next packet is
minted. -/
structure Calm (lib : UpdateLib) (G : SimpleGraph ι) (m : ι) (s : Mesh ι) (me : MeshEvent ι) : Prop where
  along : s.Along G me
  room : s.Roomy me
  keeps : ∀ x ∈ s.event me, (s.node x.1).KeepsHeld lib x.2.1
  mints : ∀ x ∈ s.event me, (s.node x.1).mints x.2.1 ≠ none → x.1 = m ∧ s.Settled G

/-! ## Who hears a packet -/

/-- A transmission brings packet `p` of master `m`. -/
def Brings (s : Mesh ι) (m : ι) (p : MediaSyncPacket) (tx : Transmission ι) : Prop :=
  ∃ c ∈ floodCandidate (s.mac tx.sender) tx.frame, c.origin = s.mac m ∧ c.inner = p.toFrame

/-- Node `v` has heard a copy of packet `p` of master `m`. -/
def HasHeard (s : Mesh ι) (m : ι) (p : MediaSyncPacket) (v : ι) : Prop :=
  ∃ x ∈ s.heard, x.2 = v ∧ ∃ tx ∈ s.air[x.1]?, s.Brings m p tx

section Decidable

variable [DecidableEq ι]

instance (s : Mesh ι) (m : ι) (p : MediaSyncPacket) (tx : Transmission ι) : Decidable (s.Brings m p tx) := by
  unfold Brings
  infer_instance

instance (s : Mesh ι) (m : ι) (p : MediaSyncPacket) (v : ι) : Decidable (s.HasHeard m p v) := by
  unfold HasHeard
  infer_instance

instance [Fintype ι] (G : SimpleGraph ι) [DecidableRel G.Adj] (s : Mesh ι) : Decidable (s.Settled G) :=
  decidable_of_iff
    ((∀ b i, (s.pending b i).active = false) ∧ (∀ b i, ((s.node b).node.delayedPackets i).active = false) ∧
      ∀ k < s.air.length, ∀ tx ∈ s.air[k]?, tx.isMedia = true ∨ tx.isRelay = true →
        ∀ v, G.Adj tx.sender v → (k, v) ∈ s.heard)
    ⟨fun h => ⟨h.1, h.2.1, h.2.2⟩, fun h => ⟨h.pending, h.delayed, h.heard⟩⟩

instance (G : SimpleGraph ι) [DecidableRel G.Adj] (s : Mesh ι) : ∀ me, Decidable (s.Along G me)
  | .deliver k b _ => inferInstanceAs (Decidable (∀ tx ∈ s.air[k]?, G.Adj tx.sender b))
  | .pass _ _ | .usb _ _ _ | .task _ _ => inferInstanceAs (Decidable True)

instance (s : Mesh ι) : ∀ me, Decidable (s.Roomy me)
  | .deliver k b _ => inferInstanceAs (Decidable (∀ tx ∈ s.air[k]?, ∀ c ∈ floodCandidate (s.mac tx.sender) tx.frame,
      (s.node b).node.relay.HasRoom c))
  | .pass _ _ | .usb _ _ _ | .task _ _ => inferInstanceAs (Decidable True)

instance [Fintype ι] (lib : UpdateLib) (G : SimpleGraph ι) [DecidableRel G.Adj] (m : ι) (s : Mesh ι)
    (me : MeshEvent ι) : Decidable (Calm lib G m s me) :=
  decidable_of_iff
    (s.Along G me ∧ s.Roomy me ∧ (∀ x ∈ s.event me, (s.node x.1).KeepsHeld lib x.2.1) ∧
      ∀ x ∈ s.event me, (s.node x.1).mints x.2.1 ≠ none → x.1 = m ∧ s.Settled G)
    ⟨fun h => ⟨h.1, h.2.1, h.2.2.1, h.2.2.2⟩, fun h => ⟨h.along, h.room, h.keeps, h.mints⟩⟩

end Decidable

/-- If it is the first one node `u` hears of packet `p`, a copy finds the number forgotten and a hop left. -/
def Welcomes (s : Mesh ι) (m : ι) (p : MediaSyncPacket) (u : ι) (c : FloodCandidate) : Prop :=
  c.origin = s.mac m → c.inner = p.toFrame → ¬s.HasHeard m p u →
    (s.node u).node.relay.remembers c.origin c.seq = false ∧ c.hop < maxHops

/-- A copy cancels no forward of packet `p` that waits at node `u`. -/
def Spares (s : Mesh ι) (m : ι) (p : MediaSyncPacket) (u : ι) (c : FloodCandidate) : Prop :=
  c.isRelay = true → ∀ i, (s.pending u i).active = true → (s.pending u i).Wraps (s.mac m) p →
    (s.pending u i).key ≠ (c.origin, c.seq)

/-- Node `u` does not give up packet `p` of master `m` over what it hears. -/
def PassesOn (m : ι) (p : MediaSyncPacket) (u : ι) (s : Mesh ι) : MeshEvent ι → Prop
  | .deliver k b _ => b = u → ∀ tx ∈ s.air[k]?, ∀ c ∈ floodCandidate (s.mac tx.sender) tx.frame,
    s.Welcomes m p u c ∧ s.Spares m p u c
  | _ => True

section Decidable

variable [DecidableEq ι] (m : ι) (p : MediaSyncPacket) (u : ι) (s : Mesh ι)

instance (c : FloodCandidate) : Decidable (s.Welcomes m p u c) := by
  unfold Welcomes
  infer_instance

instance (c : FloodCandidate) : Decidable (s.Spares m p u c) := by
  unfold Spares
  infer_instance

instance : ∀ me, Decidable (PassesOn m p u s me)
  | .deliver k b _ => inferInstanceAs (Decidable (b = u → ∀ tx ∈ s.air[k]?,
      ∀ c ∈ floodCandidate (s.mac tx.sender) tx.frame, s.Welcomes m p u c ∧ s.Spares m p u c))
  | .pass _ _ | .usb _ _ _ | .task _ _ => inferInstanceAs (Decidable True)

end Decidable

/-! ## What a node holds is sent -/

section Node

variable {lib : UpdateLib} {build : Build} {s : TaskState} {te : TaskEvent}

/-- What the handler leaves pending stays pending, reboot or not. -/
theorem pending_of_keepsHeld (h : s.KeepsHeld lib te) {i : Fin maxPendingRelays}
    (hi : ((s.handle lib te).1.node.relay.pendingRelays i).active = true) :
    (s.step lib build te).1.node.relay.pendingRelays i = (s.handle lib te).1.node.relay.pendingRelays i := by
  rcases step_cases lib build s te with ⟨-, hstep⟩ | ⟨hreboots, -⟩
  · rw [hstep]
  · have hidle := (h hreboots).1 i
    rw [hidle] at hi
    cases hi

theorem delayed_of_keepsHeld (h : s.KeepsHeld lib te) {i : Fin maxDelayedPackets}
    (hi : ((s.handle lib te).1.node.delayedPackets i).active = true) :
    (s.step lib build te).1.node.delayedPackets i = (s.handle lib te).1.node.delayedPackets i := by
  rcases step_cases lib build s te with ⟨-, hstep⟩ | ⟨hreboots, -⟩
  · rw [hstep]
  · have hidle := (h hreboots).2 i
    rw [hidle] at hi
    cases hi

end Node

section Handle

variable [DecidableEq ι] {lib : UpdateLib} {build : Build} {s : Mesh ι} {b : ι} {te : TaskEvent} {trail : List ℕ}

/-- **A pending forward stays pending or is put on the air**, unless a copy cancels it. -/
theorem waits_or_sent (h : s.Sources) (hkeeps : (s.node b).KeepsHeld lib te) {i : Fin maxPendingRelays}
    (hi : (s.pending b i).active = true)
    (hspares : ∀ e src data c, te = .receive e src data → floodCandidate src data = some c → c.isRelay = true →
      (s.pending b i).key ≠ (c.origin, c.seq)) :
    (s.handle lib build b te trail).1.pending b i = s.pending b i ∨
      ∃ tx ∈ (s.handle lib build b te trail).2, tx.sender = b ∧ tx.frame = (s.pending b i).frame := by
  have hstep := handle_relay lib (s.node b) te (h.delays b)
  have hstays : ((s.node b).handle lib te).1.node.relay.pendingRelays i = s.pending b i →
      (s.handle lib build b te trail).1.pending b i = s.pending b i := by
    intro hsame
    have hactive : (((s.node b).handle lib te).1.node.relay.pendingRelays i).active = true := by
      rw [hsame]
      exact hi
    unfold Mesh.pending
    rw [handle_node_self, pending_of_keepsHeld hkeeps hactive]
    exact hsame
  have hsent : (s.handle lib build b te trail).2 =
      transmissions b (dueTrails (s.node b) (s.trail b) te) ((s.node b).handle lib te).2 :=
    handle_sent lib build s b te trail
  generalize hx : (((s.node b).handle lib te).1.node, ((s.node b).handle lib te).2) = x at hstep
  have hnode : ((s.node b).handle lib te).1.node = x.1 := by rw [← hx]
  have hout : ((s.node b).handle lib te).2 = x.2 := by rw [← hx]
  rw [hnode] at hstays
  rw [hout] at hsent
  cases hstep with
  | idle _ _ hrelay _ =>
    left
    apply hstays
    rw [hrelay]
    rfl
  | @copy e src data c x hc hrelay _ =>
    -- a copy cancels the forward of its own key only
    left
    apply hstays
    rw [hrelay]
    exact FloodCandidate.handle_keeps hi fun hisRelay => hspares e src data c rfl hc hisRelay
  | @turn e x hpoint hrelay hfires =>
    by_cases hdue : (s.pending b i).due (millisAt (s.node b).time) = true
    · right
      have hmem : Out.espNowSend Mac.broadcast (s.pending b i).frame ∈ x.2 := by
        rw [hfires]
        apply List.mem_map_of_mem
        unfold processPendingRelays
        dsimp only
        apply Slots.mem_collect.2
        exact ⟨i, if_pos hdue⟩
      obtain ⟨tx, htx, hsender, -, hframe⟩ := exists_transmission hmem (dueTrails (s.node b) (s.trail b) (.task e))
      rw [hsent]
      exact ⟨tx, htx, hsender, hframe⟩
    · left
      apply hstays
      rw [hrelay]
      exact if_neg hdue

/-- **A copy that is new, with a hop left and a slot idle, is scheduled.** -/
theorem scheduled {e : Env} {src : Mac} {data : List UInt8} {c : FloodCandidate}
    (hkeeps : (s.node b).KeepsHeld lib (.receive e src data)) (hc : floodCandidate src data = some c)
    (hself : c.origin ≠ s.mac b) (hnew : (s.node b).node.relay.remembers c.origin c.seq = false)
    (hhop : c.hop < maxHops) (hidle : ∃ i, (c.suppressed (s.node b).node.relay.pendingRelays i).active = false) :
    ∃ i old, (s.handle lib build b (.receive e src data) trail).1.pending b i = c.forward ((s.node b).env e) old := by
  have hrelay : ((s.node b).handle lib (.receive e src data)).1.node.relay =
      c.handle ((s.node b).env e) (s.node b).node.relay := by
    have hrelay := onDataRecv_relay lib ((s.node b).env e) (s.node b).node src data
    rw [hc] at hrelay
    exact hrelay
  have hscheduled : ∃ i old, (c.handle ((s.node b).env e) (s.node b).node.relay).pendingRelays i =
      c.forward ((s.node b).env e) old := FloodCandidate.handle_schedules hself hnew hhop hidle
  obtain ⟨i, old, hi⟩ := hscheduled
  rw [← hrelay] at hi
  have hactive : (((s.node b).handle lib (.receive e src data)).1.node.relay.pendingRelays i).active = true := by
    rw [hi]
    rfl
  refine ⟨i, old, ?_⟩
  unfold Mesh.pending
  rw [handle_node_self, pending_of_keepsHeld hkeeps hactive]
  exact hi

end Handle

/-! ## The flood goes on -/

/-- What a run without losses keeps: MACs stay distinct, what is heard was sent, and what is minted is on the air
or delayed at the master. -/
structure Flowing (m : ι) (s : Mesh ι) : Prop extends s.Sources where
  apart : Function.Injective s.mac
  sent : ∀ x ∈ s.heard, x.1 < s.air.length
  master : ∀ x ∈ s.minted, x.1 = m
  aired : ∀ x ∈ s.minted, (∃ tx ∈ s.air, tx.sender = m ∧ tx.frame = x.2.toFrame) ∨
    ∃ i, ((s.node m).node.delayedPackets i).active = true ∧ ((s.node m).node.delayedPackets i).packet = x.2.toFrame

/-- A forward of packet `p` waits at node `u`, or node `u` has sent one. -/
def Serves (s : Mesh ι) (m : ι) (p : MediaSyncPacket) (u : ι) : Prop :=
  (∃ i, (s.pending u i).active = true ∧ (s.pending u i).Wraps (s.mac m) p) ∨
    ∃ tx ∈ s.air, tx.sender = u ∧ s.Brings m p tx

theorem Fresh.flowing {s : Mesh ι} (h : s.Fresh) (hmac : Function.Injective s.mac) (m : ι) : s.Flowing m where
  delayed b i hi := by
    rw [h.delayed b i] at hi
    cases hi
  media tx htx := by
    rw [h.air] at htx
    cases htx
  plain tx htx := by
    rw [h.air] at htx
    cases htx
  apart := hmac
  sent x hx := by
    rw [h.heard] at hx
    cases hx
  master x hx := by
    rw [h.minted] at hx
    cases hx
  aired x hx := by
    rw [h.minted] at hx
    cases hx

section Bring

variable {s t : Mesh ι} {m : ι} {p : MediaSyncPacket} {tx : Transmission ι}

theorem brings_congr (hmac : ∀ a, t.mac a = s.mac a) : t.Brings m p tx ↔ s.Brings m p tx := by
  unfold Brings
  rw [hmac, hmac]

/-- A packet is brought by the `0x03` frame of its master. -/
theorem brings_of_toFrame (hsender : tx.sender = m) (hframe : tx.frame = p.toFrame) : s.Brings m p tx := by
  unfold Brings
  rw [hsender, hframe, floodCandidate_toFrame]
  exact ⟨_, rfl, rfl, rfl⟩

/-- It is brought by a forward of it. -/
theorem brings_of_wraps {q : PendingRelay} (hq : q.Wraps (s.mac m) p) (hframe : tx.frame = q.frame) :
    s.Brings m p tx := by
  unfold Brings
  rw [hframe, hq.frame, floodCandidate_wrapped]
  exact ⟨_, rfl, rfl, rfl⟩

theorem Brings.floods (h : s.Brings m p tx) : tx.isMedia = true ∨ tx.isRelay = true := by
  obtain ⟨c, hc, -⟩ := h
  unfold Transmission.isMedia Transmission.isRelay
  simpa using isMedia_or_isRelay_of_floodCandidate hc

/-- Once the flood is over, the neighbours of a node that sent the packet have heard it. -/
theorem Settled.hasHeard {G : SimpleGraph ι} (h : s.Settled G) (htx : tx ∈ s.air) (hbrings : s.Brings m p tx) {v : ι}
    (hadj : G.Adj tx.sender v) : s.HasHeard m p v := by
  obtain ⟨k, hk⟩ := List.mem_iff_getElem?.1 htx
  have hlt : k < s.air.length := (List.getElem?_eq_some_iff.1 hk).1
  exact ⟨(k, v), h.heard k hlt tx hk hbrings.floods v hadj, rfl, tx, hk, hbrings⟩

end Bring

section Step

variable [DecidableEq ι] {lib : UpdateLib} {build : Build} {G : SimpleGraph ι} {m : ι} {p : MediaSyncPacket}
variable {s : Mesh ι} {b : ι} {te : TaskEvent} {trail : List ℕ}

/-- What is minted stays on the air or delayed at the master. -/
theorem Flowing.handle_aired (h : s.Flowing m) (hkeeps : (s.node b).KeepsHeld lib te)
    (hmints : (s.node b).mints te ≠ none → b = m ∧ s.Settled G) :
    ∀ x ∈ (s.handle lib build b te trail).1.minted,
      (∃ tx ∈ (s.handle lib build b te trail).1.air, tx.sender = m ∧ tx.frame = x.2.toFrame) ∨
      ∃ i, (((s.handle lib build b te trail).1.node m).node.delayedPackets i).active = true ∧
        (((s.handle lib build b te trail).1.node m).node.delayedPackets i).packet = x.2.toFrame := by
  have hmedia := handle_media lib (s.node b) te
  have hsent : ∀ {dest : Mac} {frame : List UInt8}, Out.espNowSend dest frame ∈ ((s.node b).handle lib te).2 →
      ∃ tx ∈ (s.handle lib build b te trail).1.air, tx.sender = b ∧ tx.frame = frame := by
    intro dest frame hmem
    rw [← step_out lib build] at hmem
    obtain ⟨tx, htx, hsender, -, hframe⟩ := exists_transmission hmem (dueTrails (s.node b) (s.trail b) te)
    exact ⟨tx, List.mem_append_right _ htx, hsender, hframe⟩
  have hdelayed : ∀ {i}, (((s.node b).handle lib te).1.node.delayedPackets i).active = true →
      ((s.handle lib build b te trail).1.node b).node.delayedPackets i =
        ((s.node b).handle lib te).1.node.delayedPackets i := by
    intro i hi
    rw [handle_node_self, delayed_of_keepsHeld hkeeps hi]
  intro x hx
  rcases List.mem_append.1 hx with hold | hnew
  · rcases h.aired x hold with ⟨tx, htx, hsame⟩ | ⟨i, hi, hpacket⟩
    · exact Or.inl ⟨tx, List.mem_append_left _ htx, hsame⟩
    · by_cases hb : m = b
      · subst hb
        rcases hmedia.waits_or_sent hi with hstays | hout
        · dsimp only at hstays
          rw [← hstays] at hi hpacket
          have hafter := hdelayed hi
          rw [← hafter] at hi hpacket
          exact Or.inr ⟨i, hi, hpacket⟩
        · obtain ⟨tx, htx, hsender, hframe⟩ := hsent hout
          exact Or.inl ⟨tx, htx, hsender, hframe.trans hpacket⟩
      · right
        rw [handle_node_of_ne lib build s b te trail hb]
        exact ⟨i, hi, hpacket⟩
  · obtain ⟨p, hp, rfl⟩ := List.mem_map.1 hnew
    have hp : (s.node b).mints te = some p := Option.mem_toList.1 hp
    rw [hp] at hmedia hmints
    obtain ⟨rfl, hsettled⟩ := hmints (by simp)
    -- the flood before is over, so the master has a delay slot to spare
    rcases hmedia.minted_out ⟨⟨0, by decide⟩, hsettled.delayed b _⟩ with hout | ⟨i, hi, hpacket⟩
    · obtain ⟨tx, htx, hsame⟩ := hsent hout
      exact Or.inl ⟨tx, htx, hsame⟩
    · have hafter := hdelayed hi
      rw [← hafter] at hi hpacket
      exact Or.inr ⟨i, hi, hpacket⟩

theorem Flowing.step (h : s.Flowing m) {me : MeshEvent ι} (hcalm : Calm lib G m s me) :
    (s.step lib build me).1.Flowing m := by
  apply step_ind h
  intro b te trail hevent
  have hmints := hcalm.mints _ hevent
  have hmac : (s.handle lib build b te trail).1.mac = s.mac := funext (handle_mac lib build s b te trail (h.delays b))
  refine ⟨h.toSources.handle b te trail, ?_, ?_, ?_, h.handle_aired (hcalm.keeps _ hevent) hmints⟩
  · rw [hmac]
    exact h.apart
  · intro x hx
    have hair : s.air.length ≤ (s.handle lib build b te trail).1.air.length :=
      (List.prefix_append s.air _).length_le
    rcases List.mem_append.1 hx with hold | hnew
    · have hlt : x.1 < s.air.length := h.sent x hold
      exact hlt.trans_le hair
    · rcases event_cases hevent with ⟨k, env, tx, -, hk, -, rfl⟩ | ⟨-, rfl⟩
      · have hlt : k < s.air.length := (List.getElem?_eq_some_iff.1 hk).1
        have hx : x = (k, b) := by simpa using hnew
        rw [hx]
        exact hlt.trans_le hair
      · cases hnew
  · intro x hx
    rcases List.mem_append.1 hx with hold | hnew
    · exact h.master x hold
    · obtain ⟨p, hp, rfl⟩ := List.mem_map.1 hnew
      have hp : (s.node b).mints te = some p := Option.mem_toList.1 hp
      exact (hmints (by simp [hp])).1

/-- A copy heard in a step was heard before, or it is the transmission just heard. -/
theorem hasHeard_cases (h : s.Flowing m) {me : MeshEvent ι} (hevent : s.event me = some (b, te, trail)) {v : ι}
    (hv : (s.handle lib build b te trail).1.HasHeard m p v) :
    s.HasHeard m p v ∨ v = b ∧ ∃ k env tx, me = .deliver k b env ∧ s.air[k]? = some tx ∧
      te = .receive env (s.mac tx.sender) tx.frame ∧ s.Brings m p tx := by
  have hmac : ∀ a, (s.handle lib build b te trail).1.mac a = s.mac a := handle_mac lib build s b te trail (h.delays b)
  obtain ⟨x, hx, hxv, tx, htx, hafter⟩ := hv
  have hbrings : s.Brings m p tx := (brings_congr hmac).1 hafter
  rcases List.mem_append.1 hx with hbefore | hnew
  · left
    rw [handle_air_of_lt lib build s b te trail (h.sent x hbefore)] at htx
    exact ⟨x, hbefore, hxv, tx, htx, hbrings⟩
  · right
    rcases event_cases hevent with ⟨k, env, tx', hme, hk, hte, rfl⟩ | ⟨-, rfl⟩
    · have hx : x = (k, b) := by simpa using hnew
      subst hx
      rw [handle_air_of_lt lib build s b te _ (List.getElem?_eq_some_iff.1 hk).1] at htx
      have htx : tx' = tx := Option.some.inj (hk.symm.trans htx)
      subst htx
      exact ⟨hxv.symm, k, env, tx', hme, hk, hte, hbrings⟩
    · cases hnew

/-- A node that serves a packet goes on to, unless a copy cancels its forward. -/
theorem Serves.handle {u : ι} (hserves : s.Serves m p u) (h : s.Flowing m) {me : MeshEvent ι}
    (hevent : s.event me = some (b, te, trail)) (hkeeps : (s.node b).KeepsHeld lib te) (hpasses : PassesOn m p u s me) :
    (s.handle lib build b te trail).1.Serves m p u := by
  have hmac : ∀ a, (s.handle lib build b te trail).1.mac a = s.mac a := handle_mac lib build s b te trail (h.delays b)
  have hsent : ∀ {tx}, tx ∈ s.air ∨ tx ∈ (s.handle lib build b te trail).2 → tx.sender = u → s.Brings m p tx →
      (s.handle lib build b te trail).1.Serves m p u := by
    intro tx htx hsender hbrings
    exact Or.inr ⟨tx, List.mem_append.2 htx, hsender, (brings_congr hmac).2 hbrings⟩
  rcases hserves with ⟨i, hi, hwraps⟩ | ⟨tx, htx, hsender, hbrings⟩
  · by_cases hb : u = b
    · subst hb
      have hspares : ∀ e src data c, te = .receive e src data → floodCandidate src data = some c →
          c.isRelay = true → (s.pending u i).key ≠ (c.origin, c.seq) := by
        intro e src data c hte hc hrelay
        rcases event_cases hevent with ⟨k, env, tx, rfl, hk, rfl, -⟩ | ⟨hnone, -⟩
        · cases hte
          exact (hpasses rfl tx hk c hc).2 hrelay i hi hwraps
        · exact absurd hte (hnone e src data)
      rcases waits_or_sent h.toSources hkeeps hi hspares with hwaits | ⟨tx, htx, hsender, hframe⟩
      · left
        refine ⟨i, ?_, ?_⟩
        · rw [hwaits]
          exact hi
        · rw [hwaits, hmac]
          exact hwraps
      · exact hsent (Or.inr htx) hsender (brings_of_wraps hwraps hframe)
    · left
      refine ⟨i, ?_⟩
      unfold Mesh.pending
      rw [handle_node_of_ne lib build s b te trail hb, hmac]
      exact ⟨hi, hwraps⟩
  · exact hsent (Or.inl htx) hsender hbrings

/-- **A node that has heard a packet serves it**, unless it gives it up. -/
theorem serves_step (h : s.Flowing m) {u : ι} (hother : u ≠ m) (hserves : s.HasHeard m p u → s.Serves m p u)
    {me : MeshEvent ι} (hcalm : Calm lib G m s me) (hpasses : PassesOn m p u s me)
    (hheard : (s.step lib build me).1.HasHeard m p u) : (s.step lib build me).1.Serves m p u := by
  revert hheard
  apply step_ind (P := fun t => t.HasHeard m p u → t.Serves m p u) hserves
  intro b te trail hevent hheard
  have hkeeps : (s.node b).KeepsHeld lib te := hcalm.keeps _ hevent
  by_cases hbefore : s.HasHeard m p u
  · exact (hserves hbefore).handle h hevent hkeeps hpasses
  · rcases hasHeard_cases h hevent hheard with hheard | ⟨rfl, k, env, tx, rfl, hk, rfl, c, hc, horigin, hinner⟩
    · exact absurd hheard hbefore
    · -- the first copy: it is welcome, and the tables have room for it
      obtain ⟨hnew, hhop⟩ := (hpasses rfl tx hk c hc).1 horigin hinner hbefore
      have hself : c.origin ≠ s.mac u := by
        rw [horigin]
        intro hsame
        exact hother (h.apart hsame).symm
      have hidle := (hcalm.room tx hk c hc hself).2 hnew hhop
      have hscheduled : ∃ i old, (s.handle lib build u (.receive env (s.mac tx.sender) tx.frame) trail).1.pending u i =
          c.forward ((s.node u).env env) old := scheduled hkeeps hc hself hnew hhop hidle
      obtain ⟨i, old, hi⟩ := hscheduled
      left
      refine ⟨i, ?_, ?_⟩
      · rw [hi]
        rfl
      · rw [hi, handle_mac lib build s u _ trail (h.delays u)]
        exact FloodCandidate.forward_wraps horigin hinner _ old

/-! ## Who is reached -/

/-- **The flood goes down a path.** Once it is over, a node joined to one that serves the packet, by a path whose
nodes on the way serve it once they have heard it, has heard it. -/
theorem Settled.reaches (h : s.Settled G) {u v : ι} (w : G.Walk u v) (hu : s.Serves m p u) (hne : u ≠ v)
    (hserves : ∀ x ∈ w.support, x ≠ v → s.HasHeard m p x → s.Serves m p x) : s.HasHeard m p v := by
  induction w with
  | nil => exact absurd rfl hne
  | @cons u x v hadj w ih =>
    have hx : s.HasHeard m p x := by
      -- nothing is pending any more: node `u` has sent it
      rcases hu with ⟨i, hi, -⟩ | ⟨tx, htx, rfl, hbrings⟩
      · rw [h.pending u i] at hi
        cases hi
      · exact h.hasHeard htx hbrings hadj
    by_cases hxv : x = v
    · rw [← hxv]
      exact hx
    · have hmem : x ∈ (SimpleGraph.Walk.cons hadj w).support := by
        rw [SimpleGraph.Walk.support_cons]
        exact List.mem_cons_of_mem _ w.start_mem_support
      refine ih (hserves x hmem hxv hx) hxv fun y hy => hserves y ?_
      rw [SimpleGraph.Walk.support_cons]
      exact List.mem_cons_of_mem _ hy

/-- **A flood covers what its frames can reach.** Let nodes with distinct MACs run on symmetric links without
losses, with one master that mints a packet only when the flood before is over, and no table overflowing.
Once no forward is pending and no frame is in flight, every packet minted is the master's, and every other
node joined to it by a path has heard the packet, if no node on the way gave it up: by finding its number
remembered or no hop left in the first copy, or its own forward cancelled by one it overheard. -/
theorem flood_covers (h : s.Fresh) (hmac : Function.Injective s.mac) {events : List (MeshEvent ι)}
    (hcalm : Mealy.Guarded (step lib build) (Calm lib G m) s events) :
    let t := (Mealy.run (step lib build) s events).1
    t.Settled G → ∀ x ∈ t.minted, x.1 = m ∧
      ∀ v, v ≠ m → ∀ w : G.Walk m v,
        (∀ u ∈ w.support, u ≠ m → u ≠ v → Mealy.Guarded (step lib build) (PassesOn m x.2 u) s events) →
          t.HasHeard m x.2 v := by
  intro t hsettled x hx
  have hflowing : t.Flowing m :=
    Mealy.inv_run (fun s => s.Flowing m) (fun s me hs hme => hs.step hme) (h.flowing hmac m) hcalm
  refine ⟨hflowing.master x hx, fun v hv w hpasses => ?_⟩
  have hmaster : t.Serves m x.2 m := by
    rcases hflowing.aired x hx with ⟨tx, htx, hsender, hframe⟩ | ⟨i, hi, -⟩
    · exact Or.inr ⟨tx, htx, hsender, brings_of_toFrame hsender hframe⟩
    · rw [hsettled.delayed m i] at hi
      cases hi
  refine hsettled.reaches w hmaster hv.symm fun u hu huv => ?_
  by_cases hum : u = m
  · intro _
    rw [hum]
    exact hmaster
  · have hrun : t.Flowing m ∧ (t.HasHeard m x.2 u → t.Serves m x.2 u) := by
      refine Mealy.inv_run (fun s => s.Flowing m ∧ (s.HasHeard m x.2 u → s.Serves m x.2 u)) ?_ ?_
        (Mealy.guarded_and.2 ⟨hcalm, hpasses u hu hum huv⟩)
      · intro s me hs hme
        exact ⟨hs.1.step hme.1, fun hheard => serves_step hs.1 hum hs.2 hme.1 hme.2 hheard⟩
      · refine ⟨h.flowing hmac m, ?_⟩
        rintro ⟨y, hy, -⟩
        rw [h.heard] at hy
        cases hy
    exact hrun.2

end Step

/-! ## Two small meshes -/

theorem booted_fresh (build : Build) (nvs : ι → Nvs) (boardId : ι → UInt8) (mac : ι → Mac) :
    (booted build nvs boardId mac).Fresh where
  air := rfl
  heard := rfl
  minted := rfl
  pending b i := by simp only [booted, Mesh.pending, boot_relay]
  delayed b i := by simp only [booted, boot_delayedPackets]

/-- Nodes in a line, each linked to the next. -/
def line (n : ℕ) : SimpleGraph (Fin n) := SimpleGraph.fromRel fun a b => a.val + 1 = b.val

instance (n : ℕ) : DecidableRel (line n).Adj := by
  unfold line
  infer_instance

theorem allHeard_covered :
    let t := (Mealy.run (step noUpdate plainBuild) (oneMaster 3) allHeard).1
    t.minted ≠ [] ∧ ∀ x ∈ t.minted, x.1 = 0 ∧ t.HasHeard 0 x.2 2 := by
  intro t
  have hcovers := flood_covers (m := 0) (booted_fresh _ _ _ _) (by decide +kernel)
    (show Mealy.Guarded (step noUpdate plainBuild) (Calm noUpdate (line 3) 0) (oneMaster 3) allHeard by decide +kernel)
  have hpasses : ∀ x ∈ t.minted,
      Mealy.Guarded (step noUpdate plainBuild) (PassesOn 0 x.2 1) (oneMaster 3) allHeard := by decide +kernel
  refine ⟨by decide +kernel, fun x hx => ?_⟩
  have hfirst : (line 3).Adj 0 1 := by decide
  have hsecond : (line 3).Adj 1 2 := by decide
  obtain ⟨hmaster, hheard⟩ := hcovers (by decide +kernel) x hx
  refine ⟨hmaster, hheard 2 (by decide) (.cons hfirst (.cons hsecond .nil)) ?_⟩
  intro u hu hum huv
  have hone : u = 1 := by omega
  rw [hone]
  exact hpasses x hx

/-- A run without losses in a connected mesh with master `0`, each frame heard once by each neighbour. The flood
is over, and node `v`, within `MAX_HOPS + 1` links of the master, has missed a packet. -/
structure MissedBy {n : ℕ} (G : SimpleGraph (Fin (n + 1))) (events : List (MeshEvent (Fin (n + 1)))) (v : Fin (n + 1)) :
    Prop where
  connected : G.Connected
  fresh : (oneMaster (n + 1)).Fresh
  apart : Function.Injective (oneMaster (n + 1)).mac
  calm : Mealy.Guarded (step noUpdate plainBuild) (Calm noUpdate G 0) (oneMaster (n + 1)) events
  once : Mealy.Guarded (step noUpdate plainBuild) HeardOnce (oneMaster (n + 1)) events
  settled : (Mealy.run (step noUpdate plainBuild) (oneMaster (n + 1)) events).1.Settled G
  near : G.dist 0 v ≤ maxHops.toNat + 1
  missed : ∃ x ∈ (Mealy.run (step noUpdate plainBuild) (oneMaster (n + 1)) events).1.minted,
    ¬(Mealy.run (step noUpdate plainBuild) (oneMaster (n + 1)) events).1.HasHeard 0 x.2 v

/-- A master with two neighbours, linked to each other, and a fourth node linked to the second of them only. -/
def bridge : SimpleGraph (Fin 4) :=
  SimpleGraph.fromRel fun a b => (a, b) ∈ [((0 : Fin 4), (1 : Fin 4)), (0, 2), (1, 2), (2, 3)]

/-- A node with a short way and a long way to the master, and one more node behind it. -/
def detour : SimpleGraph (Fin 7) :=
  SimpleGraph.fromRel fun a b => (a, b) ∈ [((0 : Fin 7), (1 : Fin 7)), (1, 2), (2, 3), (3, 4), (0, 5), (5, 4), (4, 6)]

instance : DecidableRel bridge.Adj := by
  unfold bridge
  infer_instance

instance : DecidableRel detour.Adj := by
  unfold detour
  infer_instance

/-- Both neighbours schedule the packet, and the first one's forward cancels that of the second. -/
def suppressedBridge : List (MeshEvent (Fin 4)) :=
  mint 0 ++ [.deliver 0 1 { millis := 0 }, .deliver 0 2 { millis := 0, entropy := 20 }] ++
    roundAfter 1 10 ++ [.deliver 1 0 { millis := 0 }, .pass 2 10, .deliver 1 2 { millis := 0 }]

/-- The packet is faster on the long way and arrives with no hop left, and then the short way brings nothing new. -/
def fasterDetour : List (MeshEvent (Fin 7)) :=
  mint 0 ++ [.deliver 0 1 { millis := 0 }, .deliver 0 5 { millis := 0, entropy := 25 }] ++
    roundAfter 1 6 ++ [.deliver 1 0 { millis := 0 }, .pass 2 6, .deliver 1 2 { millis := 0 }] ++
    roundAfter 2 6 ++ [.deliver 2 1 { millis := 0 }, .pass 3 12, .deliver 2 3 { millis := 0 }] ++
    roundAfter 3 6 ++ [.deliver 3 2 { millis := 0 }, .pass 4 18, .deliver 3 4 { millis := 0 }] ++
    roundAfter 5 31 ++ [.deliver 4 0 { millis := 0 }, .pass 4 13, .deliver 4 4 { millis := 0 }]

theorem bridge_connected : bridge.Connected := by
  have hfirst : bridge.Adj 0 2 := by decide
  have hsecond : bridge.Adj 2 3 := by decide
  have hreach : ∀ v, bridge.Reachable 0 v := by
    intro v
    fin_cases v
    · rfl
    · exact SimpleGraph.Adj.reachable (by decide)
    · exact hfirst.reachable
    · exact hfirst.reachable.trans hsecond.reachable
  exact (SimpleGraph.connected_iff_exists_forall_reachable bridge).2 ⟨0, hreach⟩

theorem detour_connected : detour.Connected := by
  have hfirst : detour.Adj 0 5 := by decide
  have hsecond : detour.Adj 5 4 := by decide
  have hone : detour.Adj 0 1 := by decide
  have htwo : detour.Adj 1 2 := by decide
  have hthree : detour.Adj 2 3 := by decide
  have hlast : detour.Adj 4 6 := by decide
  have hfour : detour.Reachable 0 4 := hfirst.reachable.trans hsecond.reachable
  have hreach : ∀ v, detour.Reachable 0 v := by
    intro v
    fin_cases v
    · rfl
    · exact hone.reachable
    · exact hone.reachable.trans htwo.reachable
    · exact (hone.reachable.trans htwo.reachable).trans hthree.reachable
    · exact hfour
    · exact hfirst.reachable
    · exact hfour.trans hlast.reachable
  exact (SimpleGraph.connected_iff_exists_forall_reachable detour).2 ⟨0, hreach⟩

/-- **Distance does not settle it.** A node two links from the master misses a packet because the only node before
it overhears another and keeps silent; one three links from it, because the only node before it first heard
the packet over four hops. -/
theorem not_covered : MissedBy bridge suppressedBridge 3 ∧ MissedBy detour fasterDetour 6 := by
  have hthree : maxHops.toNat = 3 := rfl
  constructor
  · have hfirst : bridge.Adj 0 2 := by decide
    have hsecond : bridge.Adj 2 3 := by decide
    have hdist : bridge.dist 0 3 ≤ 2 := SimpleGraph.dist_le (.cons hfirst (.cons hsecond .nil))
    exact ⟨bridge_connected, booted_fresh _ _ _ _, by decide +kernel, by decide +kernel, by decide +kernel,
      by decide +kernel, by omega, by decide +kernel⟩
  · have hfirst : detour.Adj 0 5 := by decide
    have hsecond : detour.Adj 5 4 := by decide
    have hlast : detour.Adj 4 6 := by decide
    have hdist : detour.dist 0 6 ≤ 3 := SimpleGraph.dist_le (.cons hfirst (.cons hsecond (.cons hlast .nil)))
    exact ⟨detour_connected, booted_fresh _ _ _ _, by decide +kernel, by decide +kernel, by decide +kernel,
      by decide +kernel, by omega, by decide +kernel⟩

end Mesh

end Nowde
