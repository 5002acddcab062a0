import Nowde.Proof.MeshNode

/-!
# The mesh

Any number of nodes on one radio channel. What is sent stays on the air: a delivery names a
transmission and a node, so frames may be lost, repeated, reordered and heard by any nodes. Each
node runs in small steps, reboots included, and each at its own time. The mesh also records what
nobody sees: who heard what, what was minted, and through which transmissions a forward came.

* `handle_turn`: what an event at one node does to its pending forwards and to the air.
-/

namespace Nowde

/-- A frame on the air. The trail of a forward is the transmissions it was passed on through, the
latest first; it is recorded by the mesh, not sent. -/
structure Transmission (ι : Type*) where
  sender : ι
  dest : Mac
  frame : List UInt8
  trail : List ℕ
deriving DecidableEq

/-- The nodes, and the history of the channel. -/
structure Mesh (ι : Type*) where
  node : ι → TaskState
  /-- The trail of what each pending slot holds. -/
  trail : ι → Fin maxPendingRelays → List ℕ := fun _ _ => []
  /-- Everything sent, in order; a transmission is named by its place. -/
  air : List (Transmission ι) := []
  /-- Who heard which transmission, in order. -/
  heard : List (ℕ × ι) := []
  /-- Who minted what, in order. -/
  minted : List (ι × MediaSyncPacket) := []

/-- What can happen in the mesh. -/
inductive MeshEvent (ι : Type*)
  /-- Node `b` hears transmission `k`. -/
  | deliver (k : ℕ) (b : ι) (env : Env)
  /-- Time passes at node `b`. -/
  | pass (b : ι) (ms : ℕ)
  /-- Node `b` reads a packet from its host. -/
  | usb (b : ι) (env : Env) (packet : MidiEventPacket)
  /-- The ESP-NOW task of node `b` makes its next step. -/
  | task (b : ι) (env : Env)

/-- What goes on the air among the outputs of node `b`; its `0x05` frames take the trails in order. -/
def transmissions {ι : Type*} (b : ι) : List (List ℕ) → List Out → List (Transmission ι)
  | _, [] => []
  | trails, .espNowSend dest frame :: out =>
    if byteAt frame 0 = espnowMsgMeshRelay then
      ⟨b, dest, frame, trails.headD []⟩ :: transmissions b trails.tail out
    else ⟨b, dest, frame, []⟩ :: transmissions b trails out
  | trails, _ :: out => transmissions b trails out

/-- The slots the relay's turn fires, in slot order. -/
def Relay.dueSlots (r : Relay) (now : UInt32) : List (Fin maxPendingRelays) :=
  (List.finRange maxPendingRelays).filter fun i => (r.pendingRelays i).due now

/-- The trails of the forwards an event transmits. -/
def dueTrails (s : TaskState) (trail : Fin maxPendingRelays → List ℕ) : TaskEvent → List (List ℕ)
  | .task _ => if s.point = .relays then (s.node.relay.dueSlots (millisAt s.time)).map trail else []
  | _ => []

namespace Mesh

variable {ι : Type*}

/-- The MAC of a node. -/
def mac (s : Mesh ι) (a : ι) : Mac := (s.node a).node.relay.myMacAddress

/-- A pending slot of a node. -/
def pending (s : Mesh ι) (b : ι) (i : Fin maxPendingRelays) : PendingRelay :=
  (s.node b).node.relay.pendingRelays i

/-- The node an event happens to, what happens there, and the trail a forward scheduled by it gets. -/
def event (s : Mesh ι) : MeshEvent ι → Option (ι × TaskEvent × List ℕ)
  | .deliver k b env => s.air[k]?.map fun tx => (b, .receive env (s.mac tx.sender) tx.frame, k :: tx.trail)
  | .pass b ms => some (b, .pass ms, [])
  | .usb b env packet => some (b, .usb env packet, [])
  | .task b env => some (b, .task env, [])

variable [DecidableEq ι]

/-- An event at node `b`. A slot that holds something new was filled by the event. -/
def handle (lib : UpdateLib) (build : Build) (s : Mesh ι) (b : ι) (te : TaskEvent) (trail : List ℕ) :
    Mesh ι × List (Transmission ι) :=
  let r := (s.node b).step lib build te
  let sent := transmissions b (dueTrails (s.node b) (s.trail b) te) r.2
  ({ node := Function.update s.node b r.1
     trail := Function.update s.trail b fun i =>
      if (r.1.node.relay.pendingRelays i).active ∧ r.1.node.relay.pendingRelays i ≠ s.pending b i then trail
      else s.trail b i
     air := s.air ++ sent
     heard := s.heard ++ trail.head?.toList.map (·, b)
     minted := s.minted ++ ((s.node b).mints te).toList.map (b, ·) }, sent)

/-- One event of the mesh. What was never sent is not heard. -/
def step (lib : UpdateLib) (build : Build) (s : Mesh ι) (e : MeshEvent ι) : Mesh ι × List (Transmission ι) :=
  match s.event e with
  | some (b, te, trail) => s.handle lib build b te trail
  | none => (s, [])

/-- A step is an event at a node, or nothing. -/
theorem step_ind {lib : UpdateLib} {build : Build} {s : Mesh ι} {me : MeshEvent ι} {P : Mesh ι → Prop} (h : P s)
    (hevent : ∀ {b te trail}, s.event me = some (b, te, trail) → P (s.handle lib build b te trail).1) :
    P (s.step lib build me).1 := by
  unfold step
  cases heq : s.event me with
  | none => exact h
  | some x => exact hevent heq

omit [DecidableEq ι] in
/-- A node hears a transmission, along with its trail, or something else happens to it. -/
theorem event_cases {s : Mesh ι} {me : MeshEvent ι} {b : ι} {te : TaskEvent} {trail : List ℕ}
    (h : s.event me = some (b, te, trail)) :
    (∃ k env tx, me = .deliver k b env ∧ s.air[k]? = some tx ∧ te = .receive env (s.mac tx.sender) tx.frame ∧
        trail = k :: tx.trail) ∨
      (∀ env src data, te ≠ .receive env src data) ∧ trail = [] := by
  cases me with
  | deliver k b' env =>
    obtain ⟨tx, hk, htx⟩ := Option.map_eq_some_iff.1 h
    cases htx
    exact Or.inl ⟨k, env, tx, rfl, hk, rfl, rfl⟩
  | pass b' ms =>
    cases h
    exact Or.inr ⟨fun _ _ _ => by simp, rfl⟩
  | usb b' env packet =>
    cases h
    exact Or.inr ⟨fun _ _ _ => by simp, rfl⟩
  | task b' env =>
    cases h
    exact Or.inr ⟨fun _ _ _ => by simp, rfl⟩

end Mesh

/-! ## What goes on the air -/

section Transmissions

variable {ι : Type*} {b : ι} {out out' : List Out} {trails : List (List ℕ)}

/-- A `0x05` frame. -/
def Transmission.isRelay (tx : Transmission ι) : Bool := byteAt tx.frame 0 = espnowMsgMeshRelay

/-- A `0x03` frame. -/
def Transmission.isMedia (tx : Transmission ι) : Bool := byteAt tx.frame 0 = espnowMsgMediaSync

/-- The forward of a pending slot on the air. -/
def firing (b : ι) (trail : Fin maxPendingRelays → List ℕ) (t : Fin maxPendingRelays → PendingRelay)
    (i : Fin maxPendingRelays) : Transmission ι :=
  ⟨b, Mac.broadcast, (t i).frame, trail i⟩

theorem transmissions_append_of_noForward (h : NoForward out) :
    transmissions b trails (out ++ out') = transmissions b [] out ++ transmissions b trails out' := by
  induction out with
  | nil => rfl
  | cons o out ih =>
    obtain ⟨ho, hout⟩ := noForward_cons.1 h
    cases o with
    | espNowSend dest frame =>
      have hno : ¬byteAt frame 0 = espnowMsgMeshRelay := by simpa [Out.isForward] using ho
      simp only [List.cons_append, transmissions, if_neg hno, ih hout]
    | _ => exact ih hout

/-- Outputs without a forward: every frame goes out with no trail. -/
theorem mem_transmissions_of_noForward (h : NoForward out) {tx : Transmission ι} :
    tx ∈ transmissions b trails out ↔
      tx.sender = b ∧ tx.trail = [] ∧ Out.espNowSend tx.dest tx.frame ∈ out := by
  induction out with
  | nil => simp [transmissions]
  | cons o out ih =>
    obtain ⟨ho, hout⟩ := noForward_cons.1 h
    cases o with
    | espNowSend dest frame =>
      have hno : ¬byteAt frame 0 = espnowMsgMeshRelay := by simpa [Out.isForward] using ho
      simp only [transmissions, if_neg hno, List.mem_cons, ih hout, Out.espNowSend.injEq]
      obtain ⟨b', dest', frame', trail'⟩ := tx
      simp only [Transmission.mk.injEq]
      tauto
    | _ => simpa [transmissions] using ih hout

theorem isRelay_of_noForward (h : NoForward out) {tx : Transmission ι} (htx : tx ∈ transmissions b trails out) :
    tx.isRelay = false :=
  h _ ((mem_transmissions_of_noForward h).1 htx).2.2

/-- The relay's turn puts its due slots on the air, in slot order. -/
theorem transmissions_turn (r : Relay) (now : UInt32) (trail : Fin maxPendingRelays → List ℕ) :
    transmissions b ((r.dueSlots now).map trail)
        ((processPendingRelays now r).2.map (.espNowSend Mac.broadcast)) =
      (r.dueSlots now).map (firing b trail r.pendingRelays) := by
  unfold processPendingRelays Slots.collect Relay.dueSlots
  dsimp only
  induction List.finRange maxPendingRelays with
  | nil => rfl
  | cons i is ih =>
    by_cases hdue : (r.pendingRelays i).due now = true
    · have hfive : byteAt (r.pendingRelays i).frame 0 = espnowMsgMeshRelay := rfl
      simp only [List.filter_cons, List.filterMap_cons, hdue, if_true, List.map_cons, transmissions, hfive,
        List.headD_cons, List.tail_cons, ih]
      rfl
    · simpa [List.filter_cons, List.filterMap_cons, hdue] using ih

theorem transmissions_of_noForward (h : NoForward out) :
    transmissions b trails out = transmissions b [] out := by
  have happend : transmissions b trails (out ++ []) = transmissions b [] out ++ transmissions b trails [] :=
    transmissions_append_of_noForward h
  rw [List.append_nil] at happend
  rw [happend]
  exact List.append_nil _

/-- What is on the air was put out, and what is put out is on the air. -/
theorem mem_transmissions {tx : Transmission ι} (h : tx ∈ transmissions b trails out) :
    tx.sender = b ∧ Out.espNowSend tx.dest tx.frame ∈ out := by
  induction out generalizing trails with
  | nil => cases h
  | cons o out ih =>
    cases o with
    | espNowSend dest frame =>
      unfold transmissions at h
      split at h
      · rcases List.mem_cons.1 h with rfl | h
        · exact ⟨rfl, List.mem_cons_self⟩
        · exact (ih h).imp_right (List.mem_cons_of_mem _)
      · rcases List.mem_cons.1 h with rfl | h
        · exact ⟨rfl, List.mem_cons_self⟩
        · exact (ih h).imp_right (List.mem_cons_of_mem _)
    | _ => exact (ih h).imp_right (List.mem_cons_of_mem _)

theorem exists_transmission {dest : Mac} {frame : List UInt8} (h : Out.espNowSend dest frame ∈ out)
    (trails : List (List ℕ)) :
    ∃ tx ∈ transmissions b trails out, tx.sender = b ∧ tx.dest = dest ∧ tx.frame = frame := by
  induction out generalizing trails with
  | nil => cases h
  | cons o out ih =>
    rcases List.mem_cons.1 h with rfl | hmem
    · unfold transmissions
      split
      · exact ⟨_, List.mem_cons_self, rfl, rfl, rfl⟩
      · exact ⟨_, List.mem_cons_self, rfl, rfl, rfl⟩
    · cases o with
      | espNowSend dest' frame' =>
        unfold transmissions
        split
        · obtain ⟨tx, htx, hsame⟩ := ih hmem (trails.tail)
          exact ⟨tx, List.mem_cons_of_mem _ htx, hsame⟩
        · obtain ⟨tx, htx, hsame⟩ := ih hmem trails
          exact ⟨tx, List.mem_cons_of_mem _ htx, hsame⟩
      | _ => exact ih hmem trails

theorem Transmission.isRelay_of_isMedia {tx : Transmission ι} (h : tx.isMedia = true) : tx.isRelay = false := by
  have hthree : byteAt tx.frame 0 = espnowMsgMediaSync := by simpa [Transmission.isMedia] using h
  unfold Transmission.isRelay
  rw [hthree]
  rfl

/-- Only forwards have a trail. -/
theorem trail_of_not_relay {tx : Transmission ι} (h : tx ∈ transmissions b trails out) (hno : tx.isRelay = false) :
    tx.trail = [] := by
  induction out generalizing trails with
  | nil => cases h
  | cons o out ih =>
    cases o with
    | espNowSend dest frame =>
      unfold transmissions at h
      split at h
      · next hfive =>
        rcases List.mem_cons.1 h with rfl | h
        · simp [Transmission.isRelay, hfive] at hno
        · exact ih h
      · rcases List.mem_cons.1 h with rfl | h
        · rfl
        · exact ih h
    | _ => exact ih h

theorem countP_transmissions : (transmissions b trails out).countP Transmission.isMedia = out.countP Out.isMedia := by
  induction out generalizing trails with
  | nil => rfl
  | cons o out ih =>
    cases o with
    | espNowSend dest frame =>
      unfold transmissions
      split
      · rw [List.countP_cons, List.countP_cons, ih]
        rfl
      · rw [List.countP_cons, List.countP_cons, ih]
        rfl
    | _ =>
      rw [List.countP_cons_of_neg (by simp [Out.isMedia])]
      exact ih

end Transmissions

/-! ## One event -/

namespace Mesh

section Handle

variable {ι : Type*} [DecidableEq ι] (lib : UpdateLib) (build : Build) (s : Mesh ι) (b : ι) (te : TaskEvent) (trail : List ℕ)

/-- What an event at node `b` does to its pending forwards and to the air. -/
inductive Turn (s : Mesh ι) (b : ι) (trail : List ℕ) (r : Mesh ι × List (Transmission ι)) :
    TaskEvent → Prop
  /-- Nothing is scheduled and nothing forwarded. -/
  | keep {te : TaskEvent} {out : List Out} :
    (∀ i, (r.1.pending b i).active = true → r.1.pending b i = s.pending b i ∧ r.1.trail b i = s.trail b i) →
    NoForward out → r.2 = transmissions b [] out → Turn s b trail r te
  /-- One slot is filled by the copy heard. -/
  | fill {e : Env} {src : Mac} {data : List UInt8} {c : FloodCandidate} {out : List Out}
    (i : Fin maxPendingRelays) (old : PendingRelay) : floodCandidate src data = some c → c.origin ≠ s.mac b → c.hop + 1 ≤ maxHops →
    r.1.pending b i = c.forward ((s.node b).env e) old → r.1.trail b i = trail →
    (∀ j, j ≠ i → (r.1.pending b j).active = true →
      r.1.pending b j = s.pending b j ∧ r.1.trail b j = s.trail b j) →
    NoForward out → r.2 = transmissions b [] out → Turn s b trail r (.receive e src data)
  /-- The slots that are due are fired. -/
  | fire {e : Env} : (s.node b).point = .relays →
    (∀ i, (r.1.pending b i).active = true → (s.pending b i).due (millisAt (s.node b).time) = false ∧
      r.1.pending b i = s.pending b i ∧ r.1.trail b i = s.trail b i) →
    r.2 = ((s.node b).node.relay.dueSlots (millisAt (s.node b).time)).map (firing b (s.trail b) (s.pending b)) →
    Turn s b trail r (.task e)

theorem handle_node_self : (s.handle lib build b te trail).1.node b = ((s.node b).step lib build te).1 :=
  Function.update_self _ _ _

theorem handle_node_of_ne {b' : ι} (h : b' ≠ b) : (s.handle lib build b te trail).1.node b' = s.node b' :=
  Function.update_of_ne h _ _

theorem handle_trail_of_ne {b' : ι} (h : b' ≠ b) : (s.handle lib build b te trail).1.trail b' = s.trail b' :=
  Function.update_of_ne h _ _

theorem handle_trail_self (i : Fin maxPendingRelays) : (s.handle lib build b te trail).1.trail b i =
    if ((s.handle lib build b te trail).1.pending b i).active = true ∧
      (s.handle lib build b te trail).1.pending b i ≠ s.pending b i then trail else s.trail b i := by
  unfold pending
  rw [handle_node_self]
  exact congrFun (Function.update_self b _ s.trail) i

/-- A slot that holds what it held keeps its trail. -/
theorem handle_trail_of_same {i : Fin maxPendingRelays}
    (h : (s.handle lib build b te trail).1.pending b i = s.pending b i) :
    (s.handle lib build b te trail).1.trail b i = s.trail b i := by
  rw [handle_trail_self, if_neg]
  exact fun hne => hne.2 h

theorem handle_sent : (s.handle lib build b te trail).2 =
    transmissions b (dueTrails (s.node b) (s.trail b) te) ((s.node b).handle lib te).2 := by
  rw [← step_out lib build]
  rfl

theorem handle_air_of_lt {k : ℕ} (h : k < s.air.length) :
    (s.handle lib build b te trail).1.air[k]? = s.air[k]? :=
  List.getElem?_append_left h

theorem handle_mac (h : DelaysMedia (s.node b).node.delayedPackets) (a : ι) :
    (s.handle lib build b te trail).1.mac a = s.mac a := by
  unfold mac
  by_cases hab : a = b
  · subst hab
    rw [handle_node_self]
    exact step_mac lib build (s.node a) te h
  · rw [handle_node_of_ne lib build s b te trail hab]

/-- **What an event does to the pending forwards and to the air.** -/
theorem handle_turn (h : DelaysMedia (s.node b).node.delayedPackets) :
    Turn s b trail (s.handle lib build b te trail) te := by
  set r := s.handle lib build b te trail with hr
  have hstep := handle_relay lib (s.node b) te h
  have hafter : ∀ i, (r.1.pending b i).active = true →
      r.1.pending b i = ((s.node b).handle lib te).1.node.relay.pendingRelays i := by
    intro i hi
    unfold pending at hi ⊢
    rw [hr, handle_node_self] at hi ⊢
    exact step_pending lib build (s.node b) te hi
  have hsame : ∀ i, r.1.pending b i = s.pending b i → r.1.trail b i = s.trail b i :=
    fun i hi => handle_trail_of_same lib build s b te trail hi
  have hsent : r.2 = transmissions b (dueTrails (s.node b) (s.trail b) te) ((s.node b).handle lib te).2 :=
    handle_sent lib build s b te trail
  generalize hx : (((s.node b).handle lib te).1.node, ((s.node b).handle lib te).2) = x at hstep
  have hnode : ((s.node b).handle lib te).1.node = x.1 := by rw [← hx]
  have hout : ((s.node b).handle lib te).2 = x.2 := by rw [← hx]
  rw [hnode] at hafter
  rw [hout] at hsent
  cases hstep with
  | idle _ _ hrelay hno =>
    refine .keep (fun i hi => ?_) hno (hsent.trans (transmissions_of_noForward hno))
    have hpending : r.1.pending b i = s.pending b i := by
      rw [hafter i hi, hrelay]
      rfl
    exact ⟨hpending, hsame i hpending⟩
  | @copy e src data c x hc hrelay hno =>
    have hout := hsent.trans (transmissions_of_noForward hno)
    rcases c.handle_cases ((s.node b).env e) (s.node b).node.relay with
      hnone | ⟨hself, hhop, i, old, hi, hother⟩
    · refine .keep (fun i hi => ?_) hno hout
      have hpending := hafter i hi
      rw [hrelay] at hpending
      have hkept := hnone i (by rw [← hpending]; exact hi)
      have hpending : r.1.pending b i = s.pending b i := hpending.trans hkept
      exact ⟨hpending, hsame i hpending⟩
    · have hrest : ∀ j, j ≠ i → (r.1.pending b j).active = true →
          r.1.pending b j = s.pending b j ∧ r.1.trail b j = s.trail b j := by
        intro j hj hactive
        have hpending := hafter j hactive
        rw [hrelay] at hpending
        have hkept := hother j hj (by rw [← hpending]; exact hactive)
        have hpending : r.1.pending b j = s.pending b j := hpending.trans hkept
        exact ⟨hpending, hsame j hpending⟩
      by_cases hfilled : (r.1.pending b i).active = true ∧ r.1.pending b i ≠ s.pending b i
      · refine .fill i old hc hself hhop ?_ ?_ hrest hno hout
        · rw [hafter i hfilled.1, hrelay, hi]
        · rw [hr, handle_trail_self, if_pos hfilled]
      · -- the slot held the very same forward before, or the node has rebooted
        refine .keep (fun j hactive => ?_) hno hout
        by_cases hj : j = i
        · subst hj
          have hpending : r.1.pending b j = s.pending b j := by
            by_contra hne
            exact hfilled ⟨hactive, hne⟩
          exact ⟨hpending, hsame j hpending⟩
        · exact hrest j hj hactive
  | @turn e x hpoint hrelay hout =>
    refine .fire hpoint (fun i hi => ?_) ?_
    · have hpending := hafter i hi
      rw [hpending, hrelay] at hi
      obtain ⟨hkept, hdue⟩ := processPendingRelays_of_active hi
      rw [hrelay, hkept] at hpending
      exact ⟨hdue, hpending, hsame i hpending⟩
    · rw [hsent, hout, dueTrails, if_pos hpoint]
      exact transmissions_turn _ _ _

omit [DecidableEq ι] in
/-- A forward put on the air was pending at its sender and goes out with the trail of its slot, which it leaves
idle. -/
theorem Turn.relay {s : Mesh ι} {b : ι} {r : Mesh ι × List (Transmission ι)} {te : TaskEvent} {trail : List ℕ}
    (h : Turn s b trail r te) {tx : Transmission ι} (htx : tx ∈ r.2) (hrelay : tx.isRelay = true) :
    ∃ i, (s.pending b i).active = true ∧ tx = firing b (s.trail b) (s.pending b) i ∧
      ∀ j, (r.1.pending b j).active = true →
        j ≠ i ∧ r.1.pending b j = s.pending b j ∧ r.1.trail b j = s.trail b j := by
  -- two of the three turns put no forward on the air
  have hno : ∀ {out : List Out}, NoForward out → tx ∉ transmissions b [] out := by
    intro out hout hin
    rw [isRelay_of_noForward hout hin] at hrelay
    cases hrelay
  cases h with
  | keep _ hout hsent =>
    rw [hsent] at htx
    exact absurd htx (hno hout)
  | fill i old _ _ _ _ _ _ hout hsent =>
    rw [hsent] at htx
    exact absurd htx (hno hout)
  | fire _ hsame hsent =>
    rw [hsent] at htx
    obtain ⟨i, hi, rfl⟩ := List.mem_map.1 htx
    have hdue : (s.pending b i).due (millisAt (s.node b).time) = true := (List.mem_filter.1 hi).2
    refine ⟨i, PendingRelay.active_of_due hdue, rfl, fun j hj => ?_⟩
    obtain ⟨hnotdue, hkept⟩ := hsame j hj
    refine ⟨?_, hkept⟩
    intro hji
    rw [hji, hdue] at hnotdue
    cases hnotdue

/-- A slot in use after an event holds what it held, or it is the slot at `b` that the copy heard fills. -/
theorem handle_slot (h : DelaysMedia (s.node b).node.delayedPackets) {b' : ι} {i : Fin maxPendingRelays}
    (hi : ((s.handle lib build b te trail).1.pending b' i).active = true) :
    ((s.handle lib build b te trail).1.pending b' i = s.pending b' i ∧
        (s.handle lib build b te trail).1.trail b' i = s.trail b' i) ∨
      b' = b ∧ ∃ e src data c old, te = .receive e src data ∧ floodCandidate src data = some c ∧ c.origin ≠ s.mac b ∧
        c.hop + 1 ≤ maxHops ∧
        (s.handle lib build b te trail).1.pending b' i = c.forward ((s.node b).env e) old ∧
        (s.handle lib build b te trail).1.trail b' i = trail ∧
        ∀ j, j ≠ i → ((s.handle lib build b te trail).1.pending b' j).active = true →
          (s.handle lib build b te trail).1.pending b' j = s.pending b' j ∧
            (s.handle lib build b te trail).1.trail b' j = s.trail b' j := by
  by_cases hb : b' = b
  · subst hb
    have hturn := handle_turn lib build s b' te trail h
    generalize s.handle lib build b' te trail = r at hturn hi ⊢
    cases hturn with
    | keep hsame => exact Or.inl (hsame i hi)
    | fire _ hsame => exact Or.inl (hsame i hi).2
    | @fill e src data c out i₀ old hc hself hhop hfill htrail hrest =>
      by_cases hi₀ : i = i₀
      · subst hi₀
        exact Or.inr ⟨rfl, e, src, data, c, old, rfl, hc, hself, hhop, hfill, htrail, hrest⟩
      · exact Or.inl (hrest i hi₀ hi)
  · left
    unfold pending
    rw [handle_node_of_ne lib build s b te trail hb, handle_trail_of_ne lib build s b te trail hb]
    exact ⟨rfl, rfl⟩

end Handle

/-! ## The history only grows -/

/-- Mesh `t` is `s` some events later. -/
structure Extends (s t : Mesh ι) : Prop where
  air : s.air <+: t.air
  heard : s.heard ⊆ t.heard
  minted : s.minted ⊆ t.minted
  mac : ∀ a, t.mac a = s.mac a

theorem Extends.sent {s t : Mesh ι} (h : s.Extends t) {k : ℕ} {tx : Transmission ι} (hk : s.air[k]? = some tx) :
    t.air[k]? = some tx := by
  obtain ⟨sent, hsent⟩ := h.air
  have hlt : k < s.air.length := (List.getElem?_eq_some_iff.1 hk).1
  rw [← hsent, List.getElem?_append_left hlt]
  exact hk

/-! ## Media on the air -/

/-- Every `0x03` frame sent or still delayed was minted by its sender, and only forwards have a trail. -/
structure Sources (s : Mesh ι) : Prop where
  delayed : ∀ b i, ((s.node b).node.delayedPackets i).active = true →
    ∃ p, (b, p) ∈ s.minted ∧ ((s.node b).node.delayedPackets i).packet = p.toFrame
  media : ∀ tx ∈ s.air, tx.isMedia = true → ∃ p, (tx.sender, p) ∈ s.minted ∧ tx.frame = p.toFrame
  plain : ∀ tx ∈ s.air, tx.isRelay = false → tx.trail = []

theorem Sources.delays {s : Mesh ι} (h : s.Sources) (b : ι) : DelaysMedia (s.node b).node.delayedPackets := by
  intro i hi
  obtain ⟨p, -, hp⟩ := h.delayed b i hi
  rw [hp]
  rfl

section Grows

variable [DecidableEq ι] {lib : UpdateLib} {build : Build} {s : Mesh ι}

theorem Sources.extends_handle (h : s.Sources) (b : ι) (te : TaskEvent) (trail : List ℕ) :
    s.Extends (s.handle lib build b te trail).1 where
  air := List.prefix_append _ _
  heard := List.subset_append_left _ _
  minted := List.subset_append_left _ _
  mac := handle_mac lib build s b te trail (h.delays b)

theorem mem_handle_minted {b : ι} {te : TaskEvent} {trail : List ℕ} {p : MediaSyncPacket}
    (hp : (s.node b).mints te = some p) : (b, p) ∈ (s.handle lib build b te trail).1.minted := by
  refine List.mem_append_right _ ?_
  rw [hp]
  exact List.mem_singleton_self _

/-- **An event keeps the sources of media.** -/
theorem Sources.handle (h : s.Sources) (b : ι) (te : TaskEvent) (trail : List ℕ) :
    (s.handle lib build b te trail).1.Sources := by
  have hext : s.Extends (s.handle lib build b te trail).1 := h.extends_handle b te trail
  have hmedia := handle_media lib (s.node b) te
  refine ⟨?_, ?_, ?_⟩
  · intro b' i hi
    by_cases hb : b' = b
    · subst hb
      rw [handle_node_self] at hi ⊢
      have hsame := step_delayed lib build (s.node b') te hi
      rw [hsame] at hi ⊢
      -- a delayed frame is an old one, or the one this event minted
      rcases hmedia.delayed_after hi with hold | ⟨p, hp, -, hpacket⟩
      · rw [hold] at hi ⊢
        obtain ⟨p, hp, hpacket⟩ := h.delayed b' i hi
        exact ⟨p, hext.minted hp, hpacket⟩
      · exact ⟨p, mem_handle_minted hp, hpacket⟩
    · rw [handle_node_of_ne lib build s b te trail hb] at hi ⊢
      obtain ⟨p, hp, hpacket⟩ := h.delayed b' i hi
      exact ⟨p, hext.minted hp, hpacket⟩
  · intro tx htx hthree
    rcases List.mem_append.1 htx with hold | hnew
    · obtain ⟨p, hp, hframe⟩ := h.media tx hold hthree
      exact ⟨p, hext.minted hp, hframe⟩
    · obtain ⟨hsender, hout⟩ := mem_transmissions hnew
      have hframe : byteAt tx.frame 0 = espnowMsgMediaSync := by simpa [Transmission.isMedia] using hthree
      rw [step_out] at hout
      -- a frame goes out as it is minted, or from a delay slot
      rcases hmedia.media_out hout hframe with ⟨p, hp, -, heq⟩ | ⟨i, hi, -, hpacket⟩
      · rw [hsender]
        exact ⟨p, mem_handle_minted hp, heq⟩
      · obtain ⟨p, hp, heq⟩ := h.delayed b i hi
        rw [hsender, ← hpacket]
        exact ⟨p, hext.minted hp, heq⟩
  · intro tx htx hno
    rcases List.mem_append.1 htx with hold | hnew
    · exact h.plain tx hold hno
    · exact trail_of_not_relay hnew hno

end Grows

end Mesh

end Nowde
