import Nowde.Lib.Registry
import Nowde.Proof.Exclusive
import Nowde.Proof.Timeouts

/-!
# The ESP-NOW peers

`senderTable` and `receiverTable` share the radio's one peer list. A MAC is added to the list when a
table first takes it, and deleted when a table drops it.

* `step_refines`: the two tables and the peer list are two holders of one registry.
* `peersMatch_iff`: what the tables hold stays a peer, at every point of a run, **exactly** when no
  table drops a MAC that the other one holds.
* `sharedPeer_deleted`: a master that is heard as a slave as well stops beaconing.
-/

namespace Nowde

/-! ## The peer list -/

/-- What an output does to the peer list. -/
def Out.onPeers (peers : Finset Mac) : Out → Finset Mac
  | .addPeer mac => insert mac peers
  | .delPeer mac => peers.erase mac
  | _ => peers

/-- The peer list after some outputs. -/
def applyPeers (peers : Finset Mac) (out : List Out) : Finset Mac := out.foldl Out.onPeers peers

/-- A node and its radio's peer list. -/
structure Peered where
  node : Node
  peers : Finset Mac

/-- What the two tables hear of: frames, the host, and their cleanups. -/
inductive PeerEvent
  | radio (env : Env) (src : Mac) (data : List UInt8)
  | usb (env : Env) (packet : MidiEventPacket)
  | cleanupSenderTable (now : UInt32)
  | cleanupReceiverTable (now : UInt32)

namespace Peered

/-- `setup()` leaves the broadcast address as the only peer. -/
def boot (build : Build) (nvs : Nvs) (boardId : UInt8) (mac : Mac) : Peered where
  node := Nowde.boot build nvs boardId mac
  peers := {Mac.broadcast}

/-- An event of the node, with the reboot it may bring. -/
def onEvent (lib : UpdateLib) (build : Build) (s : Peered) (e : Event) : Peered × List Out :=
  let r := s.node.handle lib e
  if reboots r.2 then (boot build r.1.nvs r.1.boardId r.1.relay.myMacAddress, r.2)
  else ({ node := r.1, peers := applyPeers s.peers r.2 }, r.2)

def step (lib : UpdateLib) (build : Build) (s : Peered) : PeerEvent → Peered × List Out
  | .radio env src data => s.onEvent lib build (.radio env src data)
  | .usb env packet => s.onEvent lib build (.usb env packet)
  | .cleanupSenderTable now =>
    let t := Nowde.cleanupSenderTable now s.node.senderTable
    ({ node := { s.node with senderTable := t.1 }, peers := applyPeers s.peers t.2 }, t.2)
  | .cleanupReceiverTable now =>
    let t := Nowde.cleanupReceiverTable now s.node.receiverTable
    ({ node := { s.node with receiverTable := t.1 }, peers := applyPeers s.peers t.2 }, t.2)

end Peered

/-- **The peers match the tables**: active senders are peers, and so are the active receivers of a
sender; what the node sends to one of them has a peer. -/
structure PeersMatch (s : Peered) : Prop where
  senders : ∀ i, (s.node.senderTable i).active = true → (s.node.senderTable i).mac ∈ s.peers
  receivers : s.node.senderModeEnabled = true →
    ∀ i, (s.node.receiverTable i).active = true → (s.node.receiverTable i).mac ∈ s.peers
  reports : ∀ env mac frame, .espNowSend mac frame ∈ sendReceiverInfo env s.node → mac ∈ s.peers
  layers : ∀ env data length mac frame,
    .espNowSend mac frame ∈ (changeReceiverLayer env s.node data length).2 → mac ∈ s.peers

/-- A `SET_ROLE` that makes a sender a slave, and so drops its receivers. -/
def dropsReceivers (n : Node) (c : Command) (data : List UInt8) (length : ℕ) : Prop :=
  c = .setRole ∧ n.senderModeEnabled = true ∧ length ≥ 5 ∧
    (byteAt data 3 = nowdeRoleSlave ∨ byteAt data 3 = nowdeRoleMaster ∨ byteAt data 3 = nowdeRoleAuto) ∧
    resolveRole n.boardId (byteAt data 3) = nowdeRoleSlave

/-- The event carries one. -/
def Node.DropsReceivers (n : Node) (e : Event) : Prop :=
  ∃ c data length, n.commandOf e = some (c, data, length) ∧ dropsReceivers n c data length

/-- The senders that pass the first test are none of the receivers that pass the second. -/
def Node.Apart (n : Node) (sender : SenderEntry → Bool) (receiver : ReceiverEntry → Bool) : Prop :=
  ∀ i j, sender (n.senderTable i) = true → receiver (n.receiverTable j) = true →
    (n.senderTable i).mac ≠ (n.receiverTable j).mac

/-- **No shared MAC is dropped**: none that one table gives up, by its timeout or by the change to a
slave, is active in the other. -/
def NoSharedDrop (s : Peered) : PeerEvent → Prop
  | .radio env src data => s.node.DropsReceivers (.radio env src data) → s.node.Apart (·.active) (·.active)
  | .usb env packet => s.node.DropsReceivers (.usb env packet) → s.node.Apart (·.active) (·.active)
  | .cleanupSenderTable now => s.node.Apart (·.expired now) (·.active)
  | .cleanupReceiverTable now => s.node.Apart (·.active) (·.expired now)

/-! ## The peer list after some outputs -/

section Outputs

variable {peers : Finset Mac} {out : List Out}

@[simp] theorem applyPeers_nil : applyPeers peers [] = peers := rfl

@[simp] theorem applyPeers_cons (o : Out) : applyPeers peers (o :: out) = applyPeers (o.onPeers peers) out := rfl

/-- Outputs that add no peer strike off what they delete. -/
theorem applyPeers_of_no_add (h : ∀ mac, .addPeer mac ∉ out) :
    (applyPeers peers out : Set Mac) = (peers : Set Mac) \ {mac | .delPeer mac ∈ out} := by
  induction out generalizing peers with
  | nil => simp
  | cons o out ih =>
    have htail : ∀ mac, .addPeer mac ∉ out := fun mac hmem => h mac (List.mem_cons_of_mem _ hmem)
    rw [applyPeers_cons, ih htail]
    ext mac
    cases o with
    | addPeer m => exact absurd List.mem_cons_self (h m)
    | delPeer m =>
      simp only [Out.onPeers, Finset.coe_erase, Set.mem_sdiff, Set.mem_singleton_iff, Set.mem_ofPred_eq,
        List.mem_cons, Out.delPeer.injEq, not_or]
      exact and_assoc
    | _ => simp [Out.onPeers]

/-- Outputs without peers leave the list alone. -/
theorem applyPeers_of_none (ha : ∀ mac, .addPeer mac ∉ out) (hd : ∀ mac, .delPeer mac ∉ out) :
    (applyPeers peers out : Set Mac) = peers := by
  rw [applyPeers_of_no_add ha]
  ext mac
  simp [hd mac]

end Outputs

/-! ## Commands -/

section Commands

variable (lib : UpdateLib) (env : Env) {n : Node} (data : List UInt8) (length : ℕ)

theorem execute_addPeer (c : Command) (mac : Mac) : .addPeer mac ∉ (execute lib env n c data length).2 := by
  intro h
  cases execute_out lib env n data length c _ h

/-- A command other than a change of role. -/
theorem execute_tables_of_ne {c : Command} (hc : c ≠ .setRole) :
    (execute lib env n c data length).1.receiverTable = n.receiverTable ∧
      (n.senderModeEnabled = true → (execute lib env n c data length).1.senderModeEnabled = true) := by
  have hactivate : (activateSender n).receiverTable = n.receiverTable ∧
      (n.senderModeEnabled = true → (activateSender n).senderModeEnabled = true) := by
    unfold activateSender
    split
    · exact ⟨rfl, fun _ => rfl⟩
    · exact ⟨rfl, fun h => h⟩
  cases c with
  | setRole => exact absurd rfl hc
  | queryConfig => exact hactivate
  | pushFullConfig =>
    simp only [execute, pushFullConfig]
    split
    · exact hactivate
    · exact ⟨rfl, fun h => h⟩
  | queryRunningState =>
    simp only [execute, queryRunningState]
    split
    · unfold sendRunningState
      split <;> exact ⟨rfl, fun h => h⟩
    · split <;> exact ⟨rfl, fun h => h⟩
  | enterBootloader => exact ⟨rfl, fun h => h⟩
  | otaBegin | otaData | otaDataAcked | otaEnd => exact ⟨rfl, fun h => h⟩
  | setLocalLayer =>
    simp only [execute, setLocalLayer]
    split <;> exact ⟨rfl, fun h => h⟩
  | setLog =>
    simp only [execute, setLog]
    split <;> exact ⟨rfl, fun h => h⟩
  | setLr =>
    simp only [execute, setLr]
    split <;> exact ⟨rfl, fun h => h⟩
  | setLossPolicy =>
    simp only [execute, setLossPolicy]
    split <;> exact ⟨rfl, fun h => h⟩
  | setOrigin =>
    simp only [execute, setOrigin]
    split_ifs <;> exact ⟨rfl, fun h => h⟩
  | mediaSync =>
    simp only [execute, mediaSync]
    split_ifs <;> exact ⟨rfl, fun h => h⟩
  | changeReceiverLayer =>
    simp only [execute, changeReceiverLayer]
    split
    · split <;> exact ⟨rfl, fun h => h⟩
    · split <;> exact ⟨rfl, fun h => h⟩

/-- A valid `SET_ROLE` applies the role it resolves to. -/
theorem setRole_of_valid (hlen : length ≥ 5)
    (hrole : byteAt data 3 = nowdeRoleSlave ∨ byteAt data 3 = nowdeRoleMaster ∨ byteAt data 3 = nowdeRoleAuto) :
    ∃ m : Node, m.receiverTable = n.receiverTable ∧ m.senderModeEnabled = n.senderModeEnabled ∧
      (setRole env n data length).1 = (applyRole m (resolveRole n.boardId (byteAt data 3))).1 ∧
      ∀ o, o ∈ (setRole env n data length).2 ↔ o ∈ (applyRole m (resolveRole n.boardId (byteAt data 3))).2 ∨
        o ∈ sendHello env (setRole env n data length).1 ++ sendConfigState (setRole env n data length).1 := by
  refine ⟨{ n with storedRole := byteAt data 3, nvs := { n.nvs with role := some (byteAt data 3) } }, rfl, rfl, ?_⟩
  have hvalid : ¬(byteAt data 3 ≠ nowdeRoleSlave ∧ byteAt data 3 ≠ nowdeRoleMaster ∧
      byteAt data 3 ≠ nowdeRoleAuto) := by
    rintro ⟨h1, h2, h3⟩
    rcases hrole with h | h | h
    · exact h1 h
    · exact h2 h
    · exact h3 h
  unfold setRole
  rw [if_pos hlen]
  dsimp only
  rw [if_neg hvalid]
  refine ⟨rfl, fun o => ?_⟩
  simp only [List.mem_append, or_assoc]

/-- **A command that drops the receivers** empties their table and deletes their peers. -/
theorem execute_drops {c : Command} (h : dropsReceivers n c data length) :
    (execute lib env n c data length).1.receiverTable = (fun _ => {}) ∧
      ∀ mac, .delPeer mac ∈ (execute lib env n c data length).2 ↔
        ∃ i, (n.receiverTable i).active = true ∧ (n.receiverTable i).mac = mac := by
  obtain ⟨rfl, hsender, hlen, hrole, hslave⟩ := h
  obtain ⟨m, htable, hmode, hnode, hout⟩ := setRole_of_valid (n := n) env data length hlen hrole
  have hsender' : m.senderModeEnabled = true := hmode.trans hsender
  have happly : applyRole m nowdeRoleSlave =
      ({ m with nodeRole := nowdeRoleSlave, receiverModeEnabled := true, receiverTable := fun _ => {},
                senderModeEnabled := false },
        Slots.collect m.receiverTable fun e => if e.active then some (.delPeer e.mac) else none) := by
    unfold applyRole
    dsimp only
    rw [if_neg (by decide), if_pos rfl, if_pos hsender']
  rw [hslave, happly] at hnode hout
  refine ⟨congrArg Node.receiverTable hnode, fun mac => ?_⟩
  show .delPeer mac ∈ (setRole env n data length).2 ↔ _
  rw [hout, Slots.mem_collect, htable]
  constructor
  · rintro (⟨i, hi⟩ | hno)
    · split at hi
      · next hactive =>
        cases hi
        exact ⟨i, hactive, rfl⟩
      · cases hi
    · simp [sendHello, sendConfigState] at hno
  · rintro ⟨i, hactive, rfl⟩
    exact Or.inl ⟨i, if_pos hactive⟩

/-- **Any other command** leaves the receivers and their peers. -/
theorem execute_keeps {c : Command} (h : ¬dropsReceivers n c data length) :
    (execute lib env n c data length).1.receiverTable = n.receiverTable ∧
      (n.senderModeEnabled = true → (execute lib env n c data length).1.senderModeEnabled = true) ∧
      ∀ mac, .delPeer mac ∉ (execute lib env n c data length).2 := by
  by_cases hc : c = .setRole
  · subst hc
    by_cases hvalid : length ≥ 5 ∧
        (byteAt data 3 = nowdeRoleSlave ∨ byteAt data 3 = nowdeRoleMaster ∨ byteAt data 3 = nowdeRoleAuto)
    · obtain ⟨m, htable, hmode, hnode, hout⟩ := setRole_of_valid (n := n) env data length hvalid.1 hvalid.2
      generalize hrole : resolveRole n.boardId (byteAt data 3) = role at hnode hout
      -- a slave-to-be that drove would drop its receivers
      have hno : ¬(role = nowdeRoleSlave ∧ m.senderModeEnabled = true) := by
        rintro ⟨hslave, hsender⟩
        exact h ⟨rfl, hmode.symm.trans hsender, hvalid.1, hvalid.2, hrole.trans hslave⟩
      have happly : (applyRole m role).1.receiverTable = m.receiverTable ∧
          (m.senderModeEnabled = true → (applyRole m role).1.senderModeEnabled = true) ∧ (applyRole m role).2 = [] := by
        unfold applyRole
        dsimp only
        split_ifs with hmaster hslave hsender
        · exact ⟨rfl, fun _ => rfl, rfl⟩
        · exact absurd ⟨hslave, hsender⟩ hno
        · exact ⟨rfl, fun hs => absurd hs hsender, rfl⟩
        · exact ⟨rfl, fun hs => hs, rfl⟩
      show (setRole env n data length).1.receiverTable = _ ∧ (_ → (setRole env n data length).1.senderModeEnabled = true) ∧
        ∀ mac, .delPeer mac ∉ (setRole env n data length).2
      rw [hnode]
      refine ⟨happly.1.trans htable, fun hs => happly.2.1 (hmode.trans hs), fun mac hmem => ?_⟩
      rw [hout, happly.2.2] at hmem
      simp [sendHello, sendConfigState] at hmem
    · have hrejected : (setRole env n data length).1 = n ∧ ∀ mac, .delPeer mac ∉ (setRole env n data length).2 := by
        unfold setRole
        split
        · next hlen =>
          dsimp only
          rw [if_pos]
          · exact ⟨rfl, fun mac hmem => by simp [sendErrorReport] at hmem⟩
          · by_contra hrole
            refine hvalid ⟨hlen, ?_⟩
            by_contra hno
            push Not at hno
            exact hrole hno
        · exact ⟨rfl, fun mac hmem => by simp [sendConfigInvalid, sendErrorReport] at hmem⟩
      show (setRole env n data length).1.receiverTable = _ ∧ (_ → (setRole env n data length).1.senderModeEnabled = true) ∧
        ∀ mac, .delPeer mac ∉ (setRole env n data length).2
      rw [hrejected.1]
      exact ⟨rfl, fun hs => hs, hrejected.2⟩
  · obtain ⟨htable, hmode⟩ := execute_tables_of_ne lib env (n := n) data length hc
    refine ⟨htable, hmode, fun mac hmem => ?_⟩
    cases execute_out lib env n data length c _ hmem
    exact hc rfl

end Commands

/-! ## The tables as holders of the peer list -/

/-- The MACs each table holds, and the peer list. -/
def Peered.holders (s : Peered) : Registry.Holders Mac where
  first := Heard.keys (·.active) (·.mac) s.node.senderTable
  second := Heard.keys (·.active) (·.mac) s.node.receiverTable
  registered := s.peers

/-- No MAC has two slots of one table, and only a sender has receivers. -/
structure TablesInv (n : Node) : Prop where
  senders : ∀ i j, (n.senderTable i).active = true → (n.senderTable j).active = true →
    (n.senderTable i).mac = (n.senderTable j).mac → i = j
  receivers : ∀ i j, (n.receiverTable i).active = true → (n.receiverTable j).active = true →
    (n.receiverTable i).mac = (n.receiverTable j).mac → i = j
  follower : n.senderModeEnabled = false → ∀ i, (n.receiverTable i).active = false

section Steps

variable {lib : UpdateLib} {build : Build} {s : Peered}

theorem boot_tablesInv (nvs : Nvs) (boardId : UInt8) (mac : Mac) : TablesInv (boot build nvs boardId mac) := by
  have htask := boot_inv build nvs boardId mac
  have hidle : ∀ i, ((boot build nvs boardId mac).receiverTable i).active = false := by
    intro i
    rcases (applyRole_spec _ _).receivers with h | h
    · exact congrArg (fun t => (t i).active) h
    · exact h i
  exact ⟨htask.senders.unique, htask.receivers.unique, fun _ => hidle⟩

theorem keys_of_idle {n : ℕ} {α : Type*} {t : Fin n → α} {live : α → Bool} {key : α → Mac}
    (h : ∀ i, live (t i) = false) : Heard.keys live key t = ∅ := by
  ext k
  simp [Heard.keys, h]

/-- After boot nothing is held. -/
theorem boot_holders (nvs : Nvs) (boardId : UInt8) (mac : Mac) :
    (Peered.boot build nvs boardId mac).holders = ⟨∅, ∅, {Mac.broadcast}⟩ := by
  have hsenders : ∀ i, ((boot build nvs boardId mac).senderTable i).active = false := by
    intro i
    exact congrArg (fun t => (t i).active) (applyRole_spec _ _).command.senderTable
  have hreceivers : ∀ i, ((boot build nvs boardId mac).receiverTable i).active = false := by
    intro i
    rcases (applyRole_spec _ _).receivers with h | h
    · exact congrArg (fun t => (t i).active) h
    · exact h i
  unfold Peered.holders Peered.boot
  simp only [keys_of_idle hsenders, keys_of_idle hreceivers, Finset.coe_singleton]

/-- Under the invariant, the peers match the tables when the registry does. -/
theorem peersMatch_iff_matched (h : TablesInv s.node) : PeersMatch s ↔ s.holders.Matched := by
  constructor
  · intro hm
    refine ⟨?_, ?_⟩
    · rintro mac ⟨i, hi, rfl⟩
      exact hm.senders i hi
    · rintro mac ⟨i, hi, rfl⟩
      refine hm.receivers ?_ i hi
      by_contra hmode
      have hidle := h.follower (by simpa using hmode) i
      exact absurd (hi.symm.trans hidle) (by decide)
  · rintro ⟨hfirst, hsecond⟩
    have hreport : ∀ (env : Env) (m : Node) (mac : Mac) (frame : List UInt8), m.senderTable = s.node.senderTable →
        .espNowSend mac frame ∈ sendReceiverInfo env m → mac ∈ s.peers := by
      intro env m mac frame htable hmem
      obtain ⟨i, hactive, heq⟩ := mem_sendReceiverInfo env m hmem
      rw [htable] at hactive heq
      cases heq
      exact hfirst ⟨i, hactive, rfl⟩
    refine ⟨fun i hi => hfirst ⟨i, hi, rfl⟩, fun _ i hi => hsecond ⟨i, hi, rfl⟩,
      fun env mac frame => hreport env s.node mac frame rfl, ?_⟩
    intro env data length mac frame hmem
    unfold changeReceiverLayer at hmem
    split at hmem
    · dsimp only at hmem
      split at hmem
      · next i hfind =>
        -- the target was found in the receiver table
        have hfound := Slots.find_eq_some hfind
        simp only [Bool.and_eq_true, beq_iff_eq] at hfound
        rcases List.mem_cons.1 hmem with heq | hmem
        · cases heq
          exact hsecond ⟨i, hfound.1, hfound.2⟩
        · split at hmem
          · cases hmem
          · simp [sendErrorReport] at hmem
      · simp [sendErrorReport] at hmem
    · split at hmem
      · exact hreport env (changeSubscribedLayer s.node data length) mac frame rfl hmem
      · cases hmem

/-- The MACs of the entries that pass a test. -/
def macsOf {n : ℕ} {α : Type*} (t : Fin n → α) (key : α → Mac) (test : α → Bool) : Set Mac :=
  {mac | ∃ i, test (t i) = true ∧ key (t i) = mac}

theorem disjoint_macsOf {n m : ℕ} {α β : Type*} {t : Fin n → α} {u : Fin m → β} {key : α → Mac} {key' : β → Mac}
    {test : α → Bool} {test' : β → Bool} : Disjoint (macsOf t key test) (macsOf u key' test') ↔
      ∀ i j, test (t i) = true → test' (u j) = true → key (t i) ≠ key' (u j) := by
  rw [Set.disjoint_left]
  constructor
  · intro h i j hi hj hij
    exact h ⟨i, hi, rfl⟩ ⟨j, hj, hij.symm⟩
  · rintro h mac ⟨i, hi, rfl⟩ ⟨j, hj, hij⟩
    exact h i j hi hj hij.symm

/-- A cleanup strikes off what it gives up. -/
theorem applyPeers_cleanup {n : ℕ} {α : Type*} (peers : Finset Mac) (t : Fin n → α) (key : α → Mac) (test : α → Bool) :
    (applyPeers peers (Slots.collect t fun e => if test e then some (.delPeer (key e)) else none) : Set Mac) =
      (peers : Set Mac) \ macsOf t key test := by
  rw [applyPeers_of_no_add]
  · congr 1
    ext mac
    simp only [Set.mem_ofPred_eq, Slots.mem_collect, macsOf]
    constructor
    · rintro ⟨i, hi⟩
      split at hi
      · next htest =>
        cases hi
        exact ⟨i, htest, rfl⟩
      · cases hi
    · rintro ⟨i, htest, rfl⟩
      exact ⟨i, if_pos htest⟩
  · intro mac hmem
    obtain ⟨i, hi⟩ := Slots.mem_collect.1 hmem
    split at hi <;> cases hi

/-- What an event does to the tables and the peer list is an operation on the registry, one that spares
the other table's MACs exactly when no shared MAC is dropped. -/
structure Refines (s s' : Peered) (spares : Prop) : Prop where
  tables : TablesInv s'.node
  op : ∃ op, s'.holders = s.holders.step op ∧ (s.holders.Spares op ↔ spares)

theorem cleanupSenderTable_refines (h : TablesInv s.node) (now : UInt32) :
    Refines s (s.step lib build (.cleanupSenderTable now)).1 (NoSharedDrop s (.cleanupSenderTable now)) := by
  have hsame : ∀ e, (cleanupSenderEntry now e).active = true →
      e.active = true ∧ (cleanupSenderEntry now e).mac = e.mac :=
    fun e he => ⟨(cleanupSenderEntry_active he).1, (cleanupSenderEntry_active he).2.1⟩
  have hgone : ∀ e : SenderEntry, e.expired now = true ↔ e.active = true ∧ (cleanupSenderEntry now e).active = false := by
    intro e
    unfold SenderEntry.expired
    rw [Bool.and_eq_true, decide_eq_true_eq]
    exact and_congr_right fun hactive => (cleanupSenderEntry_active_iff hactive).symm
  refine ⟨⟨?_, h.receivers, h.follower⟩, .drop₁ (macsOf s.node.senderTable (·.mac) (·.expired now)), ?_, ?_⟩
  · intro i j hi hj hij
    obtain ⟨hi', hmi⟩ := hsame _ hi
    obtain ⟨hj', hmj⟩ := hsame _ hj
    exact h.senders i j hi' hj' (hmi.symm.trans (hij.trans hmj))
  · refine Registry.Holders.ext ?_ rfl (applyPeers_cleanup s.peers s.node.senderTable (·.mac) (·.expired now))
    show Heard.keys _ _ (fun i => cleanupSenderEntry now (s.node.senderTable i)) = _
    rw [Heard.keys_expire h.senders hsame]
    simp only [← hgone]
    rfl
  · exact disjoint_macsOf

theorem cleanupReceiverTable_refines (h : TablesInv s.node) (now : UInt32) :
    Refines s (s.step lib build (.cleanupReceiverTable now)).1 (NoSharedDrop s (.cleanupReceiverTable now)) := by
  have hsame : ∀ e, (cleanupReceiverEntry now e).active = true →
      e.active = true ∧ (cleanupReceiverEntry now e).mac = e.mac :=
    fun e he => ⟨(cleanupReceiverEntry_active he).1, (cleanupReceiverEntry_active he).2.1⟩
  have hgone : ∀ e : ReceiverEntry,
      e.expired now = true ↔ e.active = true ∧ (cleanupReceiverEntry now e).active = false := by
    intro e
    unfold ReceiverEntry.expired
    rw [Bool.and_eq_true, decide_eq_true_eq]
    exact and_congr_right fun hactive => (cleanupReceiverEntry_active_iff hactive).symm
  refine ⟨⟨h.senders, ?_, ?_⟩, .drop₂ (macsOf s.node.receiverTable (·.mac) (·.expired now)), ?_, ?_⟩
  · intro i j hi hj hij
    obtain ⟨hi', hmi⟩ := hsame _ hi
    obtain ⟨hj', hmj⟩ := hsame _ hj
    exact h.receivers i j hi' hj' (hmi.symm.trans (hij.trans hmj))
  · intro hmode i
    by_contra hactive
    have hbefore := (hsame (s.node.receiverTable i) (Bool.eq_true_of_not_eq_false hactive)).1
    exact absurd (hbefore.symm.trans (h.follower hmode i)) (by decide)
  · refine Registry.Holders.ext rfl ?_ (applyPeers_cleanup s.peers s.node.receiverTable (·.mac) (·.expired now))
    show Heard.keys _ _ (fun i => cleanupReceiverEntry now (s.node.receiverTable i)) = _
    rw [Heard.keys_expire h.receivers hsame]
    simp only [← hgone]
    rfl
  · exact disjoint_comm.trans disjoint_macsOf

/-- A key that is heard: the table takes it, or has it, or is full. -/
theorem note_refines {n : ℕ} {α : Type*} {t : Fin n → α} (live : α → Bool) (key : α → Mac) {src : Mac}
    (refresh : α → α) (fresh : α) {out : List Out} (peers : Finset Mac)
    (hrefresh : ∀ e, live (refresh e) = live e ∧ key (refresh e) = key e) (hfresh : live fresh = true ∧ key fresh = src)
    (hout : out = if (Slots.find t fun e => live e && key e == src).isNone ∧ (Slots.find t fun e => !live e).isSome
      then [.addPeer src] else []) :
    (Heard.keys live key (Heard.note live key src refresh fresh t) = insert src (Heard.keys live key t) ∧
        (applyPeers peers out : Set Mac) = insert src (peers : Set Mac)) ∨
      (Heard.keys live key (Heard.note live key src refresh fresh t) = Heard.keys live key t ∧
        (applyPeers peers out : Set Mac) = peers) := by
  rw [Heard.keys_note hrefresh hfresh, hout]
  split
  · exact Or.inl ⟨rfl, by simp [Out.onPeers]⟩
  · exact Or.inr ⟨rfl, rfl⟩

/-- What a table's note puts out. -/
theorem handleSenderBeacon_peers (env : Env) (t : Fin maxSenders → SenderEntry) (src : Mac) :
    (handleSenderBeacon env t src).2 =
      if (Slots.find t fun e => e.active && e.mac == src).isNone ∧ (Slots.find t fun e => !e.active).isSome then
        [.addPeer src] else [] := by
  unfold handleSenderBeacon
  cases Slots.find t fun e => e.active && e.mac == src with
  | some i => rfl
  | none => cases Slots.find t fun e => !e.active <;> rfl

theorem handleReceiverInfo_peers (env : Env) (t : Fin maxReceivers → ReceiverEntry) (src : Mac) {data : List UInt8}
    (hlen : data.length ≥ receiverInfoMinLen) : (handleReceiverInfo env t src data).2 =
      if (Slots.find t fun e => e.active && e.mac == src).isNone ∧ (Slots.find t fun e => !e.active).isSome then
        [.addPeer src] else [] := by
  unfold handleReceiverInfo
  rw [if_neg (by omega)]
  dsimp only
  cases Slots.find t fun e => e.active && e.mac == src with
  | some i => rfl
  | none => cases Slots.find t fun e => !e.active <;> rfl

/-- Hearing a key keeps the keys of a table apart. -/
theorem note_unique {n : ℕ} {α : Type*} {t : Fin n → α} {live : α → Bool} {key : α → Mac} {src : Mac}
    {refresh : α → α} {fresh : α}
    (h : ∀ i j, live (t i) = true → live (t j) = true → key (t i) = key (t j) → i = j)
    (hrefresh : ∀ e, key (refresh e) = key e) (hkey : key fresh = src) :
    let t' := Heard.note live key src refresh fresh t
    ∀ i j, live (t' i) = true → live (t' j) = true → key (t' i) = key (t' j) → i = j := by
  -- stamps do not matter here
  have htracks : Heard.Tracks t live key (fun _ => ()) (fun _ => ()) (fun _ => 0) := ⟨fun _ _ => rfl, h⟩
  have hnoted : Heard.Tracks (Heard.note live key src refresh fresh t) live key (fun _ => ()) (fun _ => ())
      (Function.update (fun _ => 0) src 0) := htracks.note (fun e => ⟨hrefresh e, rfl⟩) hkey rfl
  exact hnoted.unique

/-- An event that leaves the tables and the peers alone. -/
theorem Refines.keep {node : Node} {peers : Finset Mac} (h : TablesInv s.node)
    (hs : node.senderTable = s.node.senderTable) (hr : node.receiverTable = s.node.receiverTable)
    (hmode : s.node.senderModeEnabled = true → node.senderModeEnabled = true)
    (hp : (peers : Set Mac) = s.peers) {spares : Prop} (hspares : spares) :
    Refines s { node := node, peers := peers } spares where
  tables := by
    refine ⟨by rw [hs]; exact h.senders, by rw [hr]; exact h.receivers, fun hoff i => ?_⟩
    dsimp only
    rw [hr]
    refine h.follower ?_ i
    by_contra hon
    exact absurd ((hmode (Bool.eq_true_of_not_eq_false hon)).symm.trans hoff) (by decide)
  op := by
    refine ⟨.keep, ?_, iff_of_true trivial hspares⟩
    unfold Peered.holders
    dsimp only
    rw [hs, hr, hp]
    rfl

theorem dropsReceivers_noted {n : Node} {e : Event} {c : Command} {data : List UInt8} {length : ℕ} :
    dropsReceivers (n.noted e) c data length ↔ dropsReceivers n c data length := by
  cases e <;> rfl

/-- **A command** drops the receivers when it ends driving, and leaves tables and peers alone otherwise. -/
theorem command_refines (h : TablesInv s.node) {e : Event} {c : Command} {data : List UInt8} {length : ℕ}
    (hcmd : s.node.commandOf e = some (c, data, length)) :
    Refines s { node := (s.node.handle lib e).1, peers := applyPeers s.peers (s.node.handle lib e).2 }
      (s.node.DropsReceivers e → s.node.Apart (·.active) (·.active)) := by
  have hsenders : (s.node.noted e).senderTable = s.node.senderTable := by cases e <;> rfl
  have hreceivers : (s.node.noted e).receiverTable = s.node.receiverTable := by cases e <;> rfl
  have hmode : (s.node.noted e).senderModeEnabled = s.node.senderModeEnabled := by cases e <;> rfl
  have hiff : s.node.DropsReceivers e ↔ dropsReceivers s.node c data length := by
    constructor
    · rintro ⟨c', data', length', hk, hdrops⟩
      rw [hcmd] at hk
      cases hk
      exact hdrops
    · exact fun hdrops => ⟨c, data, length, hcmd, hdrops⟩
  rw [handle_of_command lib s.node hcmd, hiff]
  have hspec : CommandSpec (s.node.noted e) (execute lib e.env (s.node.noted e) c data length) :=
    execute_spec lib e.env c
  have hadd := execute_addPeer lib e.env (n := s.node.noted e) data length c
  by_cases hdrops : dropsReceivers s.node c data length
  · obtain ⟨htable, hdel⟩ := execute_drops lib e.env data length (dropsReceivers_noted.2 hdrops)
    refine ⟨⟨?_, ?_, ?_⟩, .drop₂ (macsOf s.node.receiverTable (·.mac) (·.active)), ?_, ?_⟩
    · dsimp only
      rw [hspec.senderTable, hsenders]
      exact h.senders
    · dsimp only
      rw [htable]
      intro i j hi
      cases hi
    · dsimp only
      rw [htable]
      exact fun _ _ => rfl
    · refine Registry.Holders.ext ?_ ?_ ?_
      · show Heard.keys _ _ (execute lib e.env (s.node.noted e) c data length).1.senderTable = _
        rw [hspec.senderTable, hsenders]
        rfl
      · show Heard.keys _ _ (execute lib e.env (s.node.noted e) c data length).1.receiverTable = _
        rw [htable, keys_of_idle fun _ => rfl]
        exact (Set.sdiff_self).symm
      · show (applyPeers s.peers _ : Set Mac) = _
        rw [applyPeers_of_no_add hadd]
        simp only [hdel, hreceivers]
        rfl
    · refine (disjoint_comm.trans disjoint_macsOf).trans ?_
      exact ⟨fun hapart _ => hapart, fun hapart => hapart hdrops⟩
  · obtain ⟨htable, hon, hdel⟩ := execute_keeps lib e.env data length (mt dropsReceivers_noted.1 hdrops)
    refine Refines.keep h (hspec.senderTable.trans hsenders) (htable.trans hreceivers)
      (fun hs => hon (hmode.trans hs)) (applyPeers_of_none hadd hdel) ?_
    exact fun hd => absurd hd hdrops

/-- A sender beacon has the sender table hold its source. -/
theorem handleSenderBeacon_refines (h : TablesInv s.node) (env : Env) (src : Mac) {spares : Prop} (hspares : spares) :
    Refines s
      { node := { s.node with senderTable := (handleSenderBeacon env s.node.senderTable src).1 }
        peers := applyPeers s.peers (handleSenderBeacon env s.node.senderTable src).2 } spares := by
  refine ⟨⟨?_, h.receivers, h.follower⟩, ?_⟩
  · dsimp only
    rw [handleSenderBeacon_eq]
    exact note_unique h.senders (fun _ => rfl) rfl
  · rcases note_refines SenderEntry.active SenderEntry.mac (fun e => { e with lastSeen := env.millis })
      { mac := src, lastSeen := env.millis, active := true } s.peers (fun _ => ⟨rfl, rfl⟩) ⟨rfl, rfl⟩
      (handleSenderBeacon_peers env s.node.senderTable src) with ⟨hkeys, hpeers⟩ | ⟨hkeys, hpeers⟩
    · refine ⟨.hold₁ src, Registry.Holders.ext ?_ rfl hpeers, iff_of_true trivial hspares⟩
      show Heard.keys _ _ (handleSenderBeacon env s.node.senderTable src).1 = _
      rw [handleSenderBeacon_eq]
      exact hkeys
    · refine ⟨.keep, Registry.Holders.ext ?_ rfl hpeers, iff_of_true trivial hspares⟩
      show Heard.keys _ _ (handleSenderBeacon env s.node.senderTable src).1 = _
      rw [handleSenderBeacon_eq]
      exact hkeys

/-- A report has the receiver table of a driving node hold its source. -/
theorem handleReceiverInfo_refines (h : TablesInv s.node) (env : Env) (src : Mac) {data : List UInt8}
    (hmode : s.node.senderModeEnabled = true) (hlen : data.length ≥ receiverInfoMinLen) {spares : Prop}
    (hspares : spares) :
    Refines s
      { node := { s.node with receiverTable := (handleReceiverInfo env s.node.receiverTable src data).1 }
        peers := applyPeers s.peers (handleReceiverInfo env s.node.receiverTable src data).2 } spares := by
  refine ⟨⟨h.senders, ?_, ?_⟩, ?_⟩
  · dsimp only
    rw [handleReceiverInfo_eq _ _ hlen]
    exact note_unique h.receivers (fun _ => rfl) rfl
  · intro hoff
    exact absurd (hmode.symm.trans hoff) (by decide)
  · rcases note_refines ReceiverEntry.active ReceiverEntry.mac (refreshReceiver env.millis (rxReceiverInfo data))
      (registerReceiver env.millis src (rxReceiverInfo data)) s.peers (fun _ => ⟨rfl, rfl⟩) ⟨rfl, rfl⟩
      (handleReceiverInfo_peers env s.node.receiverTable src hlen) with ⟨hkeys, hpeers⟩ | ⟨hkeys, hpeers⟩
    · refine ⟨.hold₂ src, Registry.Holders.ext rfl ?_ hpeers, iff_of_true trivial hspares⟩
      show Heard.keys _ _ (handleReceiverInfo env s.node.receiverTable src data).1 = _
      rw [handleReceiverInfo_eq _ _ hlen]
      exact hkeys
    · refine ⟨.keep, Registry.Holders.ext rfl ?_ hpeers, iff_of_true trivial hspares⟩
      show Heard.keys _ _ (handleReceiverInfo env s.node.receiverTable src data).1 = _
      rw [handleReceiverInfo_eq _ _ hlen]
      exact hkeys

/-- **A radio frame** without a command has a table hold its source, or leaves both alone. -/
theorem radio_refines (h : TablesInv s.node) {env : Env} {src : Mac} {data : List UInt8}
    (hcmd : s.node.commandOf (.radio env src data) = none) {spares : Prop} (hspares : spares) :
    Refines s
      { node := (onDataRecv lib env s.node src data).1
        peers := applyPeers s.peers (onDataRecv lib env s.node src data).2 } spares := by
  rcases onDataRecv_cases lib env s.node src data with
    ⟨-, -, -, hrecv⟩ | ⟨-, hinfo, -, hrecv⟩ | ⟨-, -, -, hsysex, hrecv⟩ | ⟨-, -, relay, hrecv⟩
  · rw [hrecv]
    exact handleSenderBeacon_refines h env src hspares
  · rw [hrecv]
    exact handleReceiverInfo_refines h env src hinfo.2.2.1 hinfo.2.2.2 hspares
  · have hnone : sysexCommand data (UInt8.ofNat data.length).toNat = none := by
      have : radioCommand data = none := by simpa [Node.commandOf] using hcmd
      unfold radioCommand at this
      rwa [if_pos hsysex] at this
    rw [hrecv, handleSysExMessage_of_none lib env s.node hnone]
    have hkeep : (applyPeers s.peers (sysexRejection data (UInt8.ofNat data.length)) : Set Mac) = s.peers := by
      refine applyPeers_of_none (fun mac hmem => ?_) (fun mac hmem => ?_)
      · obtain ⟨a, b, l, heq⟩ := sysexRejection_out _ _ _ hmem
        cases heq
      · obtain ⟨a, b, l, heq⟩ := sysexRejection_out _ _ _ hmem
        cases heq
    exact Refines.keep h rfl rfl (fun hs => hs) hkeep hspares
  · obtain ⟨hs, hr, -, -⟩ := mediaEffect_stamp env s.node src data
    rw [hrecv]
    refine Refines.keep h (by exact hs) (by exact hr) (fun hon => ?_) (applyPeers_of_none ?_ ?_) hspares
    · unfold mediaEffect receiveMedia
      split
      · split <;> exact hon
      · exact hon
    · intro mac hmem
      obtain ⟨m, heq⟩ := mediaEffect_out env s.node src data _ hmem
      cases heq
    · intro mac hmem
      obtain ⟨m, heq⟩ := mediaEffect_out env s.node src data _ hmem
      cases heq

/-- **An event of the node** without a reboot. -/
theorem handle_refines (h : TablesInv s.node) {e : Event} (htask : ∀ env, e ≠ .task env) :
    Refines s { node := (s.node.handle lib e).1, peers := applyPeers s.peers (s.node.handle lib e).2 }
      (s.node.DropsReceivers e → s.node.Apart (·.active) (·.active)) := by
  cases hcmd : s.node.commandOf e with
  | some k =>
    obtain ⟨c, data, length⟩ := k
    exact command_refines h hcmd
  | none =>
    have hno : s.node.DropsReceivers e → s.node.Apart (·.active) (·.active) := by
      rintro ⟨c, data, length, hk, -⟩
      rw [hcmd] at hk
      cases hk
    cases e with
    | task env => exact absurd rfl (htask env)
    | radio env src data => exact radio_refines h hcmd hno
    | usb env packet =>
      obtain ⟨hnode, hout⟩ := midiPacket_of_none lib env s.node hcmd
      simp only [Node.handle]
      refine Refines.keep h (by rw [hnode]; rfl) (by rw [hnode]; rfl) (fun hs => by rw [hnode]; exact hs)
        (applyPeers_of_none ?_ ?_) hno
      · intro mac hmem
        obtain ⟨a, b, l, heq⟩ := hout _ hmem
        cases heq
      · intro mac hmem
        obtain ⟨a, b, l, heq⟩ := hout _ hmem
        cases heq

variable (lib build) in
/-- **One step** is an operation on the registry, which spares the other table's MACs exactly when no
shared MAC is dropped. -/
theorem step_refines (h : TablesInv s.node) (e : PeerEvent) :
    Refines s (s.step lib build e).1 (NoSharedDrop s e) := by
  have hevent : ∀ e : Event, (∀ env, e ≠ .task env) → Refines s (s.onEvent lib build e).1
      (s.node.DropsReceivers e → s.node.Apart (·.active) (·.active)) := by
    intro e htask
    unfold Peered.onEvent
    cases hre : reboots (s.node.handle lib e).2 with
    | false =>
      simp only [hre, Bool.false_eq_true, if_false]
      exact handle_refines h htask
    | true =>
      simp only [hre, if_true]
      refine ⟨boot_tablesInv _ _ _, .restart {Mac.broadcast}, boot_holders _ _ _, iff_of_true trivial ?_⟩
      -- a change of role does not reboot
      rintro ⟨c, data, length, hcmd, rfl, -⟩
      rw [reboots_of_command lib s.node hcmd (by decide) (by decide) (by decide)] at hre
      cases hre
  cases e with
  | radio env src data => exact hevent _ (fun _ => by simp)
  | usb env packet => exact hevent _ (fun _ => by simp)
  | cleanupSenderTable now => exact cleanupSenderTable_refines h now
  | cleanupReceiverTable now => exact cleanupReceiverTable_refines h now

end Steps

/-! ## Runs -/

/-- **The peers match the tables** at every point of a run from boot exactly when no table drops a MAC
that is active in the other. -/
theorem peersMatch_iff (lib : UpdateLib) (build : Build) (nvs : Nvs) (boardId : UInt8) (mac : Mac)
    (es : List PeerEvent) :
    (∀ pre post, es = pre ++ post →
        PeersMatch (Mealy.run (Peered.step lib build) (Peered.boot build nvs boardId mac) pre).1) ↔
      Mealy.Guarded (Peered.step lib build) NoSharedDrop (Peered.boot build nvs boardId mac) es := by
  have hboot : TablesInv (Peered.boot build nvs boardId mac).node ∧
      (Peered.boot build nvs boardId mac).holders.Matched := by
    refine ⟨boot_tablesInv nvs boardId mac, ?_⟩
    rw [boot_holders]
    exact ⟨Set.empty_subset _, Set.empty_subset _⟩
  refine Mealy.always_iff_guarded (fun s => TablesInv s.node ∧ s.holders.Matched) PeersMatch ?_ ?_ ?_ hboot
    (Mealy.guarded_of_forall (fun _ _ => trivial) _ es)
  · exact fun s h => (peersMatch_iff_matched h.1).2 h.2
  · intro s e h _ hspares
    obtain ⟨htables, op, hop, hiff⟩ := step_refines lib build h.1 e
    refine ⟨htables, ?_⟩
    rw [hop, Registry.Holders.matched_step_iff h.2]
    exact hiff.2 hspares
  · intro s e h _ hshared hmatch
    obtain ⟨htables, op, hop, hiff⟩ := step_refines lib build h.1 e
    rw [peersMatch_iff_matched htables, hop, Registry.Holders.matched_step_iff h.2] at hmatch
    exact hshared (hiff.1 hmatch)

/-! ## A master that is a slave as well -/

/-- The MACs that are heard in a run. -/
def PeerEvent.src? : PeerEvent → Option Mac
  | .radio _ src _ => some src
  | _ => none

/-- A `ReceiverInfo` frame of 26 bytes. -/
def shortReceiverInfo : List UInt8 := espnowMsgReceiverInfo :: List.replicate 25 0x61

/-- Another master beacons once, and reports as a receiver before and after; then the senders are
cleaned up. -/
def beaconsStop : List PeerEvent :=
  [.radio { millis := 1000 } masterB [espnowMsgSenderBeacon],
    .radio { millis := 1000 } masterB shortReceiverInfo,
    .radio { millis := 7000 } masterB shortReceiverInfo,
    .cleanupSenderTable 7100]

/-- **A shared peer is deleted.** The sender timeout takes the peer away from a receiver that has just
reported. -/
theorem sharedPeer_deleted :
    ¬∀ (lib : UpdateLib) (build : Build) (nvs : Nvs) (boardId : UInt8) (mac : Mac) (es : List PeerEvent),
      (es.filterMap PeerEvent.src?).toFinset.card < 20 →
        ∀ pre post, es = pre ++ post →
          PeersMatch (Mealy.run (Peered.step lib build) (Peered.boot build nvs boardId mac) pre).1 := by
  intro hall
  have hmatch := hall noUpdate wildcardBuild {} nowdeBoardidAtoms3 masterA beaconsStop (by decide +kernel)
    beaconsStop [] (List.append_nil _).symm
  have hreceiver := hmatch.receivers (by decide +kernel) ⟨0, by decide⟩ (by decide +kernel)
  revert hreceiver
  decide +kernel

end Nowde
