import Nowde.Proof.HostOnly

/-!
# Everything a node puts out

`CommandOut` lists what a command can put out, `TableOut` what a table update does, and `RoundOut`
what the task loop adds. Later modules read what never leaves a node off these lists.

* `execute_out`: a command puts out what is listed for it.
* `espnowTask_out`: so does a round of the task loop, besides what its receiver part plays.
* `handle_out`: any event.
* `handle_of_none`: what an event without a command can touch.
-/

namespace Nowde

/-! ## Commands -/

/-- What a command can put out. Frames by radio come with what the sending took. -/
inductive CommandOut (env : Env) (n : Node) (data : List UInt8) (length : ℕ) : Command → Out → Prop
  | hello (c : Command) (m : Node) : CommandOut env n data length c (.host (.hello (helloMessage env m)))
  | configState (c : Command) (m : Node) :
    CommandOut env n data length c (.host (.sysExBytes (configStateMessage m)))
  | runningState {numActive chunkIndex chunkCount : ℕ} {receivers : List ReceiverEntry} :
    numActive ≤ maxReceivers → chunkIndex ≤ maxReceivers → chunkCount ≤ maxReceivers → receivers.length ≤ 1 →
    CommandOut env n data length .queryRunningState
      (.host (.runningState (runningStateMessage env numActive chunkIndex chunkCount receivers)))
  | otaAck (seq st : UInt8) : CommandOut env n data length .otaDataAcked
      (.host (.sysExBytes [sysexStart, sysexManufacturerId, sysexCmdOtaAck, seq, st, sysexEnd]))
  | configInvalid (c : Command) :
    CommandOut env n data length c (.host (.errorReport (errorReportMessage errorConfigInvalid [] 0)))
  | errorReport {c : Command} (code : UInt8) (context : List UInt8) (contextLength : UInt8) :
    c = .setRole ∨ c = .changeReceiverLayer →
    CommandOut env n data length c (.host (.errorReport (errorReportMessage code context contextLength)))
  | minted : n.senderModeEnabled = true → length ≥ 27 → n.rfSimulationEnabled = false →
    CommandOut env n data length .mediaSync
      (.espNowSend Mac.broadcast (mintPacket env n.mediaSyncSeq data length).toFrame)
  | layer (mac : Mac) (name : List UInt8) : n.senderModeEnabled = true → length ≥ 29 →
    CommandOut env n data length .changeReceiverLayer
      (.espNowSend mac ([sysexStart, sysexManufacturerId, sysexCmdChangeReceiverLayer] ++ name ++ [sysexEnd]))
  | report (c : Command) (mac : Mac) (m : Node) :
    CommandOut env n data length c (.espNowSend mac (receiverInfoFrame env m))
  | delPeer (mac : Mac) : CommandOut env n data length .setRole (.delPeer mac)
  | restart {c : Command} : c = .setLr ∨ c = .otaEnd → CommandOut env n data length c .restart
  | divideByZero : CommandOut env n data length .otaData .divideByZero

section Commands

variable (lib : UpdateLib) (env : Env) (n : Node) (data : List UInt8) (length : ℕ) (c : Command)

/-- The outputs are all listed. -/
def Listed (out : List Out) : Prop := ∀ o ∈ out, CommandOut env n data length c o

variable {env n data length c} {out out' : List Out} {o : Out}

@[simp] theorem listed_nil : Listed env n data length c [] := fun _ h => absurd h (by simp)

@[simp] theorem listed_cons :
    Listed env n data length c (o :: out) ↔ CommandOut env n data length c o ∧ Listed env n data length c out := by
  simp [Listed]

@[simp] theorem listed_append : Listed env n data length c (out ++ out') ↔
    Listed env n data length c out ∧ Listed env n data length c out' := by
  simp only [Listed, List.mem_append, or_imp, forall_and]

variable (m : Node)

@[simp] theorem sendHello_listed : Listed env n data length c (sendHello env m) := by
  simp [sendHello, CommandOut.hello]

@[simp] theorem sendConfigState_listed : Listed env n data length c (sendConfigState m) := by
  simp [sendConfigState, CommandOut.configState]

theorem sendErrorReport_listed (hc : c = .setRole ∨ c = .changeReceiverLayer) (a : UInt8) (b : List UInt8)
    (l : UInt8) : Listed env n data length c (sendErrorReport a b l) := by
  simp [sendErrorReport, CommandOut.errorReport _ _ _ hc]

@[simp] theorem sendConfigInvalid_listed : Listed env n data length c sendConfigInvalid := by
  simp [sendConfigInvalid, sendErrorReport, CommandOut.configInvalid]

@[simp] theorem sendOtaAck_listed (a b : UInt8) : Listed env n data length .otaDataAcked (sendOtaAck a b) := by
  simp [sendOtaAck, CommandOut.otaAck]

@[simp] theorem sendReceiverInfo_listed : Listed env n data length c (sendReceiverInfo env m) := by
  intro o ho
  obtain ⟨i, -, rfl⟩ := mem_sendReceiverInfo env m ho
  exact .report _ _ _

theorem sendRunningState_listed : Listed env n data length .queryRunningState (sendRunningState env m).2 := by
  have hlen : (connectedReceivers m.receiverTable).length ≤ maxReceivers := by
    unfold connectedReceivers
    exact Slots.length_collect_le _ _
  unfold sendRunningState
  split
  · exact listed_nil
  · dsimp only
    split
    · exact listed_cons.2 ⟨.runningState (by decide) (by decide) (by decide) (by simp), listed_nil⟩
    · intro o ho
      obtain ⟨i, hi, rfl⟩ := List.mem_mapIdx.1 ho
      exact .runningState hlen (by omega) hlen (by simp)

theorem applyRole_listed (role : UInt8) : Listed env n data length .setRole (applyRole m role).2 := by
  have hdrop : Listed env n data length .setRole
      (Slots.collect m.receiverTable fun e => if e.active then some (.delPeer e.mac) else none) := by
    intro o ho
    obtain ⟨i, -, rfl⟩ := Slots.mem_collect_ite.1 ho
    exact .delPeer _
  unfold applyRole
  dsimp only
  split_ifs
  · exact listed_nil
  · exact hdrop
  · exact listed_nil
  · exact listed_nil

theorem otaCommand_listed (o : Ota) (c : Command) :
    Listed env n data length c (otaCommand lib env o c data length).2 := by
  cases c with
  | otaBegin =>
    simp only [otaCommand, otaBegin]
    split_ifs <;> simp
  | otaData =>
    simp only [otaCommand, otaData]
    split_ifs <;> simp [CommandOut.divideByZero]
  | otaDataAcked =>
    simp only [otaCommand, otaDataAcked]
    split_ifs <;> simp
  | otaEnd =>
    simp only [otaCommand, otaEnd]
    split_ifs <;> simp [CommandOut.restart]
  | _ => exact listed_nil

variable (env data length n)

theorem queryRunningState_listed :
    Listed env n data length .queryRunningState (queryRunningState env n).2 := by
  have hhello : Listed env n data length .queryRunningState (if n.hostResumed = true then sendHello env n else []) := by
    split <;> simp
  unfold queryRunningState
  dsimp only
  split
  · exact listed_append.2 ⟨hhello, sendRunningState_listed _⟩
  · split
    · exact sendHello_listed _
    · exact hhello

theorem mediaSync_listed : Listed env n data length .mediaSync (mediaSync env n data length).2 := by
  unfold mediaSync
  split
  · next hmint =>
    dsimp only
    split
    · next hplain => exact listed_cons.2 ⟨.minted hmint.1 hmint.2 (by simpa using hplain), listed_nil⟩
    · exact listed_nil
  · exact listed_nil

theorem changeReceiverLayer_listed :
    Listed env n data length .changeReceiverLayer (changeReceiverLayer env n data length).2 := by
  unfold changeReceiverLayer
  split
  · next hassign =>
    dsimp only
    split
    · refine listed_cons.2 ⟨.layer _ _ hassign.1 hassign.2, ?_⟩
      split
      · exact listed_nil
      · exact sendErrorReport_listed (Or.inr rfl) _ _ _
    · exact sendErrorReport_listed (Or.inr rfl) _ _ _
  · split
    · exact sendReceiverInfo_listed _
    · exact listed_nil

/-- **What a command puts out** is listed for it. -/
theorem execute_out (c : Command) : Listed env n data length c (execute lib env n c data length).2 := by
  cases hota : c.isOta with
  | true =>
    rw [execute_of_isOta lib env hota]
    exact otaCommand_listed lib n.ota c
  | false =>
    cases c with
    | otaBegin | otaData | otaDataAcked | otaEnd => cases hota
    | queryConfig => simp [execute, queryConfig]
    | pushFullConfig =>
      simp only [execute, pushFullConfig]
      split <;> simp
    | queryRunningState => exact queryRunningState_listed env n data length
    | enterBootloader => exact listed_nil
    | setRole =>
      simp only [execute, setRole]
      split
      · split
        · exact sendErrorReport_listed (Or.inl rfl) _ _ _
        · simp [applyRole_listed]
      · simp
    | setLocalLayer =>
      simp only [execute, setLocalLayer]
      split <;> simp
    | setLog =>
      simp only [execute, setLog]
      split <;> simp
    | setLr =>
      simp only [execute, setLr]
      split <;> simp [CommandOut.restart]
    | setLossPolicy =>
      simp only [execute, setLossPolicy]
      split <;> simp
    | setOrigin =>
      simp only [execute, setOrigin]
      split_ifs <;> simp
    | mediaSync => exact mediaSync_listed env n data length
    | changeReceiverLayer => exact changeReceiverLayer_listed env n data length

end Commands

/-! ## Events -/

/-- What a table update puts out. -/
inductive TableOut : Out → Prop
  | addPeer (mac : Mac) : TableOut (.addPeer mac)
  | delPeer (mac : Mac) : TableOut (.delPeer mac)

/-- What a round of the task loop puts out besides playing. -/
inductive RoundOut (env : Env) (n : Node) : Out → Prop
  | beacon : n.senderModeEnabled = true → RoundOut env n (.espNowSend Mac.broadcast [espnowMsgSenderBeacon])
  | delayed (i : Fin maxDelayedPackets) : n.senderModeEnabled = true → (n.delayedPackets i).active = true →
    RoundOut env n (.espNowSend (n.delayedPackets i).receiverMac (n.delayedPackets i).packet)
  | report (mac : Mac) (m : Node) : RoundOut env n (.espNowSend mac (receiverInfoFrame env m))
  | forward (i : Fin maxPendingRelays) : (n.relay.pendingRelays i).due env.millis = true →
    RoundOut env n (.espNowSend Mac.broadcast (n.relay.pendingRelays i).frame)
  | delPeer (mac : Mac) : RoundOut env n (.delPeer mac)
  | meshClockReset : RoundOut env n .meshClockReset
  | restart : RoundOut env n .restart

/-- The command an event has the node run, with the frame that carries it and the frame's length as
the dispatcher sees it. -/
def Node.commandOf (n : Node) : Event → Option (Command × List UInt8 × ℕ)
  | .radio _ _ data => (radioCommand data).map fun c => (c, data, (UInt8.ofNat data.length).toNat)
  | .usb _ packet =>
    (n.parser.packet packet).2.bind fun message =>
      (sysexCommand message (UInt8.ofNat message.length).toNat).map fun c =>
        (c, message, (UInt8.ofNat message.length).toNat)
  | .task _ => none

/-- The node as a USB packet leaves it before its command runs. -/
def Node.noteHost (n : Node) (env : Env) (p : MidiEventPacket) : Node :=
  { n with
    hostResumed := if hostLinked env.millis n.lastHostRxTime then n.hostResumed else true
    lastHostRxTime := env.millis
    parser := (n.parser.packet p).1 }

/-- The environment an event is handled in. -/
def Event.env : Event → Env
  | .radio env _ _ | .usb env _ | .task env => env

/-- An event as it comes at `time`. -/
def Event.at (time : ℕ) : Event → Event
  | .radio env src data => .radio (env.at time) src data
  | .usb env packet => .usb (env.at time) packet
  | .task env => .task (env.at time)

/-- The node as an event leaves it before its command runs: a USB packet is noted. -/
def Node.noted (n : Node) : Event → Node
  | .usb env packet => n.noteHost env packet
  | _ => n

/-- What an event puts out. -/
inductive EventOut (n : Node) : Event → Out → Prop
  | command {e : Event} {c : Command} {data : List UInt8} {length : ℕ} {o : Out} :
    n.commandOf e = some (c, data, length) → CommandOut e.env n data length c o → EventOut n e o
  | rejection (e : Event) (code : UInt8) (context : List UInt8) (contextLength : UInt8) :
    EventOut n e (.host (.errorReport (errorReportMessage code context contextLength)))
  | table (e : Event) {o : Out} : TableOut o → EventOut n e o
  | received {env : Env} {src : Mac} {data : List UInt8} (h : HostMsg) :
    acceptedFrame n env src data ≠ none → EventOut n (.radio env src data) (.host h)
  | ticked {env : Env} {h : HostMsg} :
    h ∈ (receiverTick env.millis n.receiver).2 → EventOut n (.task env) (.host h)
  | round {env : Env} {o : Out} : RoundOut env n o → EventOut n (.task env) o

theorem sysexRejection_out (data : List UInt8) (len : UInt8) :
    ∀ o ∈ sysexRejection data len, ∃ a b l, o = .host (.errorReport (errorReportMessage a b l)) := by
  intro o ho
  unfold sysexRejection at ho
  split at ho
  · cases ho
  · split at ho
    · exact ⟨_, _, _, List.mem_singleton.1 ho⟩
    · exact ⟨_, _, _, List.mem_singleton.1 ho⟩

section Events

variable (lib : UpdateLib) (env : Env) (n : Node)

theorem handleSenderBeacon_out (t : Fin maxSenders → SenderEntry) (src : Mac) :
    ∀ o ∈ (handleSenderBeacon env t src).2, TableOut o := by
  intro o ho
  unfold handleSenderBeacon at ho
  split at ho
  · cases ho
  · split at ho
    · rw [List.mem_singleton.1 ho]
      exact .addPeer _
    · cases ho

theorem handleReceiverInfo_out (t : Fin maxReceivers → ReceiverEntry) (src : Mac) (data : List UInt8) :
    ∀ o ∈ (handleReceiverInfo env t src data).2, TableOut o := by
  intro o ho
  unfold handleReceiverInfo at ho
  split at ho
  · cases ho
  · dsimp only at ho
    split at ho
    · cases ho
    · split at ho
      · rw [List.mem_singleton.1 ho]
        exact .addPeer _
      · cases ho

theorem meshResyncTick_out : (meshResyncTick env n).2 = [] ∨ (meshResyncTick env n).2 = [.meshClockReset] ∨
    (meshResyncTick env n).2 = [.restart] := by
  unfold meshResyncTick
  dsimp only
  split_ifs <;> simp

variable {env n} in
/-- The sender's part of a round sends its beacon and the delayed packets that are due, and drops peers. -/
theorem mem_senderTick {o : Out} (ho : o ∈ (senderTick env n).2) :
    o = .espNowSend Mac.broadcast [espnowMsgSenderBeacon] ∨ (∃ mac, o = .delPeer mac) ∨
      ∃ i, (n.delayedPackets i).active = true ∧
        o = .espNowSend (n.delayedPackets i).receiverMac (n.delayedPackets i).packet := by
  have hdelayed : (senderBeacon env.millis n).1.delayedPackets = n.delayedPackets := by
    unfold senderBeacon
    split <;> rfl
  unfold senderTick at ho
  dsimp only at ho
  rw [List.mem_append, List.mem_append] at ho
  rcases ho with (ho | ho) | ho
  · unfold senderBeacon at ho
    split at ho
    · exact Or.inl (List.mem_singleton.1 ho)
    · cases ho
  · obtain ⟨i, -, rfl⟩ := mem_cleanupReceiverTable ho
    exact Or.inr (Or.inl ⟨_, rfl⟩)
  · unfold delayedTick at ho
    split at ho
    · obtain ⟨i, hdue, rfl⟩ := mem_sendDelayedPackets ho
      dsimp only at hdue ⊢
      rw [hdelayed] at hdue ⊢
      exact Or.inr (Or.inr ⟨i, hdue.1, rfl⟩)
    · cases ho

variable {env n} in
/-- The receiver's part sends its beacon, drops peers, plays what `receiverTick` does, and resyncs the mesh. -/
theorem mem_receiverModeTick {o : Out} (ho : o ∈ (receiverModeTick env n).2) :
    o ∈ (receiverBeacon env.millis env n).2 ∨ (∃ mac, o = .delPeer mac) ∨
      (∃ h ∈ (receiverTick env.millis n.receiver).2, o = .host h) ∨ o = .meshClockReset ∨ o = .restart := by
  unfold receiverModeTick at ho
  dsimp only at ho
  simp only [List.mem_append] at ho
  rcases ho with ((ho | ho) | ho) | ho
  · exact Or.inl ho
  · obtain ⟨i, -, rfl⟩ := mem_cleanupSenderTable ho
    exact Or.inr (Or.inl ⟨_, rfl⟩)
  · obtain ⟨h, hh, rfl⟩ := List.mem_map.1 ho
    rw [(receiverBeacon_spec env n).1] at hh
    exact Or.inr (Or.inr (Or.inl ⟨h, hh, rfl⟩))
  · refine Or.inr (Or.inr (Or.inr ?_))
    rcases meshResyncTick_out env _ with hnone | hreset | hrestart
    · rw [hnone] at ho
      cases ho
    · rw [hreset] at ho
      exact Or.inl (List.mem_singleton.1 ho)
    · rw [hrestart] at ho
      exact Or.inr (List.mem_singleton.1 ho)

/-- The sender's part of a round. -/
theorem senderTick_out (hsender : n.senderModeEnabled = true) : ∀ o ∈ (senderTick env n).2, RoundOut env n o := by
  intro o ho
  rcases mem_senderTick ho with rfl | ⟨mac, rfl⟩ | ⟨i, hactive, rfl⟩
  · exact .beacon hsender
  · exact .delPeer mac
  · exact .delayed i hsender hactive

/-- The receiver's part. -/
theorem receiverModeTick_out {m : Node} : ∀ o ∈ (receiverModeTick env m).2,
    (∃ h ∈ (receiverTick env.millis m.receiver).2, o = .host h) ∨ RoundOut env n o := by
  intro o ho
  rcases mem_receiverModeTick ho with hbeacon | ⟨mac, rfl⟩ | hplayed | rfl | rfl
  · unfold receiverBeacon at hbeacon
    split at hbeacon
    · obtain ⟨i, -, rfl⟩ := mem_sendReceiverInfo env _ hbeacon
      exact Or.inr (.report _ _)
    · cases hbeacon
  · exact Or.inr (.delPeer mac)
  · exact Or.inl hplayed
  · exact Or.inr .meshClockReset
  · exact Or.inr .restart

/-- The relay's turn sends the forwards that are due. -/
theorem mem_relayTick {o : Out} (ho : o ∈ (relayTick env n).2) :
    ∃ i, (n.relay.pendingRelays i).due env.millis = true ∧
      o = .espNowSend Mac.broadcast (n.relay.pendingRelays i).frame := by
  obtain ⟨frame, hframe, rfl⟩ := List.mem_map.1 ho
  unfold processPendingRelays at hframe
  dsimp only at hframe
  obtain ⟨i, hdue, rfl⟩ := Slots.mem_collect_ite.1 hframe
  exact ⟨i, hdue, rfl⟩

/-- The relay is left to its own turn. -/
theorem senderTick_relay : (senderTick env n).1.relay = n.relay := by
  unfold senderTick senderBeacon delayedTick
  dsimp only
  split_ifs <;> rfl

theorem receiverModeTick_relay : (receiverModeTick env n).1.relay = n.relay := by
  unfold receiverModeTick receiverBeacon meshResyncTick
  dsimp only
  split_ifs <;> rfl

/-- **A round of the task loop** plays what its receiver part does, and puts out what is listed. -/
theorem espnowTask_out : ∀ o ∈ (espnowTask env n).2,
    (n.receiverModeEnabled = true ∧ ∃ h ∈ (receiverTick env.millis n.receiver).2, o = .host h) ∨ RoundOut env n o := by
  obtain ⟨s, r, hs, hr, htask⟩ := espnowTask_parts env n
  have hsender : s.1.receiver = n.receiver ∧ s.1.receiverModeEnabled = n.receiverModeEnabled ∧
      s.1.relay = n.relay ∧ ∀ o ∈ s.2, RoundOut env n o := by
    rcases hs with ⟨hmode, rfl⟩ | ⟨-, rfl⟩
    · exact ⟨(senderTick_spec env n).1, (senderTick_spec env n).2.1, senderTick_relay env n, senderTick_out env n hmode⟩
    · exact ⟨rfl, rfl, rfl, fun o ho => absurd ho (by simp)⟩
  obtain ⟨hsr, hsm, hsrelay, hso⟩ := hsender
  have hreceiver : r.1.relay = n.relay ∧ ∀ o ∈ r.2,
      (n.receiverModeEnabled = true ∧ ∃ h ∈ (receiverTick env.millis n.receiver).2, o = .host h) ∨ RoundOut env n o := by
    rcases hr with ⟨hmode, rfl⟩ | ⟨-, rfl⟩
    · refine ⟨(receiverModeTick_relay env s.1).trans hsrelay, fun o ho => ?_⟩
      rw [← hsr, ← hsm]
      exact (receiverModeTick_out env n o ho).imp_left fun h => ⟨hmode, h⟩
    · exact ⟨hsrelay, fun o ho => absurd ho (by simp)⟩
  obtain ⟨hrr, hro⟩ := hreceiver
  intro o ho
  rcases htask with ⟨-, htask⟩ | ⟨-, htask⟩
  · rw [htask, List.mem_append] at ho
    rcases ho with ho | ho
    · exact Or.inr (hso o ho)
    · exact hro o ho
  · rw [htask, List.mem_append, List.mem_append] at ho
    rcases ho with (ho | ho) | ho
    · exact Or.inr (hso o ho)
    · exact hro o ho
    · -- the relay's turn
      obtain ⟨i, hdue, rfl⟩ := mem_relayTick env r.1 ho
      rw [hrr] at hdue ⊢
      exact Or.inr (.forward i hdue)

/-- A USB packet that completes no command. -/
theorem midiPacket_of_none {p : MidiEventPacket} (h : n.commandOf (.usb env p) = none) :
    (midiPacket lib env n p).1 = n.noteHost env p ∧
      ∀ o ∈ (midiPacket lib env n p).2, ∃ a b l, o = .host (.errorReport (errorReportMessage a b l)) := by
  unfold midiPacket
  simp only [Node.commandOf] at h
  dsimp only
  cases hm : (n.parser.packet p).2 with
  | none => exact ⟨rfl, fun o ho => absurd ho (by simp)⟩
  | some message =>
    rw [hm] at h
    have hnone : sysexCommand message (UInt8.ofNat message.length).toNat = none := by simpa using h
    dsimp only
    rw [handleSysExMessage_of_none lib env _ hnone]
    exact ⟨rfl, sysexRejection_out _ _⟩

/-- A USB packet that completes one. -/
theorem midiPacket_of_command {p : MidiEventPacket} {c : Command} {data : List UInt8} {length : ℕ}
    (h : n.commandOf (.usb env p) = some (c, data, length)) :
    midiPacket lib env n p = execute lib env (n.noteHost env p) c data length := by
  unfold midiPacket
  simp only [Node.commandOf] at h
  dsimp only
  cases hm : (n.parser.packet p).2 with
  | none => rw [hm] at h; cases h
  | some message =>
    rw [hm] at h
    simp only [Option.bind_some, Option.map_eq_some_iff, Prod.mk.injEq] at h
    obtain ⟨c', hc, rfl, rfl, rfl⟩ := h
    dsimp only
    rw [handleSysExMessage_of_command lib env _ hc]
    rfl

/-- The receive path talks to the host only. -/
theorem mediaEffect_out (src : Mac) (data : List UInt8) : ∀ o ∈ (mediaEffect env n src data).2, ∃ h, o = .host h := by
  intro o ho
  unfold mediaEffect receiveMedia at ho
  split at ho
  · split at ho
    · obtain ⟨h, -, rfl⟩ := List.mem_map.1 ho
      exact ⟨h, rfl⟩
    · cases ho
  · cases ho

/-- **A command** is run on the node as its event leaves it. -/
theorem handle_of_command {e : Event} {c : Command} {data : List UInt8} {length : ℕ}
    (h : n.commandOf e = some (c, data, length)) :
    n.handle lib e = execute lib e.env (n.noted e) c data length := by
  cases e with
  | usb env packet => exact midiPacket_of_command lib env n h
  | task env => cases h
  | radio env src frame =>
    simp only [Node.commandOf, Option.map_eq_some_iff, Prod.mk.injEq] at h
    obtain ⟨c', hc, rfl, rfl, rfl⟩ := h
    exact onDataRecv_of_radioCommand lib env n src hc

theorem processMediaSyncPacket_subscribed (env : Env) (r : Receiver) (origin : Mac) (data : List UInt8) :
    (processMediaSyncPacket env r origin data).1.subscribedLayer = r.subscribedLayer := by
  by_cases hacc : Accepts env r origin data
  · obtain ⟨-, -, -, -, hlayer, -⟩ := originAccepts_spec (originAccepts_iff.2 hacc.2.2)
    rw [processMediaSyncPacket_of_accepts hacc]
    exact hlayer
  · rw [processMediaSyncPacket_of_not_accepts hacc]

/-- **An event without a command**, a round aside, leaves its mark in the tables, the relay and what the
receiver follows. -/
theorem handle_of_none {e : Event} (hcmd : n.commandOf e = none) (htask : ∀ env, e ≠ .task env) :
    ∃ senders receivers relay receiver, receiver.subscribedLayer = n.receiver.subscribedLayer ∧
      (n.handle lib e).1 = { n.noted e with
        senderTable := senders, receiverTable := receivers, relay := relay, receiver := receiver } := by
  cases e with
  | task env => exact absurd rfl (htask env)
  | usb env packet => exact ⟨_, _, _, _, rfl, (midiPacket_of_none lib env n hcmd).1⟩
  | radio env src data =>
    have hnone : radioCommand data = none := by simpa [Node.commandOf] using hcmd
    simp only [Node.handle]
    rcases onDataRecv_cases lib env n src data with
      ⟨-, -, -, hrecv⟩ | ⟨-, -, -, hrecv⟩ | ⟨-, -, -, hsysex, hrecv⟩ | ⟨-, -, relay, hrecv⟩
    · rw [hrecv]
      exact ⟨_, _, _, _, rfl, rfl⟩
    · rw [hrecv]
      exact ⟨_, _, _, _, rfl, rfl⟩
    · unfold radioCommand at hnone
      rw [if_pos hsysex] at hnone
      rw [hrecv, handleSysExMessage_of_none lib env n hnone]
      exact ⟨_, _, _, _, rfl, rfl⟩
    · rw [hrecv]
      unfold mediaEffect receiveMedia
      split
      · split
        · exact ⟨_, _, _, _, processMediaSyncPacket_subscribed env _ _ _, rfl⟩
        · exact ⟨_, _, _, _, rfl, rfl⟩
      · exact ⟨_, _, _, _, rfl, rfl⟩

/-- Noting an event leaves what a command depends on. -/
theorem CommandOut.of_noted {env : Env} {e : Event} {data : List UInt8} {length : ℕ} {c : Command} {o : Out}
    (h : CommandOut env (n.noted e) data length c o) : CommandOut env n data length c o := by
  have hsender : (n.noted e).senderModeEnabled = n.senderModeEnabled := by cases e <;> rfl
  have hsim : (n.noted e).rfSimulationEnabled = n.rfSimulationEnabled := by cases e <;> rfl
  have hseq : (n.noted e).mediaSyncSeq = n.mediaSyncSeq := by cases e <;> rfl
  cases h with
  | minted hmode hlen hplain =>
    rw [hseq]
    exact .minted (hsender.symm.trans hmode) hlen (hsim.symm.trans hplain)
  | runningState h1 h2 h3 h4 => exact .runningState h1 h2 h3 h4
  | layer mac name hmode hlen => exact .layer mac name (hsender.symm.trans hmode) hlen
  | restart hc => exact .restart hc
  | errorReport a b l hc => exact .errorReport a b l hc
  | _ => constructor

theorem Event.env_at_millis (e : Event) (time : ℕ) : (e.at time).env.millis = UInt32.ofNat time := by
  cases e <;> rfl

/-- **What an event puts out** is listed for it. -/
theorem handle_out (e : Event) : ∀ o ∈ (n.handle lib e).2, EventOut n e o := by
  intro o ho
  cases hcmd : n.commandOf e with
  | some k =>
    obtain ⟨c, data, length⟩ := k
    rw [handle_of_command lib n hcmd] at ho
    exact .command hcmd (CommandOut.of_noted n (execute_out lib e.env _ data length c o ho))
  | none =>
    cases e with
    | usb env packet =>
      obtain ⟨a, b, l, rfl⟩ := (midiPacket_of_none lib env n hcmd).2 o ho
      exact .rejection _ a b l
    | task env =>
      rcases espnowTask_out env n o ho with ⟨-, h, hh, rfl⟩ | hround
      · exact .ticked hh
      · exact .round hround
    | radio env src frame =>
      have hnone : radioCommand frame = none := by simpa [Node.commandOf] using hcmd
      simp only [Node.handle] at ho
      rcases onDataRecv_cases lib env n src frame with
        ⟨-, -, -, hrecv⟩ | ⟨-, -, -, hrecv⟩ | ⟨-, -, -, hsysex, hrecv⟩ | ⟨-, -, relay, hrecv⟩
      · rw [hrecv] at ho
        exact .table _ (handleSenderBeacon_out env n.senderTable src o ho)
      · rw [hrecv] at ho
        exact .table _ (handleReceiverInfo_out env n.receiverTable src frame o ho)
      · unfold radioCommand at hnone
        rw [if_pos hsysex] at hnone
        rw [hrecv, handleSysExMessage_of_none lib env n hnone] at ho
        obtain ⟨a, b, l, rfl⟩ := sysexRejection_out _ _ o ho
        exact .rejection _ a b l
      · rw [hrecv] at ho
        cases hacc : acceptedFrame n env src frame with
        | none =>
          rw [mediaEffect_of_not_accepted hacc] at ho
          cases ho
        | some f =>
          obtain ⟨h, rfl⟩ := mediaEffect_out env n src frame o ho
          exact .received h (by simp [hacc])

/-- Only an update and a change of radio bring a reboot. -/
theorem reboots_of_command {e : Event} {c : Command} {data : List UInt8} {length : ℕ}
    (hcmd : n.commandOf e = some (c, data, length)) (hlr : c ≠ .setLr) (hend : c ≠ .otaEnd) (hdata : c ≠ .otaData) :
    reboots (n.handle lib e).2 = false := by
  rw [handle_of_command lib n hcmd]
  have hrestart : Out.restart ∉ (execute lib e.env (n.noted e) c data length).2 := by
    intro h
    cases execute_out lib e.env _ data length c _ h with
    | restart hc => exact hc.elim hlr hend
  have htrap : Out.divideByZero ∉ (execute lib e.env (n.noted e) c data length).2 := by
    intro h
    cases execute_out lib e.env _ data length c _ h
    exact hdata rfl
  simp [reboots, hrestart, htrap]

end Events

end Nowde
