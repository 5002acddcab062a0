import Nowde.Proof.ClockedNode
import Nowde.Proof.Peers
import Nowde.Spec.Ui

/-!
# What a green light says

A master shows one colour for all its slaves. A `Fleet` is a master with its face, and any number of slaves with
their clocks, each with all that can happen to it; the reports the master hears were sent by slaves, at any
earlier time. The fleet also records who sent which report in which state, and what the master heard when.

* `handle_report`: a report tells what its sender plays, and how well.
* `handle_receiverTable`: what an event that is no report does to the master's table.
* `green_honest`: when a master shows green its host drives, and every slave it counts was in sync when it
  sent the report that the master heard in the last five seconds.
-/

namespace Nowde

/-! ## What a report tells -/

@[simp] theorem ReceiverInfo.length_toFrame (r : ReceiverInfo) : r.toFrame.length = receiverInfoSize := by
  have hl : r.layer.bytes.length = 16 := r.layer.size
  have hv : r.version.bytes.length = 8 := r.version.size
  simp [ReceiverInfo.toFrame, le16Bytes, receiverInfoSize, hl, hv]

section Report

variable (lib : UpdateLib) (env : Env) {n : Node}

/-- There is no report among these. -/
def NoReport (out : List Out) : Prop := ∀ o ∈ out, o.isReport = false

@[simp] theorem noReport_nil : NoReport [] := fun _ h => absurd h (by simp)

@[simp] theorem noReport_cons {o : Out} {out : List Out} :
    NoReport (o :: out) ↔ o.isReport = false ∧ NoReport out := by simp [NoReport]

@[simp] theorem noReport_append {out out' : List Out} : NoReport (out ++ out') ↔ NoReport out ∧ NoReport out' := by
  simp only [NoReport, List.mem_append, or_imp, forall_and]

@[simp] theorem isReport_host (h : HostMsg) : (Out.host h).isReport = false := rfl

@[simp] theorem sendHello_noReport (m : Node) : NoReport (sendHello env m) := by simp [sendHello]

@[simp] theorem sendConfigState_noReport (m : Node) : NoReport (sendConfigState m) := by simp [sendConfigState]

@[simp] theorem sendErrorReport_noReport (code : UInt8) (context : List UInt8) (length : UInt8) :
    NoReport (sendErrorReport code context length) := by simp [sendErrorReport]

@[simp] theorem sendConfigInvalid_noReport : NoReport sendConfigInvalid := by simp [sendConfigInvalid]

@[simp] theorem sendRunningState_noReport (m : Node) : NoReport (sendRunningState env m).2 := by
  unfold sendRunningState
  split
  · exact noReport_nil
  · dsimp only
    split
    · simp
    · intro o ho
      obtain ⟨i, hi, rfl⟩ := List.mem_mapIdx.1 ho
      rfl

theorem applyRole_noReport (m : Node) (role : UInt8) : NoReport (applyRole m role).2 := by
  have hdrop : NoReport (Slots.collect m.receiverTable fun e => if e.active then some (.delPeer e.mac) else none) := by
    intro o ho
    obtain ⟨i, -, rfl⟩ := Slots.mem_collect_ite.1 ho
    rfl
  unfold applyRole
  dsimp only
  split_ifs
  · exact noReport_nil
  · exact hdrop
  · exact noReport_nil
  · exact noReport_nil

/-- **A command** other than a change of layer sends no report. -/
theorem execute_noReport {c : Command} (data : List UInt8) (length : ℕ) (hlocal : c ≠ .setLocalLayer)
    (hchange : c ≠ .changeReceiverLayer) : NoReport (execute lib env n c data length).2 := by
  cases c with
  | setLocalLayer => exact absurd rfl hlocal
  | changeReceiverLayer => exact absurd rfl hchange
  | queryConfig => simp [execute, queryConfig]
  | pushFullConfig =>
    simp only [execute, pushFullConfig]
    split <;> simp
  | queryRunningState =>
    simp only [execute, queryRunningState]
    split_ifs <;> simp
  | enterBootloader => exact noReport_nil
  | otaBegin =>
    simp only [execute, withOta, otaBegin]
    split_ifs <;> simp
  | otaData =>
    simp only [execute, withOta, otaData]
    split_ifs <;> simp [Out.isReport]
  | otaDataAcked =>
    simp only [execute, withOta, otaDataAcked, sendOtaAck]
    split_ifs <;> simp
  | otaEnd =>
    simp only [execute, withOta, otaEnd]
    split_ifs <;> simp [Out.isReport]
  | setRole =>
    simp only [execute, setRole]
    split_ifs <;> simp [applyRole_noReport]
  | setLog =>
    simp only [execute, setLog]
    split <;> simp
  | setLr =>
    simp only [execute, setLr]
    split <;> simp [Out.isReport]
  | setLossPolicy =>
    simp only [execute, setLossPolicy]
    split <;> simp
  | setOrigin =>
    simp only [execute, setOrigin]
    split_ifs <;> simp
  | mediaSync =>
    simp only [execute, mediaSync]
    split_ifs <;> simp [Out.isReport, MediaSyncPacket.toFrame, byteAt, espnowMsgMediaSync, espnowMsgReceiverInfo]

/-- **A report** that a command sends is the node's own, under the layer it has then. -/
theorem execute_report {c : Command} {data : List UInt8} {length : ℕ} {o : Out}
    (ho : o ∈ (execute lib env n c data length).2) (hreport : o.isReport = true) :
    ∃ m : Node, o ∈ sendReceiverInfo env m ∧ m.receiver.mediaSyncState = n.receiver.mediaSyncState ∧
      m.nodeRole = n.nodeRole := by
  have hyes : ∀ {out : List Out}, NoReport out → o ∉ out := by
    intro out hno hmem
    rw [hno o hmem] at hreport
    cases hreport
  by_cases hlocal : c = .setLocalLayer
  · subst hlocal
    simp only [execute, setLocalLayer] at ho
    split at ho
    · rcases List.mem_append.1 ho with hinfo | hconfig
      · exact ⟨changeSubscribedLayer n data length, hinfo, rfl, rfl⟩
      · exact absurd hconfig (hyes (sendConfigState_noReport _))
    · exact absurd ho (hyes sendConfigInvalid_noReport)
  by_cases hchange : c = .changeReceiverLayer
  · subst hchange
    simp only [execute, changeReceiverLayer] at ho
    split at ho
    · -- the layer of another node: its frame is SysEx
      refine absurd ho (hyes ?_)
      split
      · split_ifs <;> simp [Out.isReport, byteAt, sysexStart, espnowMsgReceiverInfo]
      · exact sendErrorReport_noReport _ _ _
    · split at ho
      · exact ⟨changeSubscribedLayer n data length, ho, rfl, rfl⟩
      · cases ho
  exact absurd ho (hyes (execute_noReport lib env data length hlocal hchange))

/-- **Every report** is of what the node follows at that moment. -/
theorem handle_report (hnode : Receiving n) {e : Event} {dest : Mac} {frame : List UInt8}
    (ho : .espNowSend dest frame ∈ (n.handle lib e).2) (htype : byteAt frame 0 = espnowMsgReceiverInfo) :
    frame.length = receiverInfoSize ∧
      (ReceiverInfo.ofFrame frame).mediaIndex = n.receiver.mediaSyncState.currentIndex ∧
      (ReceiverInfo.ofFrame frame).syncQuality = n.quality e.env := by
  have hreport : Out.isReport (.espNowSend dest frame) = true := by simpa [Out.isReport] using htype
  have hsent : ∃ m : Node, .espNowSend dest frame ∈ sendReceiverInfo e.env m ∧
      m.receiver.mediaSyncState = n.receiver.mediaSyncState ∧ m.nodeRole = n.nodeRole := by
    cases hcmd : n.commandOf e with
    | some k =>
      obtain ⟨c, data, length⟩ := k
      rw [handle_of_command lib n hcmd] at ho
      obtain ⟨m, hm, hstate, hrole⟩ := execute_report lib _ ho hreport
      have hnoted : (n.noted e).receiver = n.receiver ∧ (n.noted e).nodeRole = n.nodeRole := by
        cases e <;> exact ⟨rfl, rfl⟩
      exact ⟨m, hm, by rw [hstate, hnoted.1], hrole.trans hnoted.2⟩
    | none =>
      cases handle_out lib n e _ ho with
      | command h =>
        rw [hcmd] at h
        cases h
      | table _ h => cases h
      | round h => exact ⟨n, espnowTask_report _ _ hnode.delays _ ho hreport, rfl, rfl⟩
  obtain ⟨m, hm, hstate, hrole⟩ := hsent
  obtain ⟨i, -, heq⟩ := mem_sendReceiverInfo _ _ hm
  cases heq
  obtain ⟨hindex, hquality⟩ := receiverInfoFrame_reads e.env m
  refine ⟨?_, ?_, ?_⟩
  · unfold receiverInfoFrame
    exact ReceiverInfo.length_toFrame _
  · rw [hindex, hstate]
  · rw [hquality]
    unfold Node.quality
    rw [hstate, hrole]

end Report

/-! ## The master's table -/

/-- Two entries tell of the same report. -/
structure SameReport (e e' : ReceiverEntry) : Prop where
  mac : e'.mac = e.mac
  lastSeen : e'.lastSeen = e.lastSeen
  mediaIndex : e'.mediaIndex = e.mediaIndex
  syncQuality : e'.syncQuality = e.syncQuality

section Table

variable (lib : UpdateLib) {n : Node}

/-- An entry that a cleanup keeps connected was heard of within the timeout. -/
theorem cleanupReceiverEntry_kept (now : UInt32) {e : ReceiverEntry} (h : (cleanupReceiverEntry now e).active = true) :
    e.active = true ∧ SameReport e (cleanupReceiverEntry now e) ∧
      ((cleanupReceiverEntry now e).connected = true → now - e.lastSeen ≤ receiverTimeoutMs) := by
  unfold cleanupReceiverEntry at h ⊢
  dsimp only at h ⊢
  by_cases hexpired : e.expired now = true
  · rw [if_pos hexpired] at h
    cases h
  · rw [if_neg hexpired] at h ⊢
    by_cases hmissing : e.missing now = true
    · rw [if_pos hmissing] at h ⊢
      exact ⟨h, ⟨rfl, rfl, rfl, rfl⟩, fun hc => by cases hc⟩
    · rw [if_neg hmissing] at h ⊢
      refine ⟨h, ⟨rfl, rfl, rfl, rfl⟩, fun _ => ?_⟩
      simpa [ReceiverEntry.missing, h] using hmissing

theorem espnowTask_receiverTable (env : Env) : (espnowTask env n).1.receiverTable =
    if n.senderModeEnabled then (cleanupReceiverTable env.millis n.receiverTable).1 else n.receiverTable := by
  obtain ⟨s, r, hs, hr, htask⟩ := espnowTask_parts env n
  have hsender : s.1.receiverTable =
      if n.senderModeEnabled then (cleanupReceiverTable env.millis n.receiverTable).1 else n.receiverTable := by
    rcases hs with ⟨hmode, rfl⟩ | ⟨hmode, rfl⟩
    · rw [if_pos hmode]
      unfold senderTick senderBeacon delayedTick
      dsimp only
      split_ifs <;> rfl
    · rw [if_neg (by simp [hmode])]
  have hreceiver : r.1.receiverTable = s.1.receiverTable := by
    rcases hr with ⟨-, rfl⟩ | ⟨-, rfl⟩
    · unfold receiverModeTick receiverBeacon meshResyncTick
      dsimp only
      split_ifs <;> rfl
    · rfl
  rcases htask with ⟨-, htask⟩ | ⟨-, htask⟩ <;> rw [htask] <;> exact hreceiver.trans hsender

/-- **What an event that is no report does to the table**: an entry in use was in use, of the same report. -/
theorem handle_receiverTable {e : Event}
    (hquiet : ∀ env src data, e = .radio env src data → byteAt data 0 ≠ espnowMsgReceiverInfo) {i : Fin maxReceivers}
    (hi : ((n.handle lib e).1.receiverTable i).active = true) :
    (n.receiverTable i).active = true ∧ SameReport (n.receiverTable i) ((n.handle lib e).1.receiverTable i) := by
  have hsame : ∀ t : Fin maxReceivers → ReceiverEntry, t = n.receiverTable → (t i).active = true →
      (n.receiverTable i).active = true ∧ SameReport (n.receiverTable i) (t i) := by
    rintro t rfl hactive
    exact ⟨hactive, rfl, rfl, rfl, rfl⟩
  cases hcmd : n.commandOf e with
  | some k =>
    obtain ⟨c, data, length⟩ := k
    rw [handle_of_command lib n hcmd] at hi ⊢
    have hnoted : (n.noted e).receiverTable = n.receiverTable := by cases e <;> rfl
    have hspec : CommandSpec (n.noted e) (execute lib e.env (n.noted e) c data length) := execute_spec ..
    rcases hspec.receivers with hkept | hdropped
    · exact hsame _ (hkept.trans hnoted) hi
    · rw [hdropped i] at hi
      cases hi
  | none =>
    cases e with
    | usb env packet =>
      refine hsame _ ?_ hi
      simp only [Node.handle, (midiPacket_of_none lib env n hcmd).1]
      rfl
    | radio env src data =>
      have hnone : radioCommand data = none := by simpa [Node.commandOf] using hcmd
      simp only [Node.handle] at hi ⊢
      rcases onDataRecv_cases lib env n src data with
        ⟨-, -, -, hrecv⟩ | ⟨-, hinfo, -, -⟩ | ⟨-, -, -, hsysex, hrecv⟩ | ⟨-, -, relay, hrecv⟩
      · rw [hrecv] at hi ⊢
        exact hsame _ rfl hi
      · exact absurd hinfo.2.1 (hquiet env src data rfl)
      · unfold radioCommand at hnone
        rw [if_pos hsysex] at hnone
        rw [hrecv, handleSysExMessage_of_none lib env n hnone] at hi ⊢
        exact hsame _ rfl hi
      · rw [hrecv] at hi ⊢
        refine hsame _ ?_ hi
        unfold mediaEffect receiveMedia
        split
        · split <;> rfl
        · rfl
    | task env =>
      simp only [Node.handle, espnowTask_receiverTable] at hi ⊢
      split at hi
      · next hmode =>
        rw [if_pos hmode]
        obtain ⟨hactive, hreport, -⟩ := cleanupReceiverEntry_kept env.millis hi
        exact ⟨hactive, hreport⟩
      · next hmode =>
        rw [if_neg hmode]
        exact hsame _ rfl hi

/-- Sender mode goes only with the receivers. -/
theorem handle_sender (e : Event) (hsender : n.senderModeEnabled = true) :
    (n.handle lib e).1.senderModeEnabled = true ∨ ∀ i, ((n.handle lib e).1.receiverTable i).active = false := by
  cases hcmd : n.commandOf e with
  | some k =>
    obtain ⟨c, data, length⟩ := k
    rw [handle_of_command lib n hcmd]
    have hnoted : (n.noted e).senderModeEnabled = true := by cases e <;> exact hsender
    by_cases hdrops : dropsReceivers (n.noted e) c data length
    · refine Or.inr fun i => ?_
      rw [(execute_drops lib e.env data length hdrops).1]
    · exact Or.inl ((execute_keeps lib e.env data length hdrops).2.1 hnoted)
  | none =>
    refine Or.inl ?_
    cases e with
    | task env =>
      have hmode : (espnowTask env n).1.still.senderModeEnabled = n.still.senderModeEnabled := by
        rw [espnowTask_still]
      exact hmode.trans hsender
    | usb env packet =>
      obtain ⟨_, _, _, _, -, hnode⟩ := handle_of_none lib n hcmd (by simp)
      rw [hnode]
      exact hsender
    | radio env src data =>
      obtain ⟨_, _, _, _, -, hnode⟩ := handle_of_none lib n hcmd (by simp)
      rw [hnode]
      exact hsender

/-- A booted node knows no receiver. -/
theorem boot_receiverTable (build : Build) (nvs : Nvs) (boardId : UInt8) (mac : Mac) :
    (boot build nvs boardId mac).receiverTable = fun _ => {} := by
  unfold boot applyRole
  dsimp only
  split_ifs <;> rfl

/-- A sender hears a report: the entry it goes to tells of it, the others are as they were. -/
theorem handleReceiverInfo_entry (env : Env) (t : Fin maxReceivers → ReceiverEntry) (src : Mac) {data : List UInt8}
    (hlen : data.length = receiverInfoSize) (i : Fin maxReceivers) :
    (handleReceiverInfo env t src data).1 i = t i ∨
      ((handleReceiverInfo env t src data).1 i).mac = src ∧
        ((handleReceiverInfo env t src data).1 i).lastSeen = env.millis ∧
        ((handleReceiverInfo env t src data).1 i).mediaIndex = (ReceiverInfo.ofFrame data).mediaIndex ∧
        ((handleReceiverInfo env t src data).1 i).syncQuality = (ReceiverInfo.ofFrame data).syncQuality := by
  have hread : rxReceiverInfo data = ReceiverInfo.ofFrame data := by
    unfold rxReceiverInfo
    rw [hlen]
    rfl
  unfold handleReceiverInfo
  rw [if_neg (by rw [hlen]; decide), hread]
  dsimp only
  cases hknown : Slots.find t fun e => e.active && e.mac == src with
  | some j =>
    have hmac := Slots.find_eq_some hknown
    simp only [Bool.and_eq_true, beq_iff_eq] at hmac
    by_cases hij : i = j
    · subst hij
      exact Or.inr (by simp [Function.update_self, refreshReceiver, hmac.2])
    · exact Or.inl (Function.update_of_ne hij _ _)
  | none =>
    cases hfree : Slots.find t fun e => !e.active with
    | none => exact Or.inl rfl
    | some j =>
      by_cases hij : i = j
      · subst hij
        exact Or.inr (by simp [Function.update_self, registerReceiver])
      · exact Or.inl (Function.update_of_ne hij _ _)

end Table

/-! ## The fleet -/

/-- A report, with its sender as it was when it sent it. -/
structure Said where
  sender : ClockedRun
  frame : List UInt8

/-- Whose report it is. -/
def Said.mac (r : Said) : Mac := r.sender.node.node.relay.myMacAddress

/-- A master and its slaves, the reports sent, and those the master heard, with the time. -/
structure Fleet (ι : Type*) where
  now : ℕ := 0
  master : Device
  /-- When the master booted. -/
  booted : ℕ := 0
  slave : ι → ClockedRun
  said : List Said := []
  heard : List (Said × ℕ) := []

/-- What can happen. -/
inductive FleetEvent (ι : Type*)
  /-- Time passes, and the slaves' timers count on by `ticks`. -/
  | pass (ms : ℕ) (ticks : ι → ℕ)
  | slave (i : ι) (e : ClockedEvent)
  /-- The master hears report `k`. -/
  | hear (k : ℕ) (env : Env)
  /-- The master hears anything but a report. -/
  | radio (env : Env) (src : Mac) (data : List UInt8) (hdata : byteAt data 0 ≠ espnowMsgReceiverInfo)
  | usb (env : Env) (packet : MidiEventPacket)
  /-- The master's task goes round. -/
  | round (env : Env) (b : BtnA)
  | waited
  | powerCut

/-- A device event at some time since the boot. -/
def DeviceEvent.at (time : ℕ) : DeviceEvent → DeviceEvent
  | .node e => .node (e.at time)
  | .ui env b => .ui (env.at time) b
  | .waited => .waited
  | .powerCut => .powerCut

/-- The reports among some outputs. -/
def reportsOf (out : List Out) : List (List UInt8) := out.filterMap fun
  | .espNowSend _ frame => if byteAt frame 0 = espnowMsgReceiverInfo then some frame else none
  | _ => none

namespace Fleet

variable {ι : Type*} [DecidableEq ι] (lib : UpdateLib) (build : Build)

omit [DecidableEq ι] in
/-- An event at the master. -/
def atMaster (s : Fleet ι) (e : DeviceEvent) : Fleet ι × List Shown :=
  let e := e.at (s.now - s.booted)
  let r := s.master.step lib build e
  ({ s with
      master := r.1
      booted := if s.master.boots lib build e then s.now else s.booted }, r.2.filterMap Sum.getRight?)

/-- The end of a round, unless the node restarted in it. -/
def round (s : Fleet ι) (env : Env) (b : BtnA) : Fleet ι × List Shown :=
  let t := (s.atMaster lib build (.node (.task env))).1
  if s.master.boots lib build (.node (.task (env.at (s.now - s.booted)))) then (t, []) else t.atMaster lib build (.ui env b)

/-- One event, and what the master's face shows. -/
def step (s : Fleet ι) : FleetEvent ι → Fleet ι × List Shown
  | .pass ms ticks =>
    ({ s with
        now := s.now + ms
        slave := fun i => ((s.slave i).step lib build (.pass ms (ticks i))).1 }, [])
  | .slave i e =>
    let r := (s.slave i).step lib build (.event e)
    ({ s with
        slave := Function.update s.slave i r.1
        said := s.said ++ (reportsOf r.2).map fun frame => ⟨s.slave i, frame⟩ }, [])
  | .hear k env =>
    match s.said[k]? with
    | some r => ({ (s.atMaster lib build (.node (.radio env r.mac r.frame))).1 with heard := s.heard ++ [(r, s.now)] }, [])
    | none => (s, [])
  | .radio env src data _ => s.atMaster lib build (.node (.radio env src data))
  | .usb env packet => s.atMaster lib build (.node (.usb env packet))
  | .round env b => s.round lib build env b
  | .waited => s.atMaster lib build .waited
  | .powerCut => s.atMaster lib build .powerCut

end Fleet

/-- **In sync**: the node leads, or it plays a packet that looks recent and was of a trusted age, and it heard a
clock packet in the last five seconds. -/
def ClockedRun.InSync (s : ClockedRun) : Prop :=
  s.node.node.nodeRole = nowdeRoleMaster ∨
    s.node.node.core.currentState = 1 ∧ s.node.node.core.linkLost = false ∧
      UInt32.ofNat s.time - s.node.node.core.lastSyncTime ≤ linkLostTimeoutMs ∧
      s.node.node.core.coarse = false ∧
      ∃ t ∈ s.heard, (s.time - t) % 2 ^ 32 ≤ meshClockSyncTimeoutMs.toNat

/-- What a report says is so. -/
structure Said.True (r : Said) : Prop where
  type : byteAt r.frame 0 = espnowMsgReceiverInfo
  length : r.frame.length = receiverInfoSize
  mediaIndex : (ReceiverInfo.ofFrame r.frame).mediaIndex = r.sender.node.node.core.currentIndex
  locked : (ReceiverInfo.ofFrame r.frame).syncQuality = nowdeSyncLocked → r.sender.InSync

namespace Fleet

variable {ι : Type*} {lib : UpdateLib} {build : Build} {s : Fleet ι}

/-- An entry of the table is of a report that the master heard since it booted. -/
structure Backs (booted : ℕ) (x : Said × ℕ) (e : ReceiverEntry) : Prop where
  mac : e.mac = x.1.mac
  since : booted ≤ x.2
  lastSeen : e.lastSeen = UInt32.ofNat (x.2 - booted)
  mediaIndex : e.mediaIndex = (ReceiverInfo.ofFrame x.1.frame).mediaIndex
  syncQuality : e.syncQuality = (ReceiverInfo.ofFrame x.1.frame).syncQuality

/-- The table tells of reports that were heard, of no slave twice, and only a sender has one. -/
structure Tells (n : Node) (booted : ℕ) (heard : List (Said × ℕ)) : Prop where
  backed : ∀ i, (n.receiverTable i).active = true → ∃ x ∈ heard, Backs booted x (n.receiverTable i)
  apart : ∀ i j, (n.receiverTable i).active = true → (n.receiverTable j).active = true →
    (n.receiverTable i).mac = (n.receiverTable j).mac → i = j
  idle : n.senderModeEnabled = false → ∀ i, (n.receiverTable i).active = false

/-- What holds in every run. -/
structure Sound (s : Fleet ι) : Prop where
  slaves : ∀ i, (s.slave i).Records
  said : ∀ r ∈ s.said, r.True
  heard : ∀ x ∈ s.heard, x.1 ∈ s.said ∧ x.2 ≤ s.now
  booted : s.booted ≤ s.now
  table : Tells s.master.node s.booted s.heard

section Steps

variable {d : Device} {booted now : ℕ} {heard : List (Said × ℕ)}

/-- An empty table tells of nothing. -/
theorem tells_of_idle {n : Node} (h : ∀ i, (n.receiverTable i).active = false) : Tells n booted heard :=
  ⟨fun i hi => absurd hi (by simp [h i]), fun i _ hi => absurd hi (by simp [h i]), fun _ => h⟩

theorem tells_boot (nvs : Nvs) (boardId : UInt8) (mac : Mac) : Tells (boot build nvs boardId mac) booted heard :=
  tells_of_idle fun i => by rw [boot_receiverTable]

theorem Tells.handle {n : Node} (h : Tells n booted heard) {e : Event}
    (hquiet : ∀ env src data, e = .radio env src data → byteAt data 0 ≠ espnowMsgReceiverInfo) :
    Tells (n.handle lib e).1 booted heard := by
  refine ⟨fun i hi => ?_, fun i j hi hj hmac => ?_, fun hmode => ?_⟩
  · obtain ⟨hactive, hsame⟩ := handle_receiverTable lib hquiet hi
    obtain ⟨x, hx, hbacks⟩ := h.backed i hactive
    exact ⟨x, hx, hsame.mac.trans hbacks.mac, hbacks.since, hsame.lastSeen.trans hbacks.lastSeen,
      hsame.mediaIndex.trans hbacks.mediaIndex, hsame.syncQuality.trans hbacks.syncQuality⟩
  · obtain ⟨hactive, hsame⟩ := handle_receiverTable lib hquiet hi
    obtain ⟨hactive', hsame'⟩ := handle_receiverTable lib hquiet hj
    exact h.apart i j hactive hactive' (hsame.mac.symm.trans (hmac.trans hsame'.mac))
  · cases hbefore : n.senderModeEnabled with
    | true =>
      rcases handle_sender lib e hbefore with hsender | hidle
      · rw [hmode] at hsender
        cases hsender
      · exact hidle
    | false =>
      intro i
      by_contra hactive
      have hwas := (handle_receiverTable lib hquiet (Bool.eq_true_of_not_eq_false hactive)).1
      rw [h.idle hbefore i] at hwas
      cases hwas

/-- **Whatever happens at the device**, no report aside, its table tells of what it told of, unless it boots. -/
theorem Tells.nodeStep (h : Tells d.node booted heard) {e : Event} (booted' : ℕ)
    (hquiet : ∀ env src data, e = .radio env src data → byteAt data 0 ≠ espnowMsgReceiverInfo) :
    Tells (d.nodeStep lib build e).1.node (if reboots (d.node.step lib build e).2 then booted' else booted) heard := by
  unfold Device.nodeStep
  dsimp only
  cases hre : reboots (d.node.handle lib e).2 with
  | true =>
    rw [step_of_reboots build hre, if_pos hre]
    exact tells_boot _ _ _
  | false =>
    have hstays : ¬reboots (d.node.handle lib e).2 = true := by simp [hre]
    rw [step_of_not_reboots build hre, if_neg hstays, if_neg hstays]
    exact h.handle hquiet

theorem Tells.step (h : Tells d.node booted heard) {e : DeviceEvent} (booted' : ℕ)
    (hquiet : ∀ env src data, e = .node (.radio env src data) → byteAt data 0 ≠ espnowMsgReceiverInfo) :
    Tells (d.step lib build e).1.node (if d.boots lib build e then booted' else booted) heard := by
  cases e with
  | node e =>
    cases e with
    | task env =>
      cases hreset : d.resetting with
      | true =>
        have hsame : (d.step lib build (.node (.task env))).1 = d := by simp [Device.step, hreset]
        rw [hsame, if_neg (by simp [Device.boots, hreset])]
        exact h
      | false =>
        have hstep : d.step lib build (.node (.task env)) = d.nodeStep lib build (.task env) := by
          simp [Device.step, hreset]
        have hboots : d.boots lib build (.node (.task env)) = reboots (d.node.step lib build (.task env)).2 := by
          simp [Device.boots, hreset]
        rw [hstep, hboots]
        exact h.nodeStep booted' fun _ _ _ he => by cases he
    | radio env src data =>
      refine h.nodeStep booted' fun env' src' data' he => ?_
      cases he
      exact hquiet env src data rfl
    | usb env packet => exact h.nodeStep booted' fun _ _ _ he => by cases he
  | ui env b =>
    rw [if_neg (by simp [Device.boots])]
    unfold Device.step
    dsimp only
    split_ifs <;> exact ⟨h.backed, h.apart, h.idle⟩
  | waited =>
    cases hreset : d.resetting with
    | true =>
      have hstep : (d.step lib build .waited).1 = Device.reboot build d := by simp [Device.step, hreset]
      rw [hstep]
      exact tells_boot _ _ _
    | false =>
      have hsame : (d.step lib build .waited).1 = d := by simp [Device.step, hreset]
      rw [hsame, if_neg (by simp [Device.boots, hreset])]
      exact h
  | powerCut => exact tells_boot _ _ _

/-- The master hears a report. -/
theorem onDataRecv_report (env : Env) (n : Node) {r : Said} (hr : r.True) :
    onDataRecv lib env n r.mac r.frame =
      if n.senderModeEnabled then
        ({ n with receiverTable := (handleReceiverInfo env n.receiverTable r.mac r.frame).1 },
          (handleReceiverInfo env n.receiverTable r.mac r.frame).2)
      else (n, []) := by
  have hlen : r.frame.length = 29 := hr.length
  have hclock : ¬isMeshClockPacket r.frame = true := by simp [isMeshClockPacket, hlen]
  unfold onDataRecv
  rw [if_neg (by omega), if_neg hclock]
  dsimp only
  rw [hr.type, if_neg (by decide), if_neg (by decide), if_pos rfl]

/-- **A report** the master hears is told of, if the master drives. -/
theorem Tells.hear {n : Node} (h : Tells n booted heard) {env : Env} {r : Said} (hr : r.True) (hbooted : booted ≤ now)
    (hmillis : env.millis = UInt32.ofNat (now - booted)) :
    Tells (onDataRecv lib env n r.mac r.frame).1 booted (heard ++ [(r, now)]) := by
  have hmore : ∀ {e : ReceiverEntry}, (∃ x ∈ heard, Backs booted x e) → ∃ x ∈ heard ++ [(r, now)], Backs booted x e :=
    fun ⟨x, hx, hbacks⟩ => ⟨x, List.mem_append_left _ hx, hbacks⟩
  rw [onDataRecv_report env n hr]
  cases hmode : n.senderModeEnabled with
  | false => exact ⟨fun i hi => hmore (h.backed i hi), h.apart, fun _ => h.idle hmode⟩
  | true =>
    rw [if_pos rfl]
    refine ⟨fun i hi => ?_, ?_, fun hno => ?_⟩
    · rcases handleReceiverInfo_entry env n.receiverTable r.mac hr.length i with hsame | ⟨hmac, hseen, hindex, hquality⟩
      · dsimp only at hi ⊢
        rw [hsame] at hi ⊢
        exact hmore (h.backed i hi)
      · exact ⟨(r, now), by simp, hmac, hbooted, hseen.trans hmillis, hindex, hquality⟩
    · have hlen : r.frame.length ≥ receiverInfoMinLen := by
        rw [hr.length]
        decide
      dsimp only
      rw [handleReceiverInfo_eq n.receiverTable _ hlen]
      exact note_unique h.apart (fun _ => rfl) rfl
    · -- it goes on driving
      cases hno

/-- A report brings no reboot. -/
theorem report_stays (env : Env) (n : Node) {r : Said} (hr : r.True) :
    reboots (n.handle lib (.radio env r.mac r.frame)).2 = false := by
  have htable : ∀ o ∈ (onDataRecv lib env n r.mac r.frame).2, TableOut o := by
    rw [onDataRecv_report env n hr]
    split
    · exact handleReceiverInfo_out env n.receiverTable r.mac r.frame
    · simp
  have hno : ∀ o, ¬TableOut o → o ∉ (n.handle lib (.radio env r.mac r.frame)).2 := fun o ho hmem => ho (htable o hmem)
  simp [reboots, hno .restart (by rintro ⟨⟩), hno .divideByZero (by rintro ⟨⟩)]

end Steps

/-! ## Runs -/

section Runs

/-- An event at the master that is no report. -/
theorem Sound.atMaster (h : s.Sound) {e : DeviceEvent}
    (hquiet : ∀ env src data, e = .node (.radio env src data) → byteAt data 0 ≠ espnowMsgReceiverInfo) :
    (s.atMaster lib build e).1.Sound where
  slaves := h.slaves
  said := h.said
  heard := h.heard
  booted := by
    unfold Fleet.atMaster
    dsimp only
    split
    · exact le_rfl
    · exact h.booted
  table := by
    refine h.table.step s.now fun env src data he => ?_
    cases e with
    | node e =>
      cases e with
      | radio env' src' data' =>
        cases he
        exact hquiet _ _ _ rfl
      | _ => cases he
    | _ => cases he

/-- The master hears a report: it does not boot, and its table tells of the report. -/
theorem Sound.hear (h : s.Sound) {r : Said} (hr : r ∈ s.said) (env : Env) :
    let t := (s.atMaster lib build (.node (.radio env r.mac r.frame))).1
    t.booted ≤ s.now ∧ Tells t.master.node t.booted (s.heard ++ [(r, s.now)]) := by
  have hstays : reboots (s.master.node.handle lib (.radio (env.at (s.now - s.booted)) r.mac r.frame)).2 = false :=
    report_stays (env.at (s.now - s.booted)) s.master.node (h.said r hr)
  have hboots : s.master.boots lib build (.node (.radio (env.at (s.now - s.booted)) r.mac r.frame)) = false := by
    unfold Device.boots
    dsimp only
    rw [step_outputs]
    exact hstays
  have hnode : (s.master.step lib build (.node (.radio (env.at (s.now - s.booted)) r.mac r.frame))).1.node =
      (onDataRecv lib (env.at (s.now - s.booted)) s.master.node r.mac r.frame).1 := by
    unfold Device.step Device.nodeStep
    dsimp only
    rw [step_of_not_reboots build hstays, if_neg (by simp [hstays])]
    rfl
  unfold Fleet.atMaster DeviceEvent.at Event.at
  dsimp only
  rw [hboots, hnode]
  exact ⟨h.booted, h.table.hear (h.said r hr) h.booted rfl⟩

/-- A slave's reports are true. -/
theorem Said.true_of_sent {c : ClockedRun} (hc : c.Records) {e : ClockedEvent} {frame : List UInt8}
    (hframe : frame ∈ reportsOf (c.step lib build (.event e)).2) : Said.True ⟨c, frame⟩ := by
  have hout : (c.step lib build (.event e)).2 = (c.node.node.handle lib (c.node.event c.timers e)).2 := by
    have houtputs := step_outputs build lib c.node.node (c.node.event c.timers e)
    unfold ClockedRun.step ClockedNode.step
    dsimp only
    split_ifs <;> exact houtputs
  rw [hout] at hframe
  obtain ⟨o, ho, hframe⟩ := List.mem_filterMap.1 hframe
  have hsent : ∃ dest, o = .espNowSend dest frame ∧ byteAt frame 0 = espnowMsgReceiverInfo := by
    cases o with
    | espNowSend dest f =>
      dsimp only at hframe
      split at hframe
      · next htype =>
        cases hframe
        exact ⟨dest, rfl, htype⟩
      · cases hframe
    | _ => cases hframe
  obtain ⟨dest, rfl, htype⟩ := hsent
  obtain ⟨hlen, hindex, hquality⟩ := handle_report lib hc.node ho htype
  refine ⟨htype, hlen, hindex, fun hlocked => ?_⟩
  rw [hquality] at hlocked
  by_cases hrole : c.node.node.nodeRole = nowdeRoleMaster
  · exact Or.inl hrole
  · refine Or.inr ?_
    obtain ⟨hplays, hlink, hfresh, htrusted, hsynced⟩ := (quality_locked_iff hrole).1 hlocked
    have hmillis : (c.node.event c.timers e).env.millis = UInt32.ofNat c.time := by cases e <;> rfl
    have hstate : (c.node.event c.timers e).env.syncState = c.node.clock.getSyncState c.timers.millis := by
      cases e <;> rfl
    rw [hmillis] at hfresh
    rw [hstate] at hsynced
    exact ⟨hplays, hlink, hfresh, htrusted, hc.getSyncState_iff.1 hsynced⟩

variable [DecidableEq ι]

/-- **One step.** -/
theorem Sound.step (h : s.Sound) (e : FleetEvent ι) : (s.step lib build e).1.Sound := by
  cases e with
  | pass ms ticks =>
    exact ⟨fun i => show ((s.slave i).step lib build (.pass ms (ticks i))).1.Records from (h.slaves i).step _, h.said,
      fun x hx => ⟨(h.heard x hx).1, (h.heard x hx).2.trans (Nat.le_add_right _ _)⟩,
      h.booted.trans (Nat.le_add_right _ _), h.table⟩
  | slave i e =>
    refine ⟨fun j => ?_, fun r hr => ?_, fun x hx => ⟨List.mem_append_left _ (h.heard x hx).1, (h.heard x hx).2⟩,
      h.booted, h.table⟩
    · show (Function.update s.slave i _ j).Records
      by_cases hji : j = i
      · subst hji
        rw [Function.update_self]
        exact (h.slaves j).step (.event e)
      · rw [Function.update_of_ne hji]
        exact h.slaves j
    · rcases List.mem_append.1 hr with hold | hnew
      · exact h.said r hold
      · obtain ⟨frame, hframe, rfl⟩ := List.mem_map.1 hnew
        exact Said.true_of_sent (h.slaves i) hframe
  | hear k env =>
    cases hk : s.said[k]? with
    | none =>
      have hsame : (s.step lib build (.hear k env)).1 = s := by simp only [Fleet.step, hk]
      rw [hsame]
      exact h
    | some r =>
      have hr := List.mem_of_getElem? hk
      simp only [Fleet.step, hk]
      refine ⟨h.slaves, h.said, fun x hx => ?_, (h.hear hr env).1, (h.hear hr env).2⟩
      rcases List.mem_append.1 hx with hold | hnew
      · exact h.heard x hold
      · rw [List.mem_singleton.1 hnew]
        exact ⟨hr, le_rfl⟩
  | radio env src data hdata =>
    refine h.atMaster fun _ _ _ he => ?_
    cases he
    exact hdata
  | usb env packet => exact h.atMaster fun _ _ _ he => by cases he
  | round env b =>
    have htask : (s.atMaster lib build (.node (.task env))).1.Sound := h.atMaster fun _ _ _ he => by cases he
    show (s.round lib build env b).1.Sound
    unfold Fleet.round
    dsimp only
    split
    · exact htask
    · exact htask.atMaster fun _ _ _ he => by cases he
  | waited => exact h.atMaster fun _ _ _ he => by cases he
  | powerCut => exact h.atMaster fun _ _ _ he => by cases he

end Runs

/-! ## Green -/

/-- What plays: `{0, 70, 0}`. -/
def green : Rgb := ⟨0, 70, 0⟩

/-- What a round can show: one thing at most. -/
theorem uiTick_shows (env : Env) (b : BtnA) (u : Ui) (n : Node) :
    (uiTick env b u n).2 = [] ∨ ∃ c, (uiTick env b u n).2 = [c] ∧
      (c = .nvsReset ∨ c = .infoPage ∨ c = .statusPage (statusColor env n).1 ∨ c = ledShow env n) := by
  unfold uiTick
  dsimp only
  split
  · exact Or.inr ⟨_, rfl, Or.inl rfl⟩
  · generalize (if b.wasReleased = true then { u.click b with holdArmed := true } else u.click b) = u'
    split
    · exact Or.inl rfl
    · refine Or.inr ⟨_, rfl, Or.inr ?_⟩
      split_ifs
      · exact Or.inr (Or.inl rfl)
      · exact Or.inl rfl
      · exact Or.inr (Or.inr rfl)

/-- A face that shows green shows the node's colour. -/
theorem statusColor_of_shown {env : Env} {b : BtnA} {u : Ui} {n : Node} {c : Shown} (h : c ∈ (uiTick env b u n).2)
    (hgreen : c = .led green ∨ c = .statusPage green) : (statusColor env n).1 = green := by
  obtain hnone | ⟨c', hone, hshown⟩ := uiTick_shows env b u n
  · rw [hnone] at h
    cases h
  rw [hone] at h
  cases List.mem_singleton.1 h
  rcases hshown with rfl | rfl | rfl | rfl
  · rcases hgreen with hno | hno <;> cases hno
  · rcases hgreen with hno | hno <;> cases hno
  · rcases hgreen with hno | heq
    · cases hno
    · exact Shown.statusPage.inj heq
  · unfold ledShow at hgreen
    dsimp only at hgreen
    split_ifs at hgreen
    · -- dark, between two blinks
      rcases hgreen with hno | hno
      · exact absurd (Shown.led.inj hno) (by decide)
      · cases hno
    · rcases hgreen with heq | hno
      · exact Shown.led.inj heq
      · cases hno

/-- **A master is green** exactly while its host drives and all it counts are locked, one at least. -/
theorem statusColor_green {env : Env} {n : Node} (hrole : n.nodeRole = nowdeRoleMaster)
    (h : (statusColor env n).1 = green) :
    countConnectedReceivers n.receiverTable ≠ 0 ∧ masterRelayPlaying env.millis n.masterRelay = true ∧
      countConnectedReceivers n.receiverTable ≤ countLockedReceivers n.receiverTable := by
  unfold statusColor at h
  rw [if_pos hrole] at h
  by_cases hota : n.ota.otaInProgress = true
  · rw [if_pos hota] at h
    exact absurd h (by decide)
  rw [if_neg hota] at h
  by_cases hhost : ¬hostLinked env.millis n.lastHostRxTime = true
  · rw [if_pos hhost] at h
    exact absurd h (by decide)
  rw [if_neg hhost] at h
  by_cases hnone : countConnectedReceivers n.receiverTable = 0
  · rw [if_pos hnone] at h
    exact absurd h (by decide)
  rw [if_neg hnone] at h
  by_cases hwarn : masterRelayPlaying env.millis n.masterRelay = true ∧
      countLockedReceivers n.receiverTable < countConnectedReceivers n.receiverTable
  · rw [if_pos hwarn] at h
    exact absurd h (by decide)
  rw [if_neg hwarn] at h
  by_cases hplays : masterRelayPlaying env.millis n.masterRelay = true
  · exact ⟨hnone, hplays, Nat.le_of_not_lt fun hlt => hwarn ⟨hplays, hlt⟩⟩
  · rw [if_neg hplays] at h
    exact absurd h (by decide)

/-- **In step**: the host drives; the master counts a slave; and each it counts was in sync, and played the clip
the master lists for it, when it sent the report that the master heard in the last five seconds, modulo `2 ^ 32` ms. -/
structure InStep (s : Fleet ι) : Prop where
  drives : s.master.node.masterRelay.state = 1 ∧
    UInt32.ofNat (s.now - s.booted) - s.master.node.masterRelay.updatedAt < 3000
  some : ∃ i, (s.master.node.receiverTable i).active = true ∧ (s.master.node.receiverTable i).connected = true
  each : ∀ i, (s.master.node.receiverTable i).active = true → (s.master.node.receiverTable i).connected = true →
    ∃ x ∈ s.heard, x.1 ∈ s.said ∧ x.1.mac = (s.master.node.receiverTable i).mac ∧
      (s.now - x.2) % 2 ^ 32 ≤ receiverTimeoutMs.toNat ∧
      x.1.sender.node.node.core.currentIndex = (s.master.node.receiverTable i).mediaIndex ∧ x.1.sender.InSync

/-- What a round that shows green leaves behind. -/
theorem inStep_of_green (h : s.Sound) (env : Env) (hrole : s.master.node.nodeRole = nowdeRoleMaster)
    (hfresh : ∀ i, (s.master.node.receiverTable i).active = true → (s.master.node.receiverTable i).connected = true →
      UInt32.ofNat (s.now - s.booted) - (s.master.node.receiverTable i).lastSeen ≤ receiverTimeoutMs)
    (hgreen : (statusColor (env.at (s.now - s.booted)) s.master.node).1 = green) : s.InStep := by
  obtain ⟨hcount, hplays, hlocked⟩ := statusColor_green hrole hgreen
  unfold masterRelayPlaying at hplays
  simp only [decide_eq_true_eq] at hplays
  refine ⟨⟨hplays.1, hplays.2.2⟩, ?_, fun i hactive hconnected => ?_⟩
  · obtain ⟨i, hi⟩ := Slots.exists_of_count_ne hcount
    simp only [Bool.and_eq_true] at hi
    exact ⟨i, hi⟩
  · obtain ⟨x, hx, hbacks⟩ := h.table.backed i hactive
    obtain ⟨hsaid, hpast⟩ := h.heard x hx
    have htrue := h.said x.1 hsaid
    have hquality := Slots.of_count_le (fun e he => by simp only [Bool.and_eq_true] at he ⊢; exact he.1) hlocked i
      (by simp [hactive, hconnected])
    simp only [hactive, hconnected, Bool.and_self, Bool.true_and, beq_iff_eq] at hquality
    refine ⟨x, hx, hsaid, hbacks.mac.symm, ?_, htrue.mediaIndex.symm.trans hbacks.mediaIndex.symm,
      htrue.locked (hbacks.syncQuality.symm.trans hquality)⟩
    have hsince := hbacks.since
    have hage := UInt32.le_iff_toNat_le.1 (hfresh i hactive hconnected)
    rw [hbacks.lastSeen, WrapClock.toNat_ofNat_sub_ofNat_of_le (by omega)] at hage
    rwa [show s.now - s.booted - (x.2 - s.booted) = s.now - x.2 by omega] at hage

/-- **A round that shows something** but the answer to a long press is a whole round of the task, and then of the
face. -/
theorem round_shows {env : Env} {b : BtnA} {c : Shown} (h : c ∈ (s.round lib build env b).2) (hc : c ≠ .nvsReset) :
    c ∈ (uiTick (env.at (s.now - s.booted)) b s.master.ui
        (espnowTask (env.at (s.now - s.booted)) s.master.node).1).2 ∧
      (s.round lib build env b).1.master.node = (espnowTask (env.at (s.now - s.booted)) s.master.node).1 ∧
      (s.round lib build env b).1.booted = s.booted ∧ (s.round lib build env b).1.now = s.now := by
  unfold Fleet.round at h ⊢
  dsimp only at h ⊢
  generalize henv : env.at (s.now - s.booted) = env' at h ⊢
  cases hboots : s.master.boots lib build (.node (.task env')) with
  | true =>
    rw [hboots, if_pos rfl] at h
    cases h
  | false =>
    have hno : ¬s.master.boots lib build (.node (.task env')) = true := by simp [hboots]
    rw [if_neg hno] at h
    simp only [Bool.false_eq_true, if_false]
    have hbooted : (s.atMaster lib build (.node (.task env))).1.booted = s.booted := by
      simp only [Fleet.atMaster, DeviceEvent.at, Event.at, henv]
      exact if_neg hno
    have hnow : (s.atMaster lib build (.node (.task env))).1.now = s.now := rfl
    have hui : ∀ t : Fleet ι, t.now = s.now → t.booted = s.booted → (t.atMaster lib build (.ui env b)) =
        ({ t with master := (t.master.step lib build (.ui env' b)).1 },
          (t.master.step lib build (.ui env' b)).2.filterMap Sum.getRight?) := by
      intro t hnow hbooted
      simp only [Fleet.atMaster, DeviceEvent.at, hnow, hbooted, henv]
      rfl
    rw [hui _ hnow hbooted] at h ⊢
    have hmaster : (s.atMaster lib build (.node (.task env))).1.master =
        (s.master.step lib build (.node (.task env'))).1 := by
      simp only [Fleet.atMaster, DeviceEvent.at, Event.at, henv]
    cases hreset : s.master.resetting with
    | true =>
      -- the task waits for the reboot
      rw [hmaster] at h
      simp [Device.step, hreset] at h
    | false =>
      have hstays : reboots (s.master.node.handle lib (.task env')).2 = false := by
        rw [← step_outputs build]
        simpa [Device.boots, hreset] using hboots
      have htask : (s.master.step lib build (.node (.task env'))).1 =
          { s.master with node := (espnowTask env' s.master.node).1 } := by
        unfold Device.step Device.nodeStep
        dsimp only
        rw [if_neg (by simp [hreset]), step_of_not_reboots build hstays, if_neg (by simp [hstays])]
        rfl
      rw [hmaster, htask] at h ⊢
      have hshown : c ∈ (uiTick env' b s.master.ui (espnowTask env' s.master.node).1).2 := by
        simpa [Device.step, hreset] using h
      have hkept : .nvsReset ∉ (uiTick env' b s.master.ui (espnowTask env' s.master.node).1).2 := by
        obtain hnone | ⟨c', hone, -⟩ := uiTick_shows env' b s.master.ui (espnowTask env' s.master.node).1
        · simp [hnone]
        · rw [hone, List.mem_singleton] at hshown ⊢
          rw [← hshown]
          exact hc.symm
      refine ⟨hshown, ?_, hbooted, hnow⟩
      simp [Device.step, hreset, hkept]

variable [DecidableEq ι]

/-- Booted nodes. -/
def start (build : Build) (ui : Ui) (master : Nvs × UInt8 × Mac) (slave : ι → Nvs × UInt8 × Mac) : Fleet ι where
  master := { node := boot build master.1 master.2.1 master.2.2, ui := ui }
  slave i := { node := { node := boot build (slave i).1 (slave i).2.1 (slave i).2.2 } }

omit [DecidableEq ι] in
theorem start_sound (ui : Ui) (master : Nvs × UInt8 × Mac) (slave : ι → Nvs × UInt8 × Mac) :
    (start build ui master slave).Sound where
  slaves i := ClockedRun.boot_records build _ _ _
  said r hr := by cases hr
  heard x hx := by cases hx
  booted := le_rfl
  table := tells_boot _ _ _

/-- Every run of a fleet from boot is sound. -/
theorem sound_of_run {ui : Ui} {master : Nvs × UInt8 × Mac} {slave : ι → Nvs × UInt8 × Mac}
    {es : List (FleetEvent ι)} (hrun : (Mealy.run (Fleet.step lib build) (start build ui master slave) es).1 = s) :
    s.Sound := by
  rw [← hrun]
  exact Mealy.inv_run Sound (G := fun _ _ => True) (fun s e h _ => h.step e) (start_sound ui master slave)
    (Mealy.guarded_of_forall (fun _ _ => trivial) _ es)

/-- A slave plays and reports a second after boot, the master hears it, and the master's host drives. -/
def litFleet : Fleet Unit :=
  (Mealy.run (Fleet.step noUpdate wildcardBuild)
    (start wildcardBuild {} ({ role := some nowdeRoleMaster }, nowdeBoardidAtoms3Lite, masterA)
      fun _ => ({}, nowdeBoardidAtoms3Lite, slaveMac))
    ([.slave () (.radio { millis := 0 } masterA [espnowMsgSenderBeacon]),
      .slave () (.radio { millis := 0 } masterA (clip 5 1 1).toFrame),
      .slave () (.radio { millis := 0 } masterA (meshClockPacket 1000)), .pass 1000 fun _ => 1000000,
      .slave () (.task { millis := 0 } 0), .hear 0 { millis := 0 }] ++
    (Host.sysexPackets ([sysexStart, sysexManufacturerId, sysexCmdMediaSync] ++ List.replicate 16 0x61 ++
      [5, 0, 0, 0, 0, 0, 1, sysexEnd])).map fun packet => .usb { millis := 0 } packet)).1

end Fleet

end Nowde
