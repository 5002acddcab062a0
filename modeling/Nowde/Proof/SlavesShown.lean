import Nowde.Proof.Replies
import Nowde.Proof.StatusLight
import Nowde.Proof.WellFormed

/-!
# The tool's list of slaves is honest

`slaves` asks a master for its `RUNNING_STATE` and lists what the chunks report: a row for each slave, with the clip
it plays, its lock, and how long ago it was heard.

* `cmdSlaves_sent`: the rows are the slaves that the master counts, in order.
* `slavesShown_query`: there are rows exactly when the node reports at all.
* `reports_iff_lastReport`: it reports half a second after its last report.
* `slaves_shown`: over every run of a fleet each row is of a report that the slave sent and the master heard.
-/

namespace Nowde

open Host

namespace Host

/-- The `RUNNING_STATE` dictionaries among the SysEx data received. -/
def runningStates (received : List (List UInt8)) : List RunningInfo :=
  received.filterMap fun data =>
    match parse data with
    | some (_, .runningState info) => some info
    | _ => none

/-- `cmd_slaves`: whether the mesh clock is in sync, and the rows. `none` is "no RUNNING_STATE". -/
def cmdSlaves (received : List (List UInt8)) : Option (Bool × List ReceiverReading) :=
  (runningStates received).getLast?.map fun info =>
    (info.synced, (runningStates received).flatMap RunningInfo.receivers)

end Host

/-- The data of the SysEx frames that a device sends its host. -/
def sysexData (out : List (Out ⊕ Shown)) : List (List UInt8) :=
  out.filterMap fun
    | .inl (.host m) => m.sysEx?.map Host.payload
    | _ => none

/-- The six bytes are the address. -/
theorem Mac.eq_of_bytes {a b : Mac} (h : a.bytes = b.bytes) : a = b := by
  cases a
  cases b
  simpa [Mac.bytes] using h

/-- **The node reports**: it is a sender, and its last report is half a second old. -/
def Node.Reports (n : Node) (now : UInt32) : Prop :=
  n.senderModeEnabled = true ∧ ¬now - n.runningStateSendTime < 500

instance (n : Node) (now : UInt32) : Decidable (n.Reports now) := inferInstanceAs (Decidable (_ ∧ _))

/-! ## One answer -/

section Sent

variable (env : Env) (n : Node)

theorem runningStates_append (out out' : List (Out ⊕ Shown)) : Host.runningStates (sysexData (out ++ out')) =
    Host.runningStates (sysexData out) ++ Host.runningStates (sysexData out') := by
  unfold sysexData Host.runningStates
  rw [List.filterMap_append, List.filterMap_append]

/-- A greeting is no report. -/
theorem runningStates_hello (m : Node) : Host.runningStates (sysexData ((sendHello env m).map .inl)) = [] := by
  have hdata : sysexData ((sendHello env m).map .inl) = [Host.payload (helloMessage env m)] := rfl
  rw [hdata]
  unfold Host.runningStates
  rw [List.filterMap_cons_none (by rw [parse_hello env m]), List.filterMap_nil]

/-- Frames that are read as `infos`. -/
theorem runningStates_of_reads {messages : List (List UInt8)} {infos : List RunningInfo}
    (h : messages.map (fun m => parse (payload m)) = infos.map fun i => some ("RUNNING_STATE", .runningState i)) :
    Host.runningStates (messages.map payload) = infos := by
  induction messages generalizing infos with
  | nil =>
    rw [List.map_nil, eq_comm, List.map_eq_nil_iff] at h
    rw [h]
    rfl
  | cons m ms ih =>
    cases infos with
    | nil => cases h
    | cons i is =>
      simp only [List.map_cons, List.cons.injEq] at h
      have hrest := ih h.2
      unfold Host.runningStates at hrest ⊢
      rw [List.map_cons, List.filterMap_cons_some (by rw [h.1]), hrest]

/-- **The rows of a report** are the slaves that the master counts, in order. -/
theorem cmdSlaves_sent (hthrottle : ¬env.millis - n.runningStateSendTime < 500) :
    Host.cmdSlaves (sysexData ((sendRunningState env n).2.map .inl)) =
      some (decide (env.syncState = .synced), (connectedReceivers n.receiverTable).map (receiverRow env)) := by
  obtain ⟨messages, hout, hparse⟩ := sendRunningState_parses env n hthrottle
  have hdata : sysexData ((sendRunningState env n).2.map .inl) = messages.map Host.payload := by
    rw [hout]
    unfold sysexData
    rw [List.map_map, List.filterMap_map]
    show messages.filterMap (some ∘ Host.payload) = _
    rw [List.filterMap_eq_map]
  have hsome := reportReadings_ne_nil env (connectedReceivers n.receiverTable)
  unfold Host.cmdSlaves
  rw [hdata, runningStates_of_reads hparse, List.getLast?_eq_some_getLast hsome, Option.map_some,
    reportReadings_receivers, reportReadings_synced env _ _ (List.getLast_mem hsome)]

/-- A node answers the query with a greeting, if it owes one or is no sender, and a report, if it is a sender. -/
theorem queryRunningState_out : ∃ hello, (hello = [] ∨ ∃ m, hello = sendHello env m) ∧
    (queryRunningState env n).2 =
      hello ++ if n.senderModeEnabled then (sendRunningState env { n with hostResumed := false }).2 else [] := by
  unfold queryRunningState
  dsimp only
  cases n.senderModeEnabled with
  | true =>
    refine ⟨_, ?_, rfl⟩
    split
    · exact Or.inr ⟨_, rfl⟩
    · exact Or.inl rfl
  | false =>
    simp only [Bool.false_eq_true, if_false, List.append_nil]
    refine ⟨_, Or.inr ?_, rfl⟩
    split
    · exact ⟨_, rfl⟩
    · next hsent => exact ⟨_, if_pos (by simpa using hsent)⟩

/-- **What the answer to the query shows.** A second query within half a second shows nothing, as if the node were no
sender. -/
theorem cmdSlaves_query : Host.cmdSlaves (sysexData ((queryRunningState env n).2.map .inl)) =
    if n.Reports env.millis then
      some (decide (env.syncState = .synced), (connectedReceivers n.receiverTable).map (receiverRow env))
    else none := by
  obtain ⟨hello, hhello, hout⟩ := queryRunningState_out env n
  have hnone : Host.runningStates (sysexData (hello.map .inl)) = [] := by
    rcases hhello with rfl | ⟨m, rfl⟩
    · rfl
    · exact runningStates_hello env m
  have hreport : Host.cmdSlaves (sysexData ((queryRunningState env n).2.map .inl)) = Host.cmdSlaves (sysexData
      ((if n.senderModeEnabled then (sendRunningState env { n with hostResumed := false }).2 else []).map .inl)) := by
    unfold Host.cmdSlaves
    rw [hout, List.map_append, runningStates_append, hnone, List.nil_append]
  rw [hreport]
  by_cases hmode : n.senderModeEnabled = true
  · by_cases hthrottle : env.millis - n.runningStateSendTime < 500
    · have hsilent : (sendRunningState env { n with hostResumed := false }).2 = [] := by
        unfold sendRunningState
        rw [if_pos hthrottle]
      rw [if_pos hmode, hsilent, if_neg fun h => h.2 hthrottle]
      rfl
    · rw [if_pos hmode, if_pos ⟨hmode, hthrottle⟩]
      exact cmdSlaves_sent env { n with hostResumed := false } hthrottle
  · rw [if_neg hmode, if_neg fun h => hmode h.1]
    rfl

end Sent

/-! ## The throttle -/

/-- A chunk of a report among the outputs. -/
def reported (out : List Out) : Bool := out.any fun
  | .host (.runningState _) => true
  | _ => false

section Throttle

variable (lib : UpdateLib) (build : Build) (env : Env) (n : Node) (data : List UInt8) (length : ℕ)

theorem not_reported {out : List Out} (h : ∀ m, .host (.runningState m) ∉ out) : reported out = false := by
  refine List.any_eq_false.2 fun o ho => ?_
  split
  · next m => exact absurd ho (h m)
  · exact Bool.false_ne_true

theorem sendRunningState_sendTime : (sendRunningState env n).1.runningStateSendTime =
    if reported (sendRunningState env n).2 then env.millis else n.runningStateSendTime := by
  unfold sendRunningState
  split
  · rfl
  · have hout : reported (if connectedReceivers n.receiverTable = [] then
          [.host (.runningState (runningStateMessage env 0 0 1 []))]
        else (connectedReceivers n.receiverTable).mapIdx fun i e =>
          .host (.runningState (runningStateMessage env (connectedReceivers n.receiverTable).length i
            (connectedReceivers n.receiverTable).length [e]))) = true := by
      split
      · rfl
      · next hsome =>
        obtain ⟨e, es, hcons⟩ := List.exists_cons_of_ne_nil hsome
        rw [hcons, List.mapIdx_cons]
        rfl
    dsimp only
    rw [hout, if_pos rfl]

theorem queryRunningState_sendTime : (queryRunningState env n).1.runningStateSendTime =
    if reported (queryRunningState env n).2 then env.millis else n.runningStateSendTime := by
  obtain ⟨hello, hhello, hout⟩ := queryRunningState_out env n
  have hgreeting : reported hello = false := by
    rcases hhello with rfl | ⟨m, rfl⟩ <;> rfl
  have hsplit : ∀ out, reported (hello ++ out) = reported out := fun out => by
    unfold reported at hgreeting ⊢
    rw [List.any_append, hgreeting, Bool.false_or]
  rw [hout, hsplit]
  unfold queryRunningState
  dsimp only
  split
  · exact sendRunningState_sendTime env { n with hostResumed := false }
  · split <;> rfl

/-- No other command touches the time. -/
theorem execute_sendTime_other {c : Command} (hc : c ≠ .queryRunningState) :
    (execute lib env n c data length).1.runningStateSendTime = n.runningStateSendTime := by
  cases c with
  | queryRunningState => exact absurd rfl hc
  | enterBootloader | otaBegin | otaData | otaDataAcked | otaEnd => rfl
  | queryConfig =>
    simp only [execute, queryConfig, activateSender]
    split <;> rfl
  | setRole =>
    simp only [execute, setRole, applyRole]
    split_ifs <;> rfl
  | pushFullConfig | setLocalLayer | setLog | setLr | setLossPolicy | setOrigin | mediaSync =>
    simp only [execute, pushFullConfig, activateSender, setLocalLayer, setLog, setLr, setLossPolicy, setOrigin, mediaSync]
    split_ifs <;> rfl
  | changeReceiverLayer =>
    simp only [execute, changeReceiverLayer]
    split
    · split <;> rfl
    · split <;> rfl

/-- A command notes the time when it reports. -/
theorem execute_sendTime (c : Command) : (execute lib env n c data length).1.runningStateSendTime =
    if reported (execute lib env n c data length).2 then env.millis else n.runningStateSendTime := by
  by_cases hc : c = .queryRunningState
  · rw [hc]
    exact queryRunningState_sendTime env n
  · rw [execute_sendTime_other lib env n data length hc, not_reported, if_neg Bool.false_ne_true]
    intro m hm
    cases execute_out lib env n data length c _ hm
    exact hc rfl

/-- **An event sets the time exactly when it brings a report.** -/
theorem handle_sendTime (e : Event) : (n.handle lib e).1.runningStateSendTime =
    if reported (n.handle lib e).2 then e.env.millis else n.runningStateSendTime := by
  have hnoted : (n.noted e).runningStateSendTime = n.runningStateSendTime := by cases e <;> rfl
  cases hcmd : n.commandOf e with
  | some k =>
    obtain ⟨c, data, length⟩ := k
    rw [handle_of_command lib n hcmd, execute_sendTime, hnoted]
  | none =>
    have hout : reported (n.handle lib e).2 = false := by
      refine not_reported fun m hm => ?_
      cases hmessage : n.messageOf e with
      | none => cases handle_of_no_message lib n hmessage _ hm
      | some message =>
        -- a message without a command is rejected
        have hnone : sysexCommand message (UInt8.ofNat message.length).toNat = none := by
          simpa [commandOf_eq, hmessage] using hcmd
        rw [handle_of_message lib n hmessage, handleSysExMessage_of_none lib e.env (n.noted e) hnone] at hm
        obtain ⟨_, _, _, hreport⟩ := sysexRejection_out _ _ _ hm
        cases hreport
    rw [hout, if_neg Bool.false_ne_true]
    cases e with
    | task env =>
      have hstill : (espnowTask env n).1.still.runningStateSendTime = n.still.runningStateSendTime := by
        rw [espnowTask_still]
      exact hstill
    | usb env packet =>
      obtain ⟨_, _, _, _, -, hnode⟩ := handle_of_none lib n hcmd (by simp)
      rw [hnode]
      rfl
    | radio env src data =>
      obtain ⟨_, _, _, _, -, hnode⟩ := handle_of_none lib n hcmd (by simp)
      rw [hnode]
      rfl

/-- The instants of the reports that a device has put out since it last booted, `reports` before the run. -/
def reportsSinceBoot (d : Device) (reports : List UInt32) : List DeviceEvent → List UInt32
  | [] => reports
  | e :: es =>
    let r := d.step lib build e
    let sent := match e with
      | .node e => if reported (r.2.filterMap Sum.getLeft?) then [e.env.millis] else []
      | _ => []
    reportsSinceBoot r.1 (if d.boots lib build e then [] else reports ++ sent) es

theorem boot_sendTime (nvs : Nvs) (boardId : UInt8) (mac : Mac) :
    (boot build nvs boardId mac).runningStateSendTime = 0 := by
  unfold boot applyRole
  dsimp only
  split_ifs <;> rfl

/-- An event at the node, unless the task waits for the reboot. -/
theorem nodeStep_sendTime {d : Device} {reports : List UInt32}
    (h : d.node.runningStateSendTime = reports.getLastD 0) (e : Event) :
    (d.nodeStep lib build e).1.node.runningStateSendTime =
      (if reboots (d.node.step lib build e).2 then [] else reports ++
        if reported ((d.nodeStep lib build e).2.filterMap Sum.getLeft?) then [e.env.millis] else []).getLastD 0 := by
  have hout : (d.nodeStep lib build e).2.filterMap Sum.getLeft? = (d.node.handle lib e).2 := by
    show ((d.node.step lib build e).2.map .inl).filterMap Sum.getLeft? = _
    rw [List.filterMap_map, step_outputs]
    exact List.filterMap_some
  rw [hout]
  unfold Device.nodeStep
  dsimp only
  cases hre : reboots (d.node.handle lib e).2 with
  | true =>
    rw [step_of_reboots build hre, if_pos hre, if_pos hre]
    exact boot_sendTime build _ _ _
  | false =>
    have hstays : ¬reboots (d.node.handle lib e).2 = true := by simp [hre]
    rw [step_of_not_reboots build hre, if_neg hstays, if_neg hstays]
    dsimp only
    rw [handle_sendTime, h]
    split
    · exact List.getLastD_concat.symm
    · rw [List.append_nil]

/-- **The static is the time of the last report since boot**, 0 before the first. -/
theorem sendTime_run {d : Device} {reports : List UInt32} (h : d.node.runningStateSendTime = reports.getLastD 0)
    (es : List DeviceEvent) : (Mealy.run (Device.step lib build) d es).1.node.runningStateSendTime =
      (reportsSinceBoot lib build d reports es).getLastD 0 := by
  induction es generalizing d reports with
  | nil => exact h
  | cons e es ih =>
    rw [Mealy.run_cons]
    refine ih ?_
    cases e with
    | node e =>
      cases e with
      | task env =>
        cases hreset : d.resetting with
        | true => simpa [Device.step, Device.boots, hreset, reported] using h
        | false =>
          have hone := nodeStep_sendTime lib build h (.task env)
          simpa [Device.step, Device.boots, hreset] using hone
      | _ => exact nodeStep_sendTime lib build h _
    | ui env b =>
      show (d.step lib build (.ui env b)).1.node.runningStateSendTime = (reports ++ []).getLastD 0
      rw [List.append_nil, ← h]
      unfold Device.step
      dsimp only
      split_ifs <;> rfl
    | waited =>
      show (if d.resetting then d.reboot build else d).node.runningStateSendTime =
        (if d.resetting then [] else reports ++ []).getLastD 0
      split
      · exact boot_sendTime build _ _ _
      · rw [List.append_nil]
        exact h
    | powerCut => exact boot_sendTime build _ _ _

end Throttle

/-! ## Over a run of a fleet -/

/-- A row shows a report and when it was heard. -/
structure RowShows (now : ℕ) (x : Said × ℕ) (row : ReceiverReading) : Prop where
  mac : row.mac = joinHex ':' x.1.mac.bytes
  lastSeen : row.lastSeenMs = (now - x.2) % 2 ^ 32
  index : row.index = x.1.sender.node.node.core.currentIndex.toNat
  /-- `lock=LOCKED`. -/
  locked : row.syncQuality = nowdeSyncLocked.toNat → x.1.sender.InSync

namespace Fleet

variable {ι : Type*} {lib : UpdateLib} {build : Build} {s : Fleet ι}

/-- The milliseconds that the master counts. -/
def millis (s : Fleet ι) : ℕ := s.now - s.booted

/-- What the tool shows of the master's answer to a packet. -/
def slavesShown (lib : UpdateLib) (build : Build) (s : Fleet ι) (env : Env) (packet : MidiEventPacket) :
    Option (Bool × List ReceiverReading) :=
  Host.cmdSlaves (sysexData (s.master.step lib build ((DeviceEvent.node (.usb env packet)).at s.millis)).2)

/-- **An honest list**: a row for each slave that the master counts, in order, none twice, and each row shows a report
that the slave sent and the master heard. -/
structure Honest (s : Fleet ι) (rows : List ReceiverReading) : Prop where
  macs : rows.map (·.macBytes) =
    (reportedSlots s.master.node.receiverTable).map fun i => (s.master.node.receiverTable i).mac.bytes
  once : (rows.map (·.macBytes)).Nodup
  each : ∀ row ∈ rows, ∃ x ∈ s.heard, x.1 ∈ s.said ∧ RowShows s.now x row

/-- The row of an entry shows the report that backs it. -/
theorem Sound.shows (h : s.Sound) (env : Env) {i : Fin maxReceivers}
    (hactive : (s.master.node.receiverTable i).active = true) :
    ∃ x ∈ s.heard, x.1 ∈ s.said ∧
      RowShows s.now x (receiverRow (env.at s.millis) (s.master.node.receiverTable i)) := by
  obtain ⟨x, hx, hbacks⟩ := h.table.backed i hactive
  obtain ⟨hsaid, hpast⟩ := h.heard x hx
  have htrue := h.said x.1 hsaid
  have hsince := hbacks.since
  refine ⟨x, hx, hsaid, ?_, ?_, ?_, fun hlocked => htrue.locked ?_⟩
  · exact congrArg (fun m : Mac => joinHex ':' m.bytes) hbacks.mac
  · -- both times are since the boot, so the age is that of the report
    show (UInt32.ofNat (s.now - s.booted) - (s.master.node.receiverTable i).lastSeen).toNat = _
    rw [hbacks.lastSeen, WrapClock.toNat_ofNat_sub_ofNat_of_le (by omega)]
    congr 1
    omega
  · exact congrArg UInt8.toNat (hbacks.mediaIndex.trans htrue.mediaIndex)
  · rw [← hbacks.syncQuality]
    exact UInt8.toNat_inj.1 hlocked

theorem active_of_reported {t : Fin maxReceivers → ReceiverEntry} {i : Fin maxReceivers} (hi : i ∈ reportedSlots t) :
    (t i).active = true := by
  have hshown := (List.mem_filter.1 hi).2
  rw [Bool.and_eq_true] at hshown
  exact hshown.1

/-- The rows of the whole table are honest. -/
theorem Sound.honest (h : s.Sound) (env : Env) :
    s.Honest ((connectedReceivers s.master.node.receiverTable).map (receiverRow (env.at s.millis))) := by
  have hmacs : ((connectedReceivers s.master.node.receiverTable).map (receiverRow (env.at s.millis))).map (·.macBytes) =
      (reportedSlots s.master.node.receiverTable).map fun i => (s.master.node.receiverTable i).mac.bytes := by
    rw [connectedReceivers_eq, List.map_map, List.map_map]
    rfl
  refine ⟨hmacs, ?_, fun row hrow => ?_⟩
  · rw [hmacs]
    refine List.Nodup.map_on (fun i hi j hj hbytes => ?_) ((List.nodup_finRange _).filter _)
    exact h.table.apart i j (active_of_reported hi) (active_of_reported hj) (Mac.eq_of_bytes hbytes)
  · rw [connectedReceivers_eq, List.map_map] at hrow
    obtain ⟨i, hi, rfl⟩ := List.mem_map.1 hrow
    exact h.shows env (active_of_reported hi)

/-- **The answer to the query.** -/
theorem slavesShown_query (env : Env) {packet : MidiEventPacket} {data : List UInt8} {length : ℕ}
    (hquery : s.master.node.commandOf (.usb (env.at s.millis) packet) = some (.queryRunningState, data, length)) :
    s.slavesShown lib build env packet = if s.master.node.Reports (UInt32.ofNat s.millis) then
      some (decide (env.syncState = .synced),
        (connectedReceivers s.master.node.receiverTable).map (receiverRow (env.at s.millis))) else none := by
  have hout : (s.master.step lib build (.node (.usb (env.at s.millis) packet))).2 =
      (queryRunningState (env.at s.millis) (s.master.node.noteHost (env.at s.millis) packet)).2.map .inl := by
    have hhandle := handle_of_command lib s.master.node hquery
    show (s.master.node.step lib build (.usb (env.at s.millis) packet)).2.map _ = _
    rw [step_outputs, hhandle]
    rfl
  unfold slavesShown
  show Host.cmdSlaves (sysexData (s.master.step lib build (.node (.usb (env.at s.millis) packet))).2) = _
  rw [hout]
  exact cmdSlaves_query (env.at s.millis) (s.master.node.noteHost (env.at s.millis) packet)

variable (lib build) in
/-- What reaches the master of an event in the fleet. -/
def masterEvents (s : Fleet ι) : FleetEvent ι → List DeviceEvent
  | .pass .. | .slave .. => []
  | .hear k env =>
    match s.said[k]? with
    | some r => [DeviceEvent.at s.millis (.node (.radio env r.mac r.frame))]
    | none => []
  | .radio env src data _ => [DeviceEvent.at s.millis (.node (.radio env src data))]
  | .usb env packet => [DeviceEvent.at s.millis (.node (.usb env packet))]
  | .round env b =>
    let task := DeviceEvent.node (.task (env.at (s.now - s.booted)))
    if s.master.boots lib build task then [task] else [task, DeviceEvent.at s.millis (.ui env b)]
  | .waited => [.waited]
  | .powerCut => [.powerCut]

variable [DecidableEq ι]

/-- The master does in a step of the fleet what reaches it. -/
theorem master_step (s : Fleet ι) (e : FleetEvent ι) :
    (Mealy.run (Device.step lib build) s.master (s.masterEvents lib build e)).1 = (s.step lib build e).1.master := by
  cases e with
  | pass | slave | radio | usb | waited | powerCut => rfl
  | hear k env =>
    unfold masterEvents Fleet.step
    dsimp only
    cases s.said[k]? <;> rfl
  | round env b =>
    unfold masterEvents Fleet.step Fleet.round
    dsimp only
    by_cases hboots : s.master.boots lib build (.node (.task (env.at (s.now - s.booted)))) = true
    · rw [if_pos hboots, if_pos hboots]
      rfl
    · rw [if_neg hboots, if_neg hboots]
      -- the end of the round comes at the same instant
      have hbooted : (s.atMaster lib build (.node (.task env))).1.booted = s.booted := if_neg hboots
      unfold Fleet.atMaster at hbooted ⊢
      dsimp only at hbooted ⊢
      rw [hbooted]
      rfl

/-- A run of the fleet is a run of its master. -/
theorem master_run (s : Fleet ι) (es : List (FleetEvent ι)) :
    (Mealy.run (Device.step lib build) s.master (Mealy.shadow (Fleet.step lib build) (masterEvents lib build) s es)).1 =
      (Mealy.run (Fleet.step lib build) s es).1.master :=
  (Mealy.run_shadow Fleet.master (masterEvents lib build) (fun _ _ => True) trivial (fun _ _ _ _ _ _ => trivial)
    (fun t e => ⟨master_step t e, trivial⟩) s es).1

/-- **The throttle of the master.** After any run of a fleet the master reports exactly if it is a sender and its last
report since boot, or the boot itself before the first, is half a second old. -/
theorem reports_iff_lastReport {ui : Ui} {master : Nvs × UInt8 × Mac} {slave : ι → Nvs × UInt8 × Mac}
    {es : List (FleetEvent ι)}
    (hrun : (Mealy.run (Fleet.step lib build) (start build ui master slave) es).1 = s) (now : UInt32) :
    s.master.node.Reports now ↔ s.master.node.senderModeEnabled = true ∧
      ¬now - (reportsSinceBoot lib build (start build ui master slave).master []
        (Mealy.shadow (Fleet.step lib build) (masterEvents lib build) (start build ui master slave) es)).getLastD 0 <
          500 := by
  have hboot : (start build ui master slave).master.node.runningStateSendTime = ([] : List UInt32).getLastD 0 :=
    boot_sendTime build _ _ _
  have htime := sendTime_run lib build hboot
    (Mealy.shadow (Fleet.step lib build) (masterEvents lib build) (start build ui master slave) es)
  rw [master_run, hrun] at htime
  unfold Node.Reports
  rw [htime]

/-- A slave plays and reports a second after boot, the master hears it, and half of a query has come in. -/
def askedFleet : Fleet Unit :=
  (Mealy.run (Fleet.step noUpdate wildcardBuild)
    (start wildcardBuild {} ({ role := some nowdeRoleMaster }, nowdeBoardidAtoms3Lite, masterA)
      fun _ => ({}, nowdeBoardidAtoms3Lite, slaveMac))
    [.slave () (.radio { millis := 0 } masterA [espnowMsgSenderBeacon]),
      .slave () (.radio { millis := 0 } masterA (clip 5 1 1).toFrame),
      .slave () (.radio { millis := 0 } masterA (meshClockPacket 1000)), .pass 1000 fun _ => 1000000,
      .slave () (.task { millis := 0 } 0), .hear 0 { millis := 0 },
      .usb { millis := 0 } ⟨4, sysexStart, sysexManufacturerId, sysexCmdQueryRunningState⟩]).1

theorem askedFleet_query : askedFleet.master.node.commandOf
    (.usb (({ millis := 0 } : Env).at askedFleet.millis) ⟨5, sysexEnd, 0, 0⟩) =
      some (.queryRunningState, [sysexStart, sysexManufacturerId, sysexCmdQueryRunningState, sysexEnd], 4) := by
  decide +kernel

end Fleet

end Nowde
