import Nowde.Proof.ReceivePath
import Nowde.Spec.Task

/-!
# What the SysEx commands leave alone

Only packets and the link-lost check move the followed state and send CC#100: a SysEx frame
touches two switches of it (`stopOnLinkLost`, `haveSeq`) and answers the host in SysEx. It leaves
the relay and the senders heard alone, and only an update's command touches the update.

* `execute_plain`, `execute_spec`, `execute_aside`: what a command does to the rest of the node.
* `handleSysExMessage_of_command`, `handleSysExMessage_of_none`: which command a frame runs.
* `handleSysExMessage_spec`, `midiPacket_spec`: for the dispatcher and a USB packet.
* `onDataRecv_spec`: for a radio frame that carries no packet.
* `espnowTask_spec`: a task iteration moves it as its receiver part does.
-/

namespace Nowde

/-- The followed state without its two switches. -/
def MediaSyncState.core (ms : MediaSyncState) : MediaSyncState :=
  { ms with stopOnLinkLost := true, haveSeq := false }

/-- The value a CC#100 message carries on the wire. -/
def Out.cc100? : Out → Option UInt8
  | .host (.cc number value) => if number = 100 then some (value &&& 0x7F) else none
  | _ => none

/-- A node's followed state, without the switches. -/
def Node.core (n : Node) : MediaSyncState := n.receiver.mediaSyncState.core

/-- The value of the last CC#100 among some outputs. -/
def lastCc100 (out : List Out) : Option UInt8 := (out.filterMap Out.cc100?).getLast?

/-- Outputs without a CC#100. -/
def Quiet (out : List Out) : Prop := ∀ o ∈ out, o.cc100? = none

section Quiet

variable {out out' : List Out} {o : Out}

@[simp] theorem quiet_nil : Quiet [] := fun _ h => absurd h (by simp)

@[simp] theorem quiet_cons : Quiet (o :: out) ↔ o.cc100? = none ∧ Quiet out := by simp [Quiet]

@[simp] theorem quiet_append : Quiet (out ++ out') ↔ Quiet out ∧ Quiet out' := by
  simp only [Quiet, List.mem_append, or_imp, forall_and]

theorem lastCc100_append : lastCc100 (out ++ out') = (lastCc100 out').or (lastCc100 out) := by
  simp [lastCc100, List.filterMap_append, List.getLast?_append]

theorem Quiet.lastCc100 (h : Quiet out) : lastCc100 out = none := by
  have : out.filterMap Out.cc100? = [] := List.filterMap_eq_nil_iff.2 h
  simp [Nowde.lastCc100, this]

theorem quiet_collect {n : ℕ} {α : Type*} {t : Fin n → α} {c : α → Prop} [DecidablePred c] {f : α → Out}
    (h : ∀ a, (f a).cc100? = none) : Quiet (Slots.collect t fun a => if c a then some (f a) else none) := by
  intro o ho
  obtain ⟨i, -, rfl⟩ := Slots.mem_collect_ite.1 ho
  exact h _

end Quiet

/-! ## Forwards -/

/-- A `0x05` frame. -/
def Out.isForward : Out → Bool
  | .espNowSend _ frame => byteAt frame 0 = espnowMsgMeshRelay
  | _ => false

/-- Outputs without a `0x05` frame. -/
def NoForward (out : List Out) : Prop := ∀ o ∈ out, o.isForward = false

section NoForward

variable {out out' : List Out} {o : Out}

@[simp] theorem noForward_nil : NoForward [] := fun _ h => absurd h (by simp)

@[simp] theorem noForward_cons : NoForward (o :: out) ↔ o.isForward = false ∧ NoForward out := by simp [NoForward]

@[simp] theorem noForward_append : NoForward (out ++ out') ↔ NoForward out ∧ NoForward out' := by
  simp only [NoForward, List.mem_append, or_imp, forall_and]

theorem noForward_host (msgs : List HostMsg) : NoForward (msgs.map .host) := by
  intro o ho
  obtain ⟨m, -, rfl⟩ := List.mem_map.1 ho
  rfl

/-- Delayed packets are media packets. -/
def DelaysMedia (t : Fin maxDelayedPackets → DelayedMediaSyncPacket) : Prop :=
  ∀ i, (t i).active = true → byteAt (t i).packet 0 = espnowMsgMediaSync

theorem DelaysMedia.delayPacket {t : Fin maxDelayedPackets → DelayedMediaSyncPacket} (h : DelaysMedia t) (env : Env)
    (maxDelayMs : UInt32) {packet : List UInt8} (hp : byteAt packet 0 = espnowMsgMediaSync) :
    DelaysMedia (delayPacket env maxDelayMs t packet) := by
  unfold Nowde.delayPacket
  cases Slots.find t fun d => !d.active with
  | none => exact h
  | some j =>
    intro i hi
    by_cases hij : i = j
    · subst hij
      simpa using hp
    · simp only [Function.update_of_ne hij] at hi ⊢
      exact h i hi

end NoForward

/-! ## Answers -/

/-- An output that is neither a CC#100 nor a `0x05` frame nor a trap. -/
def Out.IsAnswer (o : Out) : Prop := o.cc100? = none ∧ o.isForward = false ∧ o ≠ .divideByZero

/-- Outputs that only answer. -/
def Answers (out : List Out) : Prop := ∀ o ∈ out, o.IsAnswer

section Answers

variable {out out' : List Out} {o : Out}

@[simp] theorem answers_nil : Answers [] := fun _ h => absurd h (by simp)

@[simp] theorem answers_cons : Answers (o :: out) ↔ o.IsAnswer ∧ Answers out := by simp [Answers]

@[simp] theorem answers_append : Answers (out ++ out') ↔ Answers out ∧ Answers out' := by
  simp only [Answers, List.mem_append, or_imp, forall_and]

theorem Answers.quiet (h : Answers out) : Quiet out := fun o ho => (h o ho).1

theorem Answers.noForward (h : Answers out) : NoForward out := fun o ho => (h o ho).2.1

theorem Answers.divideByZero_not_mem (h : Answers out) : Out.divideByZero ∉ out := fun hz => (h _ hz).2.2 rfl

theorem answers_collect {n : ℕ} {α : Type*} {t : Fin n → α} {c : α → Prop} [DecidablePred c] {f : α → Out}
    (h : ∀ a, (f a).IsAnswer) : Answers (Slots.collect t fun a => if c a then some (f a) else none) := by
  intro o ho
  obtain ⟨i, -, rfl⟩ := Slots.mem_collect_ite.1 ho
  exact h _

variable (env : Env) (n : Node)

@[simp] theorem sendHello_answers : Answers (sendHello env n) := by simp [sendHello, Out.IsAnswer, Out.cc100?, Out.isForward]

@[simp] theorem sendConfigState_answers : Answers (sendConfigState n) := by
  simp [sendConfigState, Out.IsAnswer, Out.cc100?, Out.isForward]

@[simp] theorem sendErrorReport_answers (a : UInt8) (b : List UInt8) (l : UInt8) :
    Answers (sendErrorReport a b l) := by simp [sendErrorReport, Out.IsAnswer, Out.cc100?, Out.isForward]

@[simp] theorem sendConfigInvalid_answers : Answers sendConfigInvalid := sendErrorReport_answers _ _ _

@[simp] theorem sendOtaAck_answers (a b : UInt8) : Answers (sendOtaAck a b) := by
  simp [sendOtaAck, Out.IsAnswer, Out.cc100?, Out.isForward]

/-- A ReceiverInfo goes to a sender in the table. -/
theorem mem_sendReceiverInfo {o : Out} (h : o ∈ sendReceiverInfo env n) :
    ∃ i, (n.senderTable i).active = true ∧ o = .espNowSend (n.senderTable i).mac (receiverInfoFrame env n) := by
  unfold sendReceiverInfo at h
  split at h
  · cases h
  · exact Slots.mem_collect_ite.1 h

@[simp] theorem sendReceiverInfo_answers : Answers (sendReceiverInfo env n) := by
  intro o ho
  obtain ⟨i, -, rfl⟩ := mem_sendReceiverInfo env n ho
  exact ⟨rfl, rfl, by simp⟩

end Answers

/-! ## The commands -/

/-- What only the commands of an update touch, and what no command touches. -/
def Node.kept (n : Node) : MediaSyncState × Relay × (Fin maxSenders → SenderEntry) × Ota :=
  (n.core, n.relay, n.senderTable, n.ota)

/-- What only the packets and the task loop touch: the parser and the self-heal. -/
def Node.aside (n : Node) : SysexParser × MeshResync × Option UInt8 := (n.parser, n.meshResync, n.nvs.resyncrb)

/-- What of a node no command but `MEDIA_SYNC` touches: that, the packets delayed and the beacon. -/
def Node.apart (n : Node) :
    (SysexParser × MeshResync × Option UInt8) × (Fin maxDelayedPackets → DelayedMediaSyncPacket) × UInt32 :=
  (n.aside, n.delayedPackets, n.nextReceiverBeacon)

/-- What a command outside an update does: it may drop all receivers at once, and it answers. -/
structure PlainSpec (n : Node) (r : Node × List Out) : Prop where
  kept : r.1.kept = n.kept
  receivers : r.1.receiverTable = n.receiverTable ∨ ∀ i, (r.1.receiverTable i).active = false
  delays : DelaysMedia n.delayedPackets → DelaysMedia r.1.delayedPackets
  answers : Answers r.2

/-- What every command does: an update's touches the update as well, and may trap. -/
structure CommandSpec (n : Node) (r : Node × List Out) : Prop where
  core : r.1.core = n.core
  relay : r.1.relay = n.relay
  senderTable : r.1.senderTable = n.senderTable
  receivers : r.1.receiverTable = n.receiverTable ∨ ∀ i, (r.1.receiverTable i).active = false
  delays : DelaysMedia n.delayedPackets → DelaysMedia r.1.delayedPackets
  quiet : Quiet r.2
  noForward : NoForward r.2

section Specs

variable {n m : Node} {r : Node × List Out} {out : List Out}

theorem PlainSpec.of_eq (hk : m.kept = n.kept) (hr : m.receiverTable = n.receiverTable)
    (hd : m.delayedPackets = n.delayedPackets) (ho : Answers out) : PlainSpec n (m, out) where
  kept := hk
  receivers := Or.inl hr
  delays h := hd ▸ h
  answers := ho

theorem PlainSpec.ota (h : PlainSpec n r) : r.1.ota = n.ota := congrArg (·.2.2.2) h.kept

theorem PlainSpec.command (h : PlainSpec n r) : CommandSpec n r where
  core := congrArg (·.1) h.kept
  relay := congrArg (·.2.1) h.kept
  senderTable := congrArg (·.2.2.1) h.kept
  receivers := h.receivers
  delays := h.delays
  quiet := h.answers.quiet
  noForward := h.answers.noForward

theorem CommandSpec.of_answers (h : Answers out) : CommandSpec n (n, out) :=
  (PlainSpec.of_eq rfl rfl rfl h).command

end Specs

section Commands

variable (lib : UpdateLib) (env : Env) (n : Node) (data : List UInt8) (length : ℕ)

@[simp] theorem activateSender_kept : (activateSender n).kept = n.kept := by
  unfold activateSender
  split <;> rfl

@[simp] theorem activateSender_receiverTable : (activateSender n).receiverTable = n.receiverTable := by
  unfold activateSender
  split <;> rfl

@[simp] theorem activateSender_delayedPackets : (activateSender n).delayedPackets = n.delayedPackets := by
  unfold activateSender
  split <;> rfl

theorem sendRunningState_spec : PlainSpec n (sendRunningState env n) := by
  unfold sendRunningState
  split
  · exact .of_eq rfl rfl rfl answers_nil
  · refine .of_eq rfl rfl rfl ?_
    split
    · simp [Out.IsAnswer, Out.cc100?, Out.isForward]
    · intro o ho
      obtain ⟨i, hi, rfl⟩ := List.mem_mapIdx.1 ho
      exact ⟨rfl, rfl, by simp⟩

/-- A node that becomes a slave drops its receivers. -/
theorem applyRole_spec (role : UInt8) : PlainSpec n (applyRole n role) := by
  unfold applyRole
  dsimp only
  split
  · exact .of_eq rfl rfl rfl answers_nil
  · split
    · split
      · refine ⟨rfl, Or.inr fun _ => rfl, fun h => h, ?_⟩
        dsimp only
        exact answers_collect fun a => ⟨rfl, rfl, by simp⟩
      · exact .of_eq rfl rfl rfl answers_nil
    · exact .of_eq rfl rfl rfl answers_nil

/-- A node boots with nothing followed. -/
theorem boot_core (build : Build) (nvs : Nvs) (boardId : UInt8) (mac : Mac) :
    (boot build nvs boardId mac).core = { stopOnLinkLost := true, lastSentIndex := 255 } := by
  unfold boot
  exact (applyRole_spec _ _).command.core

/-- The one command that delays a packet: a minted one. -/
theorem mediaSync_spec : PlainSpec n (mediaSync env n data length) := by
  unfold mediaSync
  dsimp only
  split_ifs
  · exact ⟨rfl, Or.inl rfl, fun h => h.delayPacket env _ rfl, answers_nil⟩
  · exact .of_eq rfl rfl rfl (answers_cons.2 ⟨⟨rfl, rfl, by simp⟩, answers_nil⟩)
  · exact .of_eq rfl rfl rfl answers_nil

theorem changeReceiverLayer_spec : PlainSpec n (changeReceiverLayer env n data length) := by
  unfold changeReceiverLayer
  split
  · dsimp only
    split
    · refine .of_eq rfl rfl rfl (answers_cons.2 ⟨⟨rfl, rfl, by simp⟩, ?_⟩)
      split_ifs <;> simp
    · exact .of_eq rfl rfl rfl (by simp)
  · split
    · exact .of_eq rfl rfl rfl (by simp)
    · exact .of_eq rfl rfl rfl answers_nil

theorem setRole_spec : PlainSpec n (setRole env n data length) := by
  unfold setRole
  split
  · dsimp only
    split
    · exact .of_eq rfl rfl rfl (by simp)
    · obtain ⟨hk, hr, hd, ho⟩ := applyRole_spec
        { n with storedRole := byteAt data 3, nvs := { n.nvs with role := some (byteAt data 3) } }
        (resolveRole n.boardId (byteAt data 3))
      exact ⟨hk, hr, hd, by simp [ho]⟩
  · exact .of_eq rfl rfl rfl (by simp)

theorem setOrigin_spec : PlainSpec n (setOrigin env n data length) := by
  unfold setOrigin
  dsimp only
  split_ifs <;> exact .of_eq rfl rfl rfl (by simp)

theorem queryRunningState_spec : PlainSpec n (queryRunningState env n) := by
  unfold queryRunningState
  dsimp only
  -- a host that comes back is greeted before it is answered
  have hhello : Answers (if n.hostResumed = true then sendHello env n else []) := by
    split <;> simp
  split
  · obtain ⟨hk, hr, hd, ho⟩ := sendRunningState_spec env { n with hostResumed := false }
    exact ⟨hk, hr, hd, answers_append.2 ⟨hhello, ho⟩⟩
  · split
    · exact .of_eq rfl rfl rfl (by simp)
    · exact .of_eq rfl rfl rfl hhello

theorem queryConfig_spec : PlainSpec n (queryConfig env n) :=
  .of_eq (activateSender_kept n) (activateSender_receiverTable n) (activateSender_delayedPackets n) (by simp)

theorem pushFullConfig_spec : PlainSpec n (pushFullConfig n data length) := by
  unfold pushFullConfig
  split
  · exact .of_eq (activateSender_kept n) (activateSender_receiverTable n) (activateSender_delayedPackets n)
      (by simp)
  · exact .of_eq rfl rfl rfl (by simp)

theorem setLr_spec : PlainSpec n (setLr env n data length) := by
  unfold setLr
  split
  · exact .of_eq rfl rfl rfl (by simp [Out.IsAnswer, Out.cc100?, Out.isForward])
  · exact .of_eq rfl rfl rfl (by simp)

theorem setLossPolicy_spec : PlainSpec n (setLossPolicy n data length) := by
  unfold setLossPolicy
  split <;> exact .of_eq rfl rfl rfl (by simp)

theorem setLocalLayer_spec : PlainSpec n (setLocalLayer env n data length) := by
  unfold setLocalLayer
  split <;> exact .of_eq rfl rfl rfl (by simp)

theorem setLog_spec : PlainSpec n (setLog n data length) := by
  unfold setLog
  split <;> exact .of_eq rfl rfl rfl (by simp)

/-! ## The commands of an update -/

/-- The commands of an update. -/
def Command.isOta : Command → Bool
  | .otaBegin | .otaData | .otaDataAcked | .otaEnd => true
  | _ => false

/-- What an update command does to the update state. -/
def otaCommand (lib : UpdateLib) (env : Env) (o : Ota) (c : Command) (data : List UInt8) (length : ℕ) :
    Ota × List Out :=
  match c with
  | .otaBegin => otaBegin lib env o data length
  | .otaData => otaData lib o data length
  | .otaDataAcked => otaDataAcked lib o data length
  | .otaEnd => otaEnd lib o
  | _ => (o, [])

theorem otaCommand_spec (o : Ota) (c : Command) :
    Quiet (otaCommand lib env o c data length).2 ∧ NoForward (otaCommand lib env o c data length).2 := by
  have hinvalid : Quiet sendConfigInvalid ∧ NoForward sendConfigInvalid :=
    ⟨sendConfigInvalid_answers.quiet, sendConfigInvalid_answers.noForward⟩
  have hack : ∀ a b, Quiet (sendOtaAck a b) ∧ NoForward (sendOtaAck a b) := fun a b =>
    ⟨(sendOtaAck_answers a b).quiet, (sendOtaAck_answers a b).noForward⟩
  cases c with
  | otaBegin =>
    simp only [otaCommand, otaBegin]
    split_ifs <;> simp [hinvalid]
  | otaData =>
    simp only [otaCommand, otaData]
    split_ifs <;> simp [hinvalid, Out.cc100?, Out.isForward]
  | otaDataAcked =>
    simp only [otaCommand, otaDataAcked]
    split_ifs <;> simp [hack]
  | otaEnd =>
    simp only [otaCommand, otaEnd]
    split_ifs <;> simp [hinvalid, Out.cc100?, Out.isForward]
  | _ => exact ⟨quiet_nil, noForward_nil⟩

/-! ## Every command -/

variable {n data length} {c : Command}

theorem execute_of_isOta (h : c.isOta = true) :
    execute lib env n c data length = withOta n (otaCommand lib env n.ota c data length) := by
  cases c <;> first | rfl | cases h

theorem execute_plain (h : c.isOta = false) : PlainSpec n (execute lib env n c data length) := by
  cases c with
  | queryConfig => exact queryConfig_spec env n
  | pushFullConfig => exact pushFullConfig_spec n data length
  | queryRunningState => exact queryRunningState_spec env n
  | enterBootloader => exact .of_eq rfl rfl rfl answers_nil
  | otaBegin | otaData | otaDataAcked | otaEnd => cases h
  | setRole => exact setRole_spec env n data length
  | setLocalLayer => exact setLocalLayer_spec env n data length
  | setLog => exact setLog_spec n data length
  | setLr => exact setLr_spec env n data length
  | setLossPolicy => exact setLossPolicy_spec n data length
  | setOrigin => exact setOrigin_spec env n data length
  | mediaSync => exact mediaSync_spec env n data length
  | changeReceiverLayer => exact changeReceiverLayer_spec env n data length

/-- **Every command** keeps the followed state up to its switches, the relay and the senders heard,
and sends neither a CC#100 nor a `0x05` frame. -/
theorem execute_spec (c : Command) : CommandSpec n (execute lib env n c data length) := by
  cases h : c.isOta with
  | false => exact (execute_plain lib env h).command
  | true =>
    rw [execute_of_isOta lib env h]
    obtain ⟨hq, hf⟩ := otaCommand_spec lib env data length n.ota c
    exact ⟨rfl, rfl, rfl, Or.inl rfl, fun h => h, hq, hf⟩

variable (n data length)

theorem applyRole_apart (role : UInt8) : (applyRole n role).1.apart = n.apart := by
  unfold applyRole
  dsimp only
  split_ifs <;> rfl

theorem activateSender_apart : (activateSender n).apart = n.apart := by
  unfold activateSender
  split <;> rfl

/-- No command but `MEDIA_SYNC` touches the parser, the self-heal, the packets delayed or the beacon. -/
theorem execute_apart {c : Command} (hc : c ≠ .mediaSync) : (execute lib env n c data length).1.apart = n.apart := by
  cases c with
  | mediaSync => exact absurd rfl hc
  | enterBootloader | otaBegin | otaData | otaDataAcked | otaEnd => rfl
  | queryConfig => exact activateSender_apart n
  | pushFullConfig =>
    simp only [execute, pushFullConfig]
    split
    · exact activateSender_apart n
    · rfl
  | queryRunningState =>
    simp only [execute, queryRunningState, sendRunningState]
    split_ifs <;> rfl
  | setRole =>
    simp only [execute, setRole]
    split_ifs
    · rfl
    · exact applyRole_apart _ _
    · rfl
  | setLocalLayer =>
    simp only [execute, setLocalLayer]
    split <;> rfl
  | setLog =>
    simp only [execute, setLog]
    split <;> rfl
  | setLr =>
    simp only [execute, setLr]
    split <;> rfl
  | setLossPolicy =>
    simp only [execute, setLossPolicy]
    split <;> rfl
  | setOrigin =>
    simp only [execute, setOrigin]
    split_ifs <;> rfl
  | changeReceiverLayer =>
    simp only [execute, changeReceiverLayer]
    split
    · split <;> rfl
    · split <;> rfl

/-- **No command** touches the parser or the self-heal. -/
theorem execute_aside (c : Command) : (execute lib env n c data length).1.aside = n.aside := by
  by_cases hc : c = .mediaSync
  · subst hc
    simp only [execute, mediaSync]
    split_ifs <;> rfl
  · exact congrArg (·.1) (execute_apart lib env n data length hc)

theorem handleSysExMessage_spec (len : UInt8) : CommandSpec n (handleSysExMessage lib env n data len) := by
  unfold handleSysExMessage
  split
  · exact .of_answers answers_nil
  · split
    · exact .of_answers (sendErrorReport_answers _ _ _)
    · split
      · exact execute_spec lib env _
      · exact .of_answers (sendErrorReport_answers _ _ _)

/-- A USB packet does to a node what its command does. -/
theorem midiPacket_spec (p : MidiEventPacket) : CommandSpec n (midiPacket lib env n p) := by
  unfold midiPacket
  dsimp only
  split
  · exact ⟨rfl, rfl, rfl, Or.inl rfl, fun h => h, quiet_nil, noForward_nil⟩
  · obtain ⟨hc, hrelay, hs, hr, hd, hq, hf⟩ := handleSysExMessage_spec lib env
      { n with
        hostResumed := if hostLinked env.millis n.lastHostRxTime then n.hostResumed else true
        lastHostRxTime := env.millis
        parser := (n.parser.packet p).1 } _ _
    exact ⟨hc, hrelay, hs, hr, hd, hq, hf⟩

theorem handleSenderBeacon_quiet (t : Fin maxSenders → SenderEntry) (src : Mac) :
    Quiet (handleSenderBeacon env t src).2 := by
  unfold handleSenderBeacon
  split
  · exact quiet_nil
  · split
    · simp [Out.cc100?]
    · exact quiet_nil

theorem handleReceiverInfo_quiet (t : Fin maxReceivers → ReceiverEntry) (src : Mac) :
    Quiet (handleReceiverInfo env t src data).2 := by
  unfold handleReceiverInfo
  split
  · exact quiet_nil
  · dsimp only
    split
    · exact quiet_nil
    · split
      · simp [Out.cc100?]
      · exact quiet_nil

/-- A radio frame that carries no packet keeps the followed state up to its switches and sends
no CC#100. -/
theorem onDataRecv_spec {src : Mac} (h : mediaFrame src data = none) :
    (onDataRecv lib env n src data).1.core = n.core ∧ Quiet (onDataRecv lib env n src data).2 := by
  rcases onDataRecv_cases lib env n src data with
    ⟨-, -, -, hrecv⟩ | ⟨-, -, -, hrecv⟩ | ⟨-, -, -, -, hrecv⟩ | ⟨-, -, relay, hrecv⟩
  · rw [hrecv]
    exact ⟨rfl, handleSenderBeacon_quiet env n.senderTable src⟩
  · rw [hrecv]
    exact ⟨rfl, handleReceiverInfo_quiet env data n.receiverTable src⟩
  · rw [hrecv]
    have hspec := handleSysExMessage_spec lib env n data (UInt8.ofNat data.length)
    exact ⟨hspec.core, hspec.quiet⟩
  · rw [hrecv]
    unfold mediaEffect
    rw [h]
    exact ⟨rfl, quiet_nil⟩

end Commands

/-! ## The dispatcher -/

/-- The command `handleSysExMessage` runs for a frame, if it runs one. -/
def sysexCommand (data : List UInt8) (length : ℕ) : Option Command :=
  if isOwnSysEx data length ∧ ¬length < 4 then Command.ofCode (byteAt data 2) else none

/-- What a frame that runs no command is answered. -/
def sysexRejection (data : List UInt8) (length : UInt8) : List Out :=
  if ¬isOwnSysEx data length.toNat then []
  else if length < 4 then sendErrorReport errorSysexParseError (data.take 3) length
  else sendErrorReport errorSysexParseError [byteAt data 2] 1

/-- `F0 7D c … F7`. -/
def CarriesCommand (data : List UInt8) (c : Command) : Prop :=
  4 ≤ data.length ∧ byteAt data 0 = sysexStart ∧ byteAt data 1 = sysexManufacturerId ∧
    byteAt data 2 = c.code ∧ byteAt data (data.length - 1) = sysexEnd

theorem Command.ofCode_code (c : Command) : Command.ofCode c.code = some c := by
  cases c <;> decide

theorem Command.code_of_ofCode {b : UInt8} {c : Command} (h : Command.ofCode b = some c) : b = c.code := by
  have hc : c.code = b := by simpa using List.find?_some h
  exact hc.symm

theorem sysexCommand_eq_some {data : List UInt8} {c : Command} :
    sysexCommand data data.length = some c ↔ CarriesCommand data c := by
  unfold sysexCommand CarriesCommand
  by_cases h : isOwnSysEx data data.length = true ∧ ¬data.length < 4
  · rw [if_pos h]
    obtain ⟨hown, hlen⟩ := h
    simp only [isOwnSysEx, decide_eq_true_eq] at hown
    constructor
    · intro hc
      exact ⟨by omega, hown.2.1, hown.2.2.2, Command.code_of_ofCode hc, hown.2.2.1⟩
    · rintro ⟨-, -, -, hcode, -⟩
      rw [hcode, Command.ofCode_code]
  · rw [if_neg h]
    constructor
    · intro hc; cases hc
    · rintro ⟨hlen, h0, h1, -, hend⟩
      refine absurd ⟨?_, by omega⟩ h
      simp only [isOwnSysEx, decide_eq_true_eq]
      exact ⟨by omega, h0, hend, h1⟩

section Dispatch

variable (lib : UpdateLib) (env : Env) (n : Node) {data : List UInt8} {length : UInt8}

theorem UInt8.lt_four_iff : length < 4 ↔ length.toNat < 4 := UInt8.lt_iff_toNat_lt

/-- **A frame with a command** runs that command. -/
theorem handleSysExMessage_of_command {c : Command} (h : sysexCommand data length.toNat = some c) :
    handleSysExMessage lib env n data length = execute lib env n c data length.toNat := by
  unfold sysexCommand at h
  by_cases hc : isOwnSysEx data length.toNat = true ∧ ¬length.toNat < 4
  · rw [if_pos hc] at h
    unfold handleSysExMessage
    rw [if_neg (by simp [hc.1]), if_neg (by rw [UInt8.lt_four_iff]; exact hc.2)]
    simp only [h]
  · rw [if_neg hc] at h
    cases h

/-- **A frame without one** is answered with an error report at most. -/
theorem handleSysExMessage_of_none (h : sysexCommand data length.toNat = none) :
    handleSysExMessage lib env n data length = (n, sysexRejection data length) := by
  unfold handleSysExMessage sysexRejection
  by_cases hown : isOwnSysEx data length.toNat = true
  · have hnot : ¬¬isOwnSysEx data length.toNat = true := not_not.2 hown
    simp only [if_neg hnot]
    by_cases hlen : length < 4
    · simp only [if_pos hlen]
    · unfold sysexCommand at h
      rw [if_pos ⟨hown, by rw [← UInt8.lt_four_iff]; exact hlen⟩] at h
      simp only [if_neg hlen, h]
  · simp only [if_pos hown]

/-- A rejection goes to the host. -/
theorem sysexRejection_host {o : Out} (h : o ∈ sysexRejection data length) : ∃ m, o = Out.host m := by
  unfold sysexRejection at h
  split at h
  · cases h
  · split at h <;> exact ⟨_, List.mem_singleton.1 h⟩

end Dispatch

/-! ## The task loop -/

section Task

variable (env : Env) (n : Node)

variable {env n} {o : Out} {now : UInt32}

/-- A cleanup drops the peers of the entries that expired. -/
theorem mem_cleanupReceiverTable {t : Fin maxReceivers → ReceiverEntry} (h : o ∈ (cleanupReceiverTable now t).2) :
    ∃ i, (t i).expired now = true ∧ o = .delPeer (t i).mac := by
  unfold cleanupReceiverTable at h
  dsimp only at h
  exact Slots.mem_collect_ite.1 h

theorem mem_cleanupSenderTable {t : Fin maxSenders → SenderEntry} (h : o ∈ (cleanupSenderTable now t).2) :
    ∃ i, (t i).expired now = true ∧ o = .delPeer (t i).mac := by
  unfold cleanupSenderTable at h
  dsimp only at h
  exact Slots.mem_collect_ite.1 h

theorem mem_sendDelayedPackets {t : Fin maxDelayedPackets → DelayedMediaSyncPacket}
    (h : o ∈ (sendDelayedPackets now t).2) :
    ∃ i, ((t i).active = true ∧ now ≥ (t i).sendTime) ∧ o = .espNowSend (t i).receiverMac (t i).packet := by
  unfold sendDelayedPackets at h
  dsimp only at h
  exact Slots.mem_collect_ite.1 h

variable (env n)

theorem cleanupReceiverTable_quiet (now : UInt32) (t : Fin maxReceivers → ReceiverEntry) :
    Quiet (cleanupReceiverTable now t).2 := by
  unfold cleanupReceiverTable
  dsimp only
  exact quiet_collect (by intro a; rfl)

theorem cleanupSenderTable_quiet (now : UInt32) (t : Fin maxSenders → SenderEntry) :
    Quiet (cleanupSenderTable now t).2 := by
  unfold cleanupSenderTable
  dsimp only
  exact quiet_collect (by intro a; rfl)

theorem sendDelayedPackets_quiet (now : UInt32) (t : Fin maxDelayedPackets → DelayedMediaSyncPacket) :
    Quiet (sendDelayedPackets now t).2 := by
  unfold sendDelayedPackets
  dsimp only
  exact quiet_collect (by intro a; rfl)

theorem senderBeacon_spec (now : UInt32) : (senderBeacon now n).1.receiver = n.receiver ∧
    (senderBeacon now n).1.receiverModeEnabled = n.receiverModeEnabled ∧ Quiet (senderBeacon now n).2 := by
  unfold senderBeacon
  split
  · exact ⟨rfl, rfl, by simp [Out.cc100?]⟩
  · exact ⟨rfl, rfl, quiet_nil⟩

theorem delayedTick_spec (now : UInt32) : (delayedTick now n).1.receiver = n.receiver ∧
    (delayedTick now n).1.receiverModeEnabled = n.receiverModeEnabled ∧ Quiet (delayedTick now n).2 := by
  unfold delayedTick
  split
  · exact ⟨rfl, rfl, sendDelayedPackets_quiet _ _⟩
  · exact ⟨rfl, rfl, quiet_nil⟩

theorem senderTick_spec : (senderTick env n).1.receiver = n.receiver ∧
    (senderTick env n).1.receiverModeEnabled = n.receiverModeEnabled ∧ Quiet (senderTick env n).2 := by
  obtain ⟨hbr, hbm, hbq⟩ := senderBeacon_spec n env.millis
  obtain ⟨hdr, hdm, hdq⟩ := delayedTick_spec
    { (senderBeacon env.millis n).1 with
      receiverTable := (cleanupReceiverTable env.millis (senderBeacon env.millis n).1.receiverTable).1 } env.millis
  unfold senderTick
  refine ⟨hdr.trans hbr, hdm.trans hbm, ?_⟩
  simp only [quiet_append]
  exact ⟨⟨hbq, cleanupReceiverTable_quiet _ _⟩, hdq⟩

theorem meshResyncTick_spec :
    (meshResyncTick env n).1.receiver = n.receiver ∧ Quiet (meshResyncTick env n).2 := by
  unfold meshResyncTick
  dsimp only
  split_ifs <;> exact ⟨rfl, by simp [Out.cc100?]⟩

theorem receiverBeacon_spec :
    (receiverBeacon env.millis env n).1.receiver = n.receiver ∧ Quiet (receiverBeacon env.millis env n).2 := by
  unfold receiverBeacon
  split
  · exact ⟨rfl, (sendReceiverInfo_answers env n).quiet⟩
  · exact ⟨rfl, quiet_nil⟩

theorem receiverModeTick_spec :
    (receiverModeTick env n).1.receiver = (receiverTick env.millis n.receiver).1 ∧
      lastCc100 (receiverModeTick env n).2 = lastCc100 ((receiverTick env.millis n.receiver).2.map .host) := by
  obtain ⟨hbr, hbq⟩ := receiverBeacon_spec env n
  have htq := cleanupSenderTable_quiet env.millis (receiverBeacon env.millis env n).1.senderTable
  unfold receiverModeTick
  dsimp only
  refine ⟨(meshResyncTick_spec env _).1.trans (congrArg (fun r => (receiverTick env.millis r).1) hbr), ?_⟩
  rw [lastCc100_append, (meshResyncTick_spec env _).2.lastCc100, lastCc100_append, lastCc100_append,
    htq.lastCc100, hbq.lastCc100, hbr]
  simp

/-- **One task iteration** does to the followed state what its receiver part does, if receiver
mode is on, and sends no other CC#100. -/
theorem espnowTask_spec :
    let r := if n.receiverModeEnabled then receiverTick env.millis n.receiver else (n.receiver, [])
    (espnowTask env n).1.receiver = r.1 ∧ lastCc100 (espnowTask env n).2 = lastCc100 (r.2.map .host) := by
  obtain ⟨s, r, hs, hr, htask⟩ := espnowTask_parts env n
  have hsender : s.1.receiver = n.receiver ∧ s.1.receiverModeEnabled = n.receiverModeEnabled ∧ Quiet s.2 := by
    rcases hs with ⟨-, rfl⟩ | ⟨-, rfl⟩
    · exact senderTick_spec env n
    · exact ⟨rfl, rfl, quiet_nil⟩
  obtain ⟨hsr, hsm, hsq⟩ := hsender
  have hreceiver : r.1.receiver =
        (if n.receiverModeEnabled then receiverTick env.millis n.receiver else (n.receiver, [])).1 ∧
      lastCc100 r.2 = lastCc100
        ((if n.receiverModeEnabled then receiverTick env.millis n.receiver else (n.receiver, [])).2.map .host) := by
    rcases hr with ⟨hmode, rfl⟩ | ⟨hmode, rfl⟩
    · rw [if_pos (hsm.symm.trans hmode), ← hsr]
      exact receiverModeTick_spec env s.1
    · rw [if_neg (by rw [← hsm, hmode]; exact Bool.false_ne_true)]
      exact ⟨hsr, rfl⟩
  -- before and after the receiver part there is no CC#100
  have hrelay : Quiet (relayTick env r.1).2 := by
    intro o ho
    obtain ⟨f, -, rfl⟩ := List.mem_map.1 ho
    rfl
  rcases htask with ⟨-, htask⟩ | ⟨-, htask⟩
  · rw [htask]
    refine ⟨hreceiver.1, ?_⟩
    rw [lastCc100_append, hsq.lastCc100, Option.or_none, hreceiver.2]
  · rw [htask]
    refine ⟨hreceiver.1, ?_⟩
    rw [lastCc100_append, lastCc100_append, hrelay.lastCc100, hsq.lastCc100, Option.none_or, Option.or_none,
      hreceiver.2]

end Task

/-! ## A step -/

section Step

variable (build : Build) {lib : UpdateLib} {n : Node} {e : Event}

/-- An event that brings a reboot ends in a boot from what is in NVS. -/
theorem step_of_reboots (h : reboots (n.handle lib e).2 = true) : n.step lib build e =
    (boot build (n.handle lib e).1.nvs (n.handle lib e).1.boardId (n.handle lib e).1.relay.myMacAddress,
      (n.handle lib e).2) := by
  unfold Node.step
  dsimp only
  rw [if_pos h]

/-- Without a reboot a step is what the handler does. -/
theorem step_of_not_reboots (h : reboots (n.handle lib e).2 = false) : n.step lib build e = n.handle lib e := by
  unfold Node.step
  dsimp only
  rw [if_neg (by simp [h])]

/-- A reboot puts nothing out of its own. -/
theorem step_outputs (lib : UpdateLib) (n : Node) (e : Event) : (n.step lib build e).2 = (n.handle lib e).2 := by
  cases h : reboots (n.handle lib e).2 with
  | true => rw [step_of_reboots build h]
  | false => rw [step_of_not_reboots build h]

end Step

/-- A build without a role or a layer of its own. -/
def plainBuild : Build where
  defaultLayer := [0x2D]
  roleDefault := nowdeRoleAuto
  wifiLr := false
  stopOnLinkLost := false

end Nowde
