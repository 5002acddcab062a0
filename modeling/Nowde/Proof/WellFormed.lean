import Nowde.Proof.HostOutput
import Nowde.Proof.CStrings

/-!
# Frames to the host are well formed

A SysEx frame is `F0`, data bytes below `0x80`, and `F7`. What a node says of its own state is
masked or 7-bit encoded; what an answer repeats of the frame it answers goes out as it came in.

* `execute_wellFormed`: a command's answers are well formed **exactly** when what they repeat is.
* `handle_wellFormed`: so for any event.
* `wellFormed_iff`: and for every run from boot.
* `shortFrame_echoed`: three bytes on USB come back inside an error report.
-/

namespace Nowde

/-! ## Frames -/

/-- Data bytes. -/
def SevenBit (bytes : List UInt8) : Prop := ∀ b ∈ bytes, b < 0x80

/-- **A SysEx frame**: data bytes between the two status bytes. -/
def Framed (message : List UInt8) : Prop := ∃ body, message = sysexStart :: body ++ [sysexEnd] ∧ SevenBit body

section Frames

variable {b : UInt8} {l l' body : List UInt8}

instance : Decidable (SevenBit l) := inferInstanceAs (Decidable (∀ b ∈ l, b < 0x80))

@[simp] theorem sevenBit_nil : SevenBit [] := fun _ h => absurd h (by simp)

@[simp] theorem sevenBit_cons : SevenBit (b :: l) ↔ b < 0x80 ∧ SevenBit l := by simp [SevenBit]

@[simp] theorem sevenBit_append : SevenBit (l ++ l') ↔ SevenBit l ∧ SevenBit l' := by
  simp only [SevenBit, List.mem_append, or_imp, forall_and]

@[simp] theorem sevenBit_encode7bit (x : List UInt8) : SevenBit (encode7bit x) := encode7bit_lt x

@[simp] theorem sevenBit_and_0x7F : b &&& 0x7F < 0x80 := and_0x7F_lt b

theorem sevenBit_map_and_0x7F : SevenBit (l.map (· &&& 0x7F)) := by
  intro b hb
  obtain ⟨a, -, rfl⟩ := List.mem_map.1 hb
  exact and_0x7F_lt a

theorem ofNat_lt_0x80 {k : ℕ} (h : k < 128) : UInt8.ofNat k < 0x80 := by
  rw [UInt8.lt_iff_toNat_lt, UInt8.toNat_ofNat']
  have hsmall : k % 2 ^ 8 = k := Nat.mod_eq_of_lt (by omega)
  rw [hsmall]
  exact h

theorem framed_iff : Framed (sysexStart :: body ++ [sysexEnd]) ↔ SevenBit body := by
  constructor
  · rintro ⟨body', heq, hbody⟩
    have hsame : body = body' := by
      have := List.append_cancel_right heq
      exact (List.cons.inj this).2
    rw [hsame]
    exact hbody
  · exact fun h => ⟨body, rfl, h⟩

end Frames

/-! ## Messages -/

/-- The SysEx messages of the node's own protocol. -/
def HostMsg.sysEx? : HostMsg → Option (List UInt8)
  | .hello message | .sysExBytes message | .runningState message | .errorReport message => some message
  | .cc .. | .timeCode _ | .fullFrame _ | .start | .stop => none

/-- A SysEx message among the outputs. -/
def Out.sysEx? : Out → Option (List UInt8)
  | .host m => m.sysEx?
  | _ => none

/-- An output that is well formed if it is a SysEx message. -/
def Out.WellFormed (o : Out) : Prop := ∀ m, o.sysEx? = some m → Framed m

/-- Outputs whose SysEx messages are well formed. -/
def WellFormed (out : List Out) : Prop := ∀ o ∈ out, o.WellFormed

section Messages

variable {out out' : List Out} {o : Out} (env : Env) (n : Node)

@[simp] theorem wellFormed_nil : WellFormed [] := fun _ h => absurd h (by simp)

@[simp] theorem wellFormed_cons : WellFormed (o :: out) ↔ o.WellFormed ∧ WellFormed out := by simp [WellFormed]

@[simp] theorem wellFormed_append : WellFormed (out ++ out') ↔ WellFormed out ∧ WellFormed out' := by
  simp only [WellFormed, List.mem_append, or_imp, forall_and]

theorem Out.wellFormed_of_none (h : o.sysEx? = none) : o.WellFormed := by
  intro m hm
  rw [h] at hm
  cases hm

theorem Out.wellFormed_sysEx {m : List UInt8} (h : o.sysEx? = some m) : o.WellFormed ↔ Framed m := by
  unfold Out.WellFormed
  rw [h]
  simp

theorem helloMessage_framed : Framed (helloMessage env n) := by
  have hbody : SevenBit ([sysexManufacturerId, sysexCmdHello] ++
      encode7bit ((CharBuf.zero 8).blit nowdeVersion).bytes ++ encode7bit (u32be env.millis) ++
      [env.resetReason &&& 0x7F, n.nodeRole &&& 0x7F, n.boardId &&& 0x7F,
        nodeSyncQuality env n.nodeRole n.receiver.mediaSyncState &&& 0x7F, if n.lrEnabled then 1 else 0,
        UInt8.ofNat (min n.receiver.mediaSyncState.syncGaps.toNat 0x3FFF / 128) &&& 0x7F,
        UInt8.ofNat (min n.receiver.mediaSyncState.syncGaps.toNat 0x3FFF) &&& 0x7F]) := by
    have hlr : (if n.lrEnabled then 1 else 0 : UInt8) < 0x80 := by split <;> decide
    simp only [sevenBit_append, sevenBit_cons, sevenBit_nil, sevenBit_encode7bit, sevenBit_and_0x7F, hlr, and_true]
    decide
  exact framed_iff.2 hbody

theorem configStateMessage_framed : Framed (configStateMessage n) := by
  have hlen : (cstr (n.receiver.subscribedLayer.bytes.take (maxLayerLength - 1))).length < 128 := by
    have hcut := cstr_length_le (n.receiver.subscribedLayer.bytes.take (maxLayerLength - 1))
    have htake := List.length_take_le (maxLayerLength - 1) n.receiver.subscribedLayer.bytes
    have hmax : maxLayerLength - 1 = 15 := rfl
    omega
  generalize hlayer : cstr (n.receiver.subscribedLayer.bytes.take (maxLayerLength - 1)) = layer at hlen
  have hsim : (if n.rfSimulationEnabled then 1 else 0 : UInt8) < 0x80 := by split <;> decide
  have hstop : (if n.receiver.mediaSyncState.stopOnLinkLost then 1 else 0 : UInt8) < 0x80 := by split <;> decide
  have hlock : (if n.receiver.originLock.valid then (if n.receiver.originLock.pinned then 2 else 1) else 0 : UInt8) <
      0x80 := by split_ifs <;> decide
  have hbody : SevenBit ([sysexManufacturerId, sysexCmdConfigState, if n.rfSimulationEnabled then 1 else 0,
      (n.rfSimMaxDelayMs >>> 7).toUInt8 &&& 0x7F, n.rfSimMaxDelayMs.toUInt8 &&& 0x7F, n.nodeRole &&& 0x7F,
      n.boardId &&& 0x7F, UInt8.ofNat layer.length] ++ layer.map (· &&& 0x7F) ++
      [if n.receiver.mediaSyncState.stopOnLinkLost then 1 else 0,
        if n.receiver.originLock.valid then (if n.receiver.originLock.pinned then 2 else 1) else 0] ++
      encode7bit n.receiver.originLock.mac.bytes) := by
    simp only [sevenBit_append, sevenBit_cons, sevenBit_nil, sevenBit_encode7bit, sevenBit_and_0x7F,
      sevenBit_map_and_0x7F, hsim, hstop, hlock, ofNat_lt_0x80 hlen, and_true]
    decide
  unfold configStateMessage
  dsimp only
  rw [hlayer]
  exact framed_iff.2 hbody

theorem runningStateMessage_framed {numActive chunkIndex chunkCount : ℕ} {receivers : List ReceiverEntry}
    (hnum : numActive ≤ maxReceivers) (hindex : chunkIndex ≤ maxReceivers) (hcount : chunkCount ≤ maxReceivers)
    (hlen : receivers.length ≤ 1) :
    Framed (runningStateMessage env numActive chunkIndex chunkCount receivers) := by
  have hmax : maxReceivers = 10 := rfl
  have hsynced : (if env.syncState = .synced then 1 else 0 : UInt8) < 0x80 := by split <;> decide
  have hnum' : UInt8.ofNat numActive < 0x80 := ofNat_lt_0x80 (by omega)
  have hindex' : UInt8.ofNat chunkIndex < 0x80 := ofNat_lt_0x80 (by omega)
  have hcount' : UInt8.ofNat chunkCount < 0x80 := ofNat_lt_0x80 (by omega)
  have hlen' : UInt8.ofNat receivers.length < 0x80 := ofNat_lt_0x80 (by omega)
  have hdata : SevenBit (receivers.flatMap fun e => encode7bit (receiverData env e)) := by
    intro b hb
    obtain ⟨e, -, hb⟩ := List.mem_flatMap.1 hb
    exact encode7bit_lt _ b hb
  have hbody : SevenBit ([sysexManufacturerId, sysexCmdRunningState] ++ encode7bit (u32be env.millis) ++
      [if env.syncState = .synced then 1 else 0, UInt8.ofNat numActive, UInt8.ofNat chunkIndex,
        UInt8.ofNat chunkCount, UInt8.ofNat receivers.length] ++
      receivers.flatMap (fun e => encode7bit (receiverData env e))) := by
    simp only [sevenBit_append, sevenBit_cons, sevenBit_nil, sevenBit_encode7bit, hsynced, hnum', hindex', hcount',
      hlen', hdata, and_true]
    decide
  exact framed_iff.2 hbody

/-- An error report repeats its context. -/
theorem errorReportMessage_framed {code length : UInt8} {context : List UInt8} (hcode : code < 0x80)
    (hlen : length < 0x80) :
    Framed (errorReportMessage code context length) ↔ SevenBit (context.take (min length.toNat 32)) := by
  have hbody : Framed (errorReportMessage code context length) ↔
      SevenBit ([sysexManufacturerId, sysexCmdErrorReport, code, length] ++ context.take (min length.toNat 32)) :=
    framed_iff
  have hhead : SevenBit [sysexManufacturerId, sysexCmdErrorReport, code, length] := by
    simp only [sevenBit_cons, sevenBit_nil, hcode, hlen, and_true]
    decide
  rw [hbody, sevenBit_append]
  exact and_iff_right hhead

/-- `sendErrorReport` on a context that fits. -/
theorem sendErrorReport_wellFormed {code length : UInt8} {context : List UInt8} (hcode : code < 0x80)
    (hlen : length < 0x80) (hall : context.length ≤ min length.toNat 32) :
    WellFormed (sendErrorReport code context length) ↔ SevenBit context := by
  unfold sendErrorReport
  rw [wellFormed_cons, Out.wellFormed_sysEx rfl, errorReportMessage_framed hcode hlen, List.take_of_length_le hall]
  exact and_iff_left wellFormed_nil

/-- An acknowledgement repeats the sequence number. -/
theorem sendOtaAck_wellFormed {seq st : UInt8} (hst : st < 0x80) :
    WellFormed (sendOtaAck seq st) ↔ seq < 0x80 := by
  have hbody : Framed [sysexStart, sysexManufacturerId, sysexCmdOtaAck, seq, st, sysexEnd] ↔
      SevenBit [sysexManufacturerId, sysexCmdOtaAck, seq, st] := by
    show Framed (sysexStart :: [sysexManufacturerId, sysexCmdOtaAck, seq, st] ++ [sysexEnd]) ↔ _
    exact framed_iff
  have hhead : sysexManufacturerId < 0x80 ∧ sysexCmdOtaAck < 0x80 := by decide
  unfold sendOtaAck
  rw [wellFormed_cons, Out.wellFormed_sysEx rfl, hbody]
  simp [hhead, hst]

end Messages

/-! ## What an answer repeats -/

/-- What of its frame a command's answer repeats as it came. -/
def echoed (env : Env) (n : Node) (c : Command) (data : List UInt8) (length : ℕ) : List UInt8 :=
  match c with
  | .otaDataAcked => if length ≥ 6 then [byteAt data 3] else []
  | .setRole =>
    let role := byteAt data 3
    if length ≥ 5 ∧ role ≠ nowdeRoleSlave ∧ role ≠ nowdeRoleMaster ∧ role ≠ nowdeRoleAuto then [role] else []
  | .changeReceiverLayer =>
    let targetMac := Mac.ofFrame (decode7bit (slice data 3 7)) 0
    if n.senderModeEnabled ∧ length ≥ 29 ∧
        ((Slots.find n.receiverTable fun e => e.active && e.mac == targetMac).isNone ∨ ¬env.espNowSendOk) then
      targetMac.bytes
    else []
  | _ => []

/-- What of a frame that runs no command its rejection repeats. -/
def rejected (data : List UInt8) (length : UInt8) : List UInt8 :=
  if ¬isOwnSysEx data length.toNat then []
  else if length < 4 then data.take 3 else [byteAt data 2]

/-- The SysEx frame an event completes. -/
def Node.messageOf (n : Node) : Event → Option (List UInt8)
  | .radio _ _ data => if isSysexFrame data then some data else none
  | .usb _ packet => (n.parser.packet packet).2
  | .task _ => none

/-- The command of an event is that of the message it completes. -/
theorem commandOf_eq (n : Node) (e : Event) : n.commandOf e = (n.messageOf e).bind fun message =>
    (sysexCommand message (UInt8.ofNat message.length).toNat).map fun c =>
      (c, message, (UInt8.ofNat message.length).toNat) := by
  cases e with
  | radio env src data =>
    unfold Node.commandOf Node.messageOf radioCommand
    dsimp only
    split <;> rfl
  | usb env packet | task env => rfl

/-- What the answers to an event repeat. -/
def Node.echoed (n : Node) (e : Event) : List UInt8 :=
  match n.messageOf e with
  | none => []
  | some message =>
    match sysexCommand message (UInt8.ofNat message.length).toNat with
    | some c => Nowde.echoed e.env n c message (UInt8.ofNat message.length).toNat
    | none => rejected message (UInt8.ofNat message.length)

/-! ## Commands -/

section Commands

variable (lib : UpdateLib) (env : Env) (n : Node) (data : List UInt8) (length : ℕ)

theorem sendReceiverInfo_wellFormed : WellFormed (sendReceiverInfo env n) := by
  intro o ho
  obtain ⟨i, -, rfl⟩ := mem_sendReceiverInfo env n ho
  exact Out.wellFormed_of_none rfl

/-- Three commands have answers that repeat something; the others' are well formed. -/
theorem execute_wellFormed_plain {c : Command} (hack : c ≠ .otaDataAcked) (hrole : c ≠ .setRole)
    (hlayer : c ≠ .changeReceiverLayer) : WellFormed (execute lib env n c data length).2 := by
  intro o ho
  cases execute_out lib env n data length c o ho with
  | hello c m => exact (Out.wellFormed_sysEx rfl).2 (helloMessage_framed env m)
  | configState c m => exact (Out.wellFormed_sysEx rfl).2 (configStateMessage_framed m)
  | runningState h1 h2 h3 h4 => exact (Out.wellFormed_sysEx rfl).2 (runningStateMessage_framed env h1 h2 h3 h4)
  | otaAck => exact absurd rfl hack
  | configInvalid c =>
    refine (Out.wellFormed_sysEx rfl).2 ((errorReportMessage_framed (by decide) (by decide)).2 ?_)
    exact sevenBit_nil
  | errorReport a b l hc => exact (hc.elim hrole hlayer).elim
  | _ => exact Out.wellFormed_of_none rfl

theorem otaDataAcked_wellFormed : WellFormed (otaDataAcked lib n.ota data length).2 ↔
    SevenBit (echoed env n .otaDataAcked data length) := by
  have hseq : SevenBit (echoed env n .otaDataAcked data length) ↔
      (if length ≥ 6 then byteAt data 3 else 0) < 0x80 := by
    unfold echoed
    dsimp only
    split
    · simp
    · exact iff_of_true sevenBit_nil (by decide)
  rw [hseq]
  unfold otaDataAcked
  dsimp only
  split_ifs <;> exact sendOtaAck_wellFormed (by decide)

/-- Peers are dropped without a word. -/
theorem applyRole_wellFormed (role : UInt8) : WellFormed (applyRole n role).2 := by
  have hdrop : WellFormed (Slots.collect n.receiverTable fun e => if e.active then some (.delPeer e.mac) else none) := by
    intro o ho
    obtain ⟨i, -, rfl⟩ := Slots.mem_collect_ite.1 ho
    exact Out.wellFormed_of_none rfl
  unfold applyRole
  dsimp only
  split_ifs
  · exact wellFormed_nil
  · exact hdrop
  · exact wellFormed_nil
  · exact wellFormed_nil

theorem setRole_wellFormed : WellFormed (setRole env n data length).2 ↔
    SevenBit (echoed env n .setRole data length) := by
  unfold setRole echoed
  dsimp only
  by_cases hlen : length ≥ 5
  · by_cases hrole : byteAt data 3 ≠ nowdeRoleSlave ∧ byteAt data 3 ≠ nowdeRoleMaster ∧ byteAt data 3 ≠ nowdeRoleAuto
    · rw [if_pos hlen, if_pos hrole, if_pos ⟨hlen, hrole⟩]
      exact sendErrorReport_wellFormed (by decide) (by decide) (by simp)
    · rw [if_pos hlen, if_neg hrole, if_neg (fun h => hrole h.2)]
      refine iff_of_true (wellFormed_append.2 ⟨wellFormed_append.2 ⟨applyRole_wellFormed _ _, ?_⟩, ?_⟩) sevenBit_nil
      · exact wellFormed_cons.2 ⟨(Out.wellFormed_sysEx rfl).2 (helloMessage_framed env _), wellFormed_nil⟩
      · exact wellFormed_cons.2 ⟨(Out.wellFormed_sysEx rfl).2 (configStateMessage_framed _), wellFormed_nil⟩
  · rw [if_neg hlen, if_neg (fun h => hlen h.1)]
    refine iff_of_true ?_ sevenBit_nil
    exact (sendErrorReport_wellFormed (by decide) (by decide) (by simp)).2 sevenBit_nil

theorem changeReceiverLayer_wellFormed : WellFormed (changeReceiverLayer env n data length).2 ↔
    SevenBit (echoed env n .changeReceiverLayer data length) := by
  have hreport : ∀ code : UInt8, code < 0x80 → ∀ mac : Mac,
      (WellFormed (sendErrorReport code mac.bytes 6) ↔ SevenBit mac.bytes) :=
    fun code hcode mac => sendErrorReport_wellFormed hcode (by decide) (by simp [Mac.bytes])
  have hsend : ∀ mac frame, (Out.espNowSend mac frame).WellFormed := fun _ _ => Out.wellFormed_of_none rfl
  unfold changeReceiverLayer
  dsimp only
  by_cases hlong : n.senderModeEnabled = true ∧ length ≥ 29
  · rw [if_pos hlong]
    cases hfind : Slots.find n.receiverTable fun e =>
        e.active && e.mac == Mac.ofFrame (decode7bit (slice data 3 7)) 0 with
    | some i =>
      dsimp only
      rw [wellFormed_cons]
      cases hok : env.espNowSendOk with
      | true =>
        have hecho : echoed env n .changeReceiverLayer data length = [] := by
          unfold echoed
          simp [hfind, hok]
        rw [hecho]
        exact iff_of_true ⟨hsend _ _, wellFormed_nil⟩ sevenBit_nil
      | false =>
        have hecho : echoed env n .changeReceiverLayer data length =
            (Mac.ofFrame (decode7bit (slice data 3 7)) 0).bytes := by
          unfold echoed
          exact if_pos ⟨hlong.1, hlong.2, Or.inr (by simp [hok])⟩
        rw [hecho, ← hreport errorEspnowSendFailed (by decide)]
        exact and_iff_right (hsend _ _)
    | none =>
      have hecho : echoed env n .changeReceiverLayer data length =
          (Mac.ofFrame (decode7bit (slice data 3 7)) 0).bytes := by
        unfold echoed
        exact if_pos ⟨hlong.1, hlong.2, Or.inl (by rw [hfind]; rfl)⟩
      rw [hecho]
      exact hreport _ (by decide) _
  · have hecho : echoed env n .changeReceiverLayer data length = [] := by
      unfold echoed
      exact if_neg fun h => hlong ⟨h.1, h.2.1⟩
    rw [if_neg hlong, hecho]
    refine iff_of_true ?_ sevenBit_nil
    -- a frame that is too short still makes a receiver report itself
    split
    · exact sendReceiverInfo_wellFormed env _
    · exact wellFormed_nil

/-- **A command's answers are well formed exactly when** what they repeat is data bytes. -/
theorem execute_wellFormed (c : Command) : WellFormed (execute lib env n c data length).2 ↔
    SevenBit (echoed env n c data length) := by
  cases c with
  | otaDataAcked => exact otaDataAcked_wellFormed lib env n data length
  | setRole => exact setRole_wellFormed env n data length
  | changeReceiverLayer => exact changeReceiverLayer_wellFormed env n data length
  | _ => exact iff_of_true (execute_wellFormed_plain lib env n data length (by decide) (by decide) (by decide)) sevenBit_nil

end Commands

/-! ## Events -/

section Events

variable (lib : UpdateLib) (env : Env) (n : Node)

theorem sysexRejection_wellFormed (data : List UInt8) (length : UInt8) :
    WellFormed (sysexRejection data length) ↔ SevenBit (rejected data length) := by
  unfold sysexRejection rejected
  by_cases hown : ¬isOwnSysEx data length.toNat = true
  · rw [if_pos hown, if_pos hown]
    exact iff_of_true wellFormed_nil sevenBit_nil
  · rw [if_neg hown, if_neg hown]
    have hthree : 3 ≤ length.toNat := by
      simp only [isOwnSysEx, decide_eq_true_eq, not_not] at hown
      exact hown.1
    split
    · -- three bytes pass `isOwnSysEx`: the report repeats all of them, `0xF0` and `0xF7` too
      next hlen =>
      have hlt : length.toNat < 4 := UInt8.lt_iff_toNat_lt.1 hlen
      refine sendErrorReport_wellFormed (by decide) (UInt8.lt_trans hlen (by decide)) ?_
      rw [List.length_take]
      omega
    · exact sendErrorReport_wellFormed (by decide) (by decide) (by simp)

/-- The dispatcher, on any frame. -/
theorem handleSysExMessage_wellFormed (message : List UInt8) :
    WellFormed (handleSysExMessage lib env n message (UInt8.ofNat message.length)).2 ↔
      SevenBit (match sysexCommand message (UInt8.ofNat message.length).toNat with
        | some c => echoed env n c message (UInt8.ofNat message.length).toNat
        | none => rejected message (UInt8.ofNat message.length)) := by
  cases hc : sysexCommand message (UInt8.ofNat message.length).toNat with
  | some c =>
    rw [handleSysExMessage_of_command lib env n hc]
    exact execute_wellFormed lib env n message _ c
  | none =>
    rw [handleSysExMessage_of_none lib env n hc]
    exact sysexRejection_wellFormed message _

/-- What a packet plays is no SysEx of the node's own. -/
theorem processMediaSyncPacket_sysEx (r : Receiver) (origin : Mac) (data : List UInt8) :
    ∀ h ∈ (processMediaSyncPacket env r origin data).2, h.sysEx? = none := by
  have hindex : ∀ p ms, ∀ h ∈ (sendIndexChange env p ms).2, h.sysEx? = none := by
    intro p ms
    unfold sendIndexChange
    split <;> simp [HostMsg.sysEx?]
  have hvolume : ∀ v p ms, ∀ h ∈ (sendVolume env v p ms).2, h.sysEx? = none := by
    intro v p ms
    unfold sendVolume
    dsimp only
    split_ifs <;> simp [HostMsg.sysEx?]
  have htransition : ∀ p a b ms, ∀ h ∈ (sendTransition env p a b ms).2, h.sysEx? = none := by
    intro p a b ms
    unfold sendTransition
    split_ifs <;> simp [HostMsg.sysEx?]
  intro h hh
  unfold processMediaSyncPacket at hh
  split at hh
  · cases hh
  · dsimp only at hh
    split at hh
    · cases hh
    · split at hh
      · cases hh
      · unfold followPacket at hh
        dsimp only at hh
        simp only [List.mem_append] at hh
        rcases hh with ((hh | hh) | hh) | hh
        · exact hindex _ _ h hh
        · split at hh
          · rw [List.mem_singleton.1 hh]
            rfl
          · cases hh
        · exact hvolume _ _ _ h hh
        · exact htransition _ _ _ _ h hh

theorem receiverTick_sysEx (now : UInt32) (r : Receiver) : ∀ h ∈ (receiverTick now r).2, h.sysEx? = none := by
  intro h hh
  unfold receiverTick checkLinkLost generateMtc at hh
  dsimp only at hh
  rw [List.mem_append] at hh
  rcases hh with hh | hh
  · split_ifs at hh <;> simp at hh
    rcases hh with rfl | rfl <;> rfl
  · split_ifs at hh <;> simp at hh
    all_goals
      rw [hh]
      rfl

/-- An event that completes no SysEx frame sends the host none. -/
theorem handle_of_no_message {e : Event} (h : n.messageOf e = none) : ∀ o ∈ (n.handle lib e).2, o.sysEx? = none := by
  intro o ho
  cases e with
  | usb env packet =>
    have hnone : (n.parser.packet packet).2 = none := h
    change o ∈ (midiPacket lib env n packet).2 at ho
    unfold midiPacket at ho
    dsimp only at ho
    rw [hnone] at ho
    cases ho
  | task env =>
    rcases espnowTask_out env n o ho with ⟨-, m, hm, rfl⟩ | hround
    · exact receiverTick_sysEx _ _ m hm
    · cases hround <;> rfl
  | radio env src data =>
    have hno : ¬isSysexFrame data := by
      intro hsysex
      have hsome : n.messageOf (.radio env src data) = some data := if_pos hsysex
      rw [h] at hsome
      cases hsome
    have htable : TableOut o → o.sysEx? = none := fun htable => by cases htable <;> rfl
    simp only [Node.handle] at ho
    rcases onDataRecv_cases lib env n src data with
      ⟨-, -, -, hrecv⟩ | ⟨-, -, -, hrecv⟩ | ⟨-, -, -, hsysex, -⟩ | ⟨-, -, relay, hrecv⟩
    · rw [hrecv] at ho
      exact htable (handleSenderBeacon_out env n.senderTable src o ho)
    · rw [hrecv] at ho
      exact htable (handleReceiverInfo_out env n.receiverTable src data o ho)
    · exact absurd hsysex hno
    · rw [hrecv] at ho
      unfold mediaEffect receiveMedia at ho
      dsimp only at ho
      split at ho
      · split at ho
        · obtain ⟨m, hm, rfl⟩ := List.mem_map.1 ho
          exact processMediaSyncPacket_sysEx env _ _ _ m hm
        · cases ho
      · cases ho

/-- An event that completes one has it handled. -/
theorem handle_of_message {e : Event} {message : List UInt8} (h : n.messageOf e = some message) :
    n.handle lib e = handleSysExMessage lib e.env (n.noted e) message (UInt8.ofNat message.length) := by
  cases e with
  | task env => cases h
  | usb env packet =>
    have hsome : (n.parser.packet packet).2 = some message := h
    show midiPacket lib env n packet = _
    unfold midiPacket
    dsimp only
    rw [hsome]
    rfl
  | radio env src data =>
    unfold Node.messageOf at h
    dsimp only at h
    split at h
    · next hsysex =>
      cases h
      exact onDataRecv_of_isSysexFrame lib env n src hsysex
    · cases h

/-- **The answers to an event are well formed exactly when** what they repeat is data bytes. -/
theorem handle_wellFormed (e : Event) : WellFormed (n.handle lib e).2 ↔ SevenBit (n.echoed e) := by
  unfold Node.echoed
  cases hm : n.messageOf e with
  | none =>
    exact iff_of_true (fun o ho => Out.wellFormed_of_none (handle_of_no_message lib n hm o ho)) sevenBit_nil
  | some message =>
    rw [handle_of_message lib n hm, handleSysExMessage_wellFormed]
    cases e <;> rfl

end Events

/-! ## Runs -/

/-- **Every SysEx frame of a run from boot is well formed exactly when** no event has its bytes
repeated that are not data bytes. -/
theorem wellFormed_iff (lib : UpdateLib) (build : Build) (nvs : Nvs) (boardId : UInt8) (mac : Mac)
    (es : List Event) :
    (∀ o ∈ (Mealy.run (Node.step lib build) (boot build nvs boardId mac) es).2, ∀ message,
        o.sysEx? = some message → Framed message) ↔
      Mealy.Guarded (Node.step lib build) (fun n e => SevenBit (n.echoed e)) (boot build nvs boardId mac) es := by
  have hstep : ∀ (n : Node) (e : Event), (∀ o ∈ (n.step lib build e).2, o.WellFormed) ↔ SevenBit (n.echoed e) := by
    intro n e
    rw [step_outputs]
    exact handle_wellFormed lib n e
  refine Mealy.forall_mem_run_iff.trans ⟨?_, ?_⟩
  · exact Mealy.Guarded.mono fun n e => (hstep n e).1
  · exact Mealy.Guarded.mono fun n e => (hstep n e).2

/-- A frame of three bytes in one USB packet: the host is sent `F0 7D 30 02 03 F0 7D F7 F7`. -/
theorem shortFrame_echoed :
    ¬∀ (lib : UpdateLib) (build : Build) (nvs : Nvs) (boardId : UInt8) (mac : Mac) (es : List Event),
      ∀ o ∈ (Mealy.run (Node.step lib build) (boot build nvs boardId mac) es).2, ∀ message,
        o.sysEx? = some message → Framed message := by
  intro hall
  have hsent : Out.host (.errorReport (errorReportMessage errorSysexParseError [0xF0, 0x7D, 0xF7] 3)) ∈
      (Mealy.run (Node.step noUpdate plainBuild) (boot plainBuild {} nowdeBoardidAtoms3 masterA)
        [.usb { millis := 1000 } ⟨0x07, 0xF0, 0x7D, 0xF7⟩]).2 := by decide +kernel
  have hframed := hall _ _ _ _ _ _ _ hsent _ rfl
  rw [errorReportMessage_framed (by decide) (by decide)] at hframed
  exact absurd hframed (by decide +kernel)

end Nowde
