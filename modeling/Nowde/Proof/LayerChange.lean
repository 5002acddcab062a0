import Nowde.Proof.OtaPlain
import Nowde.Proof.Outputs
import Nowde.Proof.CStrings

/-!
# Layer assignment

One command byte has two encodings: the host's names a receiver and a layer in 30 bytes, the mesh's
carries the bare layer. A sender reads the long one and sends the short one; any other node takes
whatever comes for the short one.

* `changeReceiverLayer_sender`: a sender decodes exactly what the host encoded.
* `onDataRecv_layer`: the receiver reads exactly what the sender sends.
* `onlyTarget_iff`: a host frame touches its target only **exactly** when it reaches a sender, or a
  node on which it changes nothing.
* `layerOnSlave_misread`: on a slave's own USB the same frame overwrites the slave's layer.
-/

namespace Nowde

/-- The host's frame. -/
def layerFrame (mac : Mac) (layer : List Char) : List UInt8 := Host.send (Host.changeReceiverLayer mac layer)

/-- What a node does with the host's frame. -/
def assignLayer (lib : UpdateLib) (env : Env) (n : Node) (mac : Mac) (layer : List Char) : Node × List Out :=
  handleSysExMessage lib env n (layerFrame mac layer) (UInt8.ofNat (layerFrame mac layer).length)

/-- A node's layer, in use and stored. -/
def Node.layer (n : Node) : CharBuf 16 × Option (List UInt8) := (n.receiver.subscribedLayer, n.nvs.layer)

/-- The frames put out, with their addresses. -/
def frames (out : List Out) : List (Mac × List UInt8) :=
  out.filterMap fun | .espNowSend mac frame => some (mac, frame) | _ => none

/-- The master knows this receiver. -/
def Knows (n : Node) (mac : Mac) : Prop :=
  n.senderModeEnabled = true ∧ ∃ i, (n.receiverTable i).active = true ∧ (n.receiverTable i).mac = mac

/-- **A layer assignment touches only its target.** -/
structure OnlyTarget (lib : UpdateLib) (env : Env) (n : Node) (mac : Mac) (layer : List Char) : Prop where
  own : (assignLayer lib env n mac layer).1.layer = n.layer
  /-- The one frame sent makes a non-empty name the target's layer. -/
  assigned : Knows n mac → ∃ frame, frames (assignLayer lib env n mac layer).2 = [(mac, frame)] ∧
    (layer ≠ [] → ∀ (lib' : UpdateLib) (env' : Env) (slave : Node) (src : Mac),
      slave.receiverModeEnabled = true →
      cstr (onDataRecv lib' env' slave src frame).1.receiver.subscribedLayer.bytes =
        (layer.map Host.ascii).take 15)
  /-- With no such target, no layer changes anywhere. -/
  elsewhere : ¬Knows n mac → ∀ f ∈ frames (assignLayer lib env n mac layer).2,
    ∀ (lib' : UpdateLib) (env' : Env) (m : Node) (src : Mac), (onDataRecv lib' env' m src f.2).1.layer = m.layer

/-- The layer the first fifteen encoded bytes make, read as they stand. -/
def misreadLayer (mac : Mac) (layer : List Char) : CharBuf 16 :=
  (CharBuf.strncpy 16 ((encode7 mac.bytes ++ encode7 (Host.layer16 layer)).take 15)).terminate

/-! ## The host's frame -/

section Frame

variable {mac : Mac} {layer : List Char}

theorem layerFrame_eq : layerFrame mac layer =
    commandFrame .changeReceiverLayer (encode7bit mac.bytes ++ encode7bit (Host.layer16 layer)) := by
  unfold layerFrame Host.changeReceiverLayer commandFrame
  rw [encode7_eq, encode7_eq, List.append_assoc]
  rfl

theorem length_layer16 : (Host.layer16 layer).length = 16 := by
  unfold Host.layer16
  rw [List.length_map, List.length_take, List.length_append, List.length_replicate]
  omega

/-- The name ends at its first NUL, or at sixteen characters. -/
theorem cstr_layer16 : cstr (Host.layer16 layer) = (cstr (layer.map Host.ascii)).take 16 := by
  have hpad : Host.layer16 layer =
      (layer.map Host.ascii).take 16 ++ List.replicate (16 - (layer.take 16).length) 0 := by
    unfold Host.layer16
    rw [List.take_append, List.take_of_length_le (List.length_take_le 16 layer), List.take_replicate,
      Nat.min_eq_left (Nat.sub_le _ _), List.map_append, List.map_take, List.map_replicate]
    rfl
  rw [hpad, cstr_append_zeros, cstr_take]

theorem length_encodedMac (mac : Mac) : (encode7bit mac.bytes).length = 7 := by
  have hlen : mac.bytes.length = 6 := rfl
  rw [length_encode7bit, hlen]

theorem length_encodedLayer (layer : List Char) : (encode7bit (Host.layer16 layer)).length = 19 := by
  rw [length_encode7bit, length_layer16]

theorem length_layerFrame : (layerFrame mac layer).length = 30 := by
  rw [layerFrame_eq, length_commandFrame, List.length_append, length_encodedMac, length_encodedLayer]

/-- Behind the command byte come the encoded MAC and the encoded layer. -/
theorem drop_layerFrame : (layerFrame mac layer).drop 3 =
    encode7bit mac.bytes ++ (encode7bit (Host.layer16 layer) ++ [sysexEnd]) := by
  rw [layerFrame_eq, commandFrame_eq]
  simp

theorem slice_encodedMac : slice (layerFrame mac layer) 3 7 = encode7bit mac.bytes := by
  unfold slice
  rw [drop_layerFrame, ← length_encodedMac mac, List.take_left]

theorem slice_encodedLayer : slice (layerFrame mac layer) 10 19 = encode7bit (Host.layer16 layer) := by
  unfold slice
  rw [show 10 = 3 + 7 by rfl, ← List.drop_drop, drop_layerFrame, ← length_encodedMac mac, List.drop_left,
    ← length_encodedLayer layer, List.take_left]

/-- The dispatcher runs the command. -/
theorem assignLayer_eq (lib : UpdateLib) (env : Env) (n : Node) :
    assignLayer lib env n mac layer = changeReceiverLayer env n (layerFrame mac layer) 30 := by
  have hcmd : sysexCommand (layerFrame mac layer) (UInt8.ofNat (layerFrame mac layer).length).toNat =
      some .changeReceiverLayer := by
    have hlen : (UInt8.ofNat (layerFrame mac layer).length).toNat =
        (encode7bit mac.bytes ++ encode7bit (Host.layer16 layer)).length + 4 := by
      rw [length_layerFrame, List.length_append, length_encodedMac, length_encodedLayer]
      rfl
    rw [hlen, layerFrame_eq]
    exact sysexCommand_commandFrame
  unfold assignLayer
  rw [handleSysExMessage_of_command lib env n hcmd, length_layerFrame]
  rfl

end Frame

/-! ## The sender -/

section Sender

variable (lib : UpdateLib) (env : Env) {n : Node} (mac : Mac) (layer : List Char)

/-- The short frame of a layer. -/
def meshFrame (layer : List Char) : List UInt8 :=
  commandFrame .changeReceiverLayer ((cstr (layer.map Host.ascii)).take 15)

theorem ofFrame_macBytes : Mac.ofFrame mac.bytes 0 = mac := rfl

/-- The layer buffer a sender decodes holds the name, cut to fifteen bytes. -/
theorem cstr_newLayer :
    cstr ((CharBuf.zero 16).blit (Host.layer16 layer)).terminate.bytes =
      (cstr (layer.map Host.ascii)).take 15 := by
  have hbytes : ((CharBuf.zero 16).blit (Host.layer16 layer)).bytes = Host.layer16 layer := by
    have hlen : (Host.layer16 layer).length = 16 := length_layer16
    unfold CharBuf.blit CharBuf.zero
    dsimp only
    rw [List.take_of_length_le hlen.le, List.drop_replicate, hlen, Nat.sub_self, List.replicate_zero,
      List.append_nil]
  rw [cstr_terminate, hbytes, cstr_layer16, List.take_take]
  rfl

/-- **A sender decodes what the host encoded**: it changes nothing of its own, and the receiver named,
if it knows it, is sent the name. -/
theorem changeReceiverLayer_sender (hsender : n.senderModeEnabled = true) :
    (assignLayer lib env n mac layer).1 = n ∧
      (Knows n mac → frames (assignLayer lib env n mac layer).2 = [(mac, meshFrame layer)]) ∧
      (¬Knows n mac → frames (assignLayer lib env n mac layer).2 = []) := by
  have hreport : ∀ code context length, frames (sendErrorReport code context length) = [] := fun _ _ _ => rfl
  have hmac : Mac.ofFrame (decode7bit (slice (layerFrame mac layer) 3 7)) 0 = mac := by
    rw [slice_encodedMac, decode7bit_encode7bit, ofFrame_macBytes]
  have hname : cstr ((CharBuf.zero 16).blit (decode7bit (slice (layerFrame mac layer) 10 19))).terminate.bytes =
      (cstr (layer.map Host.ascii)).take 15 := by
    rw [slice_encodedLayer, decode7bit_encode7bit, cstr_newLayer]
  rw [assignLayer_eq]
  unfold changeReceiverLayer
  rw [if_pos ⟨hsender, by decide⟩]
  dsimp only
  rw [hmac, hname]
  cases hfind : Slots.find n.receiverTable fun e => e.active && e.mac == mac with
  | some i =>
    have hknows : Knows n mac := by
      have hi := Slots.find_eq_some hfind
      simp only [Bool.and_eq_true, beq_iff_eq] at hi
      exact ⟨hsender, i, hi.1, hi.2⟩
    refine ⟨rfl, fun _ => ?_, fun hunknown => absurd hknows hunknown⟩
    -- a failed sending is reported to the host
    dsimp only
    split
    · rfl
    · exact congrArg ((mac, meshFrame layer) :: ·) (hreport _ _ _)
  | none =>
    have hunknown : ¬Knows n mac := by
      rintro ⟨-, i, hactive, hm⟩
      have hi := Slots.find_eq_none.1 hfind i
      simp [hactive, hm] at hi
    exact ⟨rfl, fun hknows => absurd hknows hunknown, fun _ => hreport _ _ _⟩

end Sender

/-! ## The receiver -/

section Receiver

variable (lib : UpdateLib) (env : Env) {n : Node} (src : Mac)

/-- What a short frame makes of a node's layer. -/
theorem layer_changeSubscribedLayer (data : List UInt8) (length : ℕ) :
    (changeSubscribedLayer n data length).layer =
      ((CharBuf.strncpy 16 (slice data 3 (min (length - 4) 15) ++ [0])).terminate,
        some (cstr (CharBuf.strncpy 16 (slice data 3 (min (length - 4) 15) ++ [0])).terminate.bytes)) := rfl

/-- **A bare layer frame stores its name**, if the name fits the buffer and has no NUL. -/
theorem cstr_changeSubscribedLayer (c : Command) {name : List UInt8} (hlen : name.length ≤ 15) (hzero : 0 ∉ name) :
    cstr (changeSubscribedLayer n (commandFrame c name) (name.length + 4)).receiver.subscribedLayer.bytes = name := by
  have hslice : slice (commandFrame c name) 3 (min (name.length + 4 - 4) 15) = name := by
    rw [Nat.add_sub_cancel, Nat.min_eq_left hlen]
    exact slice_commandFrame _ _
  have hstring : cstr (name ++ [0]) = name := by
    rw [show [0] = List.replicate 1 (0 : UInt8) from rfl, cstr_append_zeros, cstr_of_notMem hzero]
  show cstr (CharBuf.strncpy 16 (slice _ 3 (min (name.length + 4 - 4) 15) ++ [0])).terminate.bytes = name
  rw [hslice, cstr_strncpy_terminate, hstring, List.take_of_length_le hlen]

/-- **The receiver reads what the sender sends.** -/
theorem onDataRecv_layer (hmode : n.receiverModeEnabled = true) (layer : List Char) :
    cstr (onDataRecv lib env n src (meshFrame layer)).1.receiver.subscribedLayer.bytes =
      (cstr (layer.map Host.ascii)).take 15 := by
  have hlen : ((cstr (layer.map Host.ascii)).take 15).length ≤ 15 := List.length_take_le _ _
  have hzero : 0 ∉ (cstr (layer.map Host.ascii)).take 15 := zero_notMem_take_cstr _ _
  unfold meshFrame
  generalize (cstr (layer.map Host.ascii)).take 15 = name at hlen hzero ⊢
  have hframe : (commandFrame .changeReceiverLayer name).length = name.length + 4 := length_commandFrame
  have hcarries : CarriesCommand (commandFrame .changeReceiverLayer name) .changeReceiverLayer := by
    rw [← sysexCommand_eq_some, hframe]
    exact sysexCommand_commandFrame
  have htrunc : (UInt8.ofNat (commandFrame .changeReceiverLayer name).length).toNat = name.length + 4 := by
    rw [hframe, UInt8.toNat_ofNat']
    omega
  rw [onDataRecv_of_radioCommand lib env n src (radioCommand_of_carries (by omega) hcarries), htrunc]
  show cstr (changeReceiverLayer env n _ _).1.receiver.subscribedLayer.bytes = name
  -- too short for the long form, also on a sender
  unfold changeReceiverLayer
  rw [if_neg (by omega), if_pos ⟨hmode, by omega⟩]
  exact cstr_changeSubscribedLayer .changeReceiverLayer hlen hzero

/-- A ReceiverInfo moves nobody's layer. -/
theorem onDataRecv_receiverInfo_layer (env' : Env) (m : Node) :
    (onDataRecv lib env n src (receiverInfoFrame env' m)).1.layer = n.layer := by
  have htype : byteAt (receiverInfoFrame env' m) 0 = espnowMsgReceiverInfo := rfl
  unfold onDataRecv
  split
  · rfl
  · split
    · rfl
    · dsimp only
      rw [htype, if_neg (by decide), if_neg (by decide), if_pos rfl]
      split <;> rfl

end Receiver

/-! ## What is touched -/

section Target

variable (lib : UpdateLib) (env : Env) (n : Node) (mac : Mac) (layer : List Char)

theorem ascii_eq_zero {c : Char} : Host.ascii c = 0 ↔ c = Char.ofNat 0 := by
  constructor
  · intro h
    unfold Host.ascii at h
    split at h
    · next hlt =>
      have hzero : c.toNat = 0 := by
        have := congrArg UInt8.toNat h
        rw [UInt8.toNat_ofNat'] at this
        have hmod : c.toNat % 2 ^ 8 = 0 := this
        omega
      rw [← Char.ofNat_toNat c, hzero]
    · exact absurd h (by decide)
  · rintro rfl
    rfl

/-- A name without a NUL in its first fifteen characters is read whole. -/
theorem cstr_name_iff : (cstr (layer.map Host.ascii)).take 15 = (layer.map Host.ascii).take 15 ↔
    Char.ofNat 0 ∉ layer.take 15 := by
  have hmem : (0 : UInt8) ∈ (layer.map Host.ascii).take 15 ↔ Char.ofNat 0 ∈ layer.take 15 := by
    rw [← List.map_take, List.mem_map]
    constructor
    · rintro ⟨c, hc, hzero⟩
      rwa [← ascii_eq_zero.1 hzero]
    · exact fun hc => ⟨_, hc, ascii_eq_zero.2 rfl⟩
  rw [← hmem]
  constructor
  · intro h
    rw [← h]
    exact zero_notMem_take_cstr _ _
  · intro h
    rw [← cstr_take, cstr_of_notMem h]

/-- A node that does not drive reads the host's frame as the mesh's. -/
theorem assignLayer_receiver (hsender : n.senderModeEnabled = false) (hmode : n.receiverModeEnabled = true) :
    (assignLayer lib env n mac layer).1.layer =
        (misreadLayer mac layer, some (cstr (misreadLayer mac layer).bytes)) ∧
      (assignLayer lib env n mac layer).2 =
        sendReceiverInfo env (changeSubscribedLayer n (layerFrame mac layer) 30) := by
  have hslice : slice (layerFrame mac layer) 3 (min (30 - 4) 15) =
      (encode7 mac.bytes ++ encode7 (Host.layer16 layer)).take 15 := by
    have hlen : (encode7bit mac.bytes ++ encode7bit (Host.layer16 layer)).length = 26 := by
      rw [List.length_append, length_encodedMac, length_encodedLayer]
    rw [layerFrame_eq, commandFrame_eq, encode7_eq, encode7_eq]
    unfold slice
    show (((encode7bit mac.bytes ++ encode7bit (Host.layer16 layer)) ++ [sysexEnd])).take 15 = _
    rw [List.take_append_of_le_length (by omega)]
  have hread : (CharBuf.strncpy 16 (slice (layerFrame mac layer) 3 (min (30 - 4) 15) ++ [0])).terminate =
      misreadLayer mac layer := by
    unfold misreadLayer CharBuf.strncpy
    rw [hslice, cstr_take, cstr_take, show [0] = List.replicate 1 (0 : UInt8) from rfl, cstr_append_zeros]
  have heq : changeReceiverLayer env n (layerFrame mac layer) 30 =
      (changeSubscribedLayer n (layerFrame mac layer) 30,
        sendReceiverInfo env (changeSubscribedLayer n (layerFrame mac layer) 30)) := by
    have hnot : ¬n.senderModeEnabled = true := by simp [hsender]
    unfold changeReceiverLayer
    rw [if_neg (fun h => hnot h.1), if_pos ⟨hmode, by decide⟩]
  rw [assignLayer_eq, heq]
  exact ⟨by rw [layer_changeSubscribedLayer, hread], rfl⟩

/-- The frames of a ReceiverInfo round. -/
theorem frames_sendReceiverInfo {m : Node} {f : Mac × List UInt8} (h : f ∈ frames (sendReceiverInfo env m)) :
    f.2 = receiverInfoFrame env m := by
  unfold frames at h
  obtain ⟨o, ho, hf⟩ := List.mem_filterMap.1 h
  obtain ⟨i, -, rfl⟩ := mem_sendReceiverInfo env m ho
  cases hf
  rfl

/-- **A layer assignment touches only its target exactly when** it reaches a sender, and has no NUL in
the name when the sender knows the target; or it reaches a node that has the layer it would misread. -/
theorem onlyTarget_iff : OnlyTarget lib env n mac layer ↔
    (n.senderModeEnabled = true ∧ (Knows n mac → Char.ofNat 0 ∉ layer.take 15)) ∨
      (n.senderModeEnabled = false ∧ (n.receiverModeEnabled = true →
        n.layer = (misreadLayer mac layer, some (cstr (misreadLayer mac layer).bytes)))) := by
  cases hsender : n.senderModeEnabled with
  | true =>
    obtain ⟨hown, hknown, hunknown⟩ := changeReceiverLayer_sender lib env mac layer hsender
    constructor
    · intro h
      refine Or.inl ⟨rfl, fun hk hnul => ?_⟩
      obtain ⟨frame, hframe, hread⟩ := h.assigned hk
      have hmesh : frame = meshFrame layer := by
        have := hframe.symm.trans (hknown hk)
        simpa using this
      have hne : layer ≠ [] := by
        rintro rfl
        cases hnul
      -- a slave reads the name up to the NUL
      have hslave := hread hne lib env lockedSlave mac rfl
      rw [hmesh, onDataRecv_layer lib env mac rfl] at hslave
      exact (cstr_name_iff layer).1 hslave hnul
    · rintro (⟨-, hname⟩ | ⟨hno, -⟩)
      · refine ⟨congrArg Node.layer hown, fun hk => ⟨_, hknown hk, ?_⟩, fun hk f hf => ?_⟩
        · intro _ lib' env' slave src hmode
          rw [onDataRecv_layer lib' env' src hmode]
          exact (cstr_name_iff layer).2 (hname hk)
        · rw [hunknown hk] at hf
          cases hf
      · cases hno
  | false =>
    have hunknown : ¬Knows n mac := by
      rintro ⟨h, -⟩
      rw [hsender] at h
      cases h
    constructor
    · intro h
      refine Or.inr ⟨rfl, fun hmode => ?_⟩
      exact h.own.symm.trans (assignLayer_receiver lib env n mac layer hsender hmode).1
    · rintro (⟨hno, -⟩ | ⟨-, hlayer⟩)
      · cases hno
      · cases hmode : n.receiverModeEnabled with
        | true =>
          obtain ⟨hread, hout⟩ := assignLayer_receiver lib env n mac layer hsender hmode
          refine ⟨hread.trans (hlayer hmode).symm, fun hk => absurd hk hunknown, fun _ f hf => ?_⟩
          intro lib' env' m src
          rw [hout] at hf
          rw [frames_sendReceiverInfo env hf]
          exact onDataRecv_receiverInfo_layer lib' env' src env _
        | false =>
          have hidle : assignLayer lib env n mac layer = (n, []) := by
            rw [assignLayer_eq]
            unfold changeReceiverLayer
            simp [hsender, hmode]
          refine ⟨congrArg (Node.layer ·.1) hidle, fun hk => absurd hk hunknown, fun _ f hf => ?_⟩
          rw [hidle] at hf
          cases hf

end Target

/-! ## On a slave -/

/-- The layer `stage` for the receiver `masterB`, on the USB of a slave that follows layer `*`. -/
theorem layerOnSlave_misread :
    ¬∀ (lib : UpdateLib) (env : Env) (n : Node) (mac : Mac) (layer : List Char), OnlyTarget lib env n mac layer := by
  intro hall
  have hown := (hall noUpdate { millis := 1000 } lockedSlave masterB ['s', 't', 'a', 'g', 'e']).own
  have hafter : (assignLayer noUpdate { millis := 1000 } lockedSlave masterB ['s', 't', 'a', 'g', 'e']).1.layer ≠
      lockedSlave.layer := by decide +kernel
  exact hafter hown

end Nowde
