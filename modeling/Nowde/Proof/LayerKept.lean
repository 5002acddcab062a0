import Nowde.Proof.LayerChange

/-!
# The layer a node keeps

A node's layer is the only thing its master knows it by. Three paths write it: the load at boot, and
the two layer commands, which copy up to fifteen bytes of any content and store what they copied.

* `execute_layer`, `handle_layer`: only a layer command moves the layer, and it stores what it set.
* `layerKept_iff`: along a run a node keeps a layer it can be reached by, and boots with again, exactly
  when no layer command names an empty string.
* `emptyLayer_silent`: a `CHANGE_RECEIVER_LAYER` without a name, and the node reports no more.
-/

namespace Nowde

/-! ## Layer commands -/

/-- The bytes a layer command copies for a name. -/
def namedLayer (n : Node) (c : Command) (data : List UInt8) (length : ℕ) : Option (List UInt8) :=
  match c with
  | .setLocalLayer => if length ≥ 5 then some (slice data 3 (min (length - 4) 15)) else none
  | .changeReceiverLayer =>
    if n.senderModeEnabled = true ∧ length ≥ 29 then none
    else if n.receiverModeEnabled = true ∧ length ≥ 4 then some (slice data 3 (min (length - 4) 15))
    else none
  | _ => none

/-- The layer a name makes. -/
def layerBuf (name : List UInt8) : CharBuf 16 := (CharBuf.strncpy 16 name).terminate

/-- The bytes a layer command copies in an event. -/
def Node.namesLayer (n : Node) (e : Event) : Option (List UInt8) :=
  (n.commandOf e).bind fun k => namedLayer n k.1 k.2.1 k.2.2

/-- The event sets no empty layer: a layer command's name has a first character. -/
def NamesSome (n : Node) (e : Event) : Prop := ∀ name ∈ n.namesLayer e, cstr name ≠ []

instance (n : Node) (e : Event) : Decidable (NamesSome n e) :=
  inferInstanceAs (Decidable (∀ name ∈ n.namesLayer e, cstr name ≠ []))

section Commands

variable (lib : UpdateLib) (env : Env) (n : Node) (data : List UInt8) (length : ℕ)

theorem applyRole_layer (role : UInt8) : (applyRole n role).1.layer = n.layer := by
  unfold applyRole
  dsimp only
  split_ifs <;> rfl

theorem activateSender_layer : (activateSender n).layer = n.layer := by
  unfold activateSender
  split <;> rfl

/-- **What a command does to the layer**, in use and stored. -/
theorem execute_layer (c : Command) :
    (execute lib env n c data length).1.layer =
      match namedLayer n c data length with
      | some name => (layerBuf (name ++ [0]), some (cstr (layerBuf (name ++ [0])).bytes))
      | none => n.layer := by
  cases c with
  | setLocalLayer =>
    simp only [execute, setLocalLayer, namedLayer]
    split <;> rfl
  | changeReceiverLayer =>
    simp only [execute, changeReceiverLayer, namedLayer]
    split
    · split <;> rfl
    · split <;> rfl
  | queryConfig => exact activateSender_layer n
  | pushFullConfig =>
    simp only [execute, pushFullConfig, namedLayer]
    split
    · exact activateSender_layer n
    · rfl
  | setRole =>
    simp only [execute, setRole, namedLayer]
    split_ifs
    · rfl
    · exact applyRole_layer _ _
    · rfl
  | queryRunningState =>
    simp only [execute, queryRunningState, sendRunningState, namedLayer]
    split_ifs <;> rfl
  | enterBootloader | otaBegin | otaData | otaDataAcked | otaEnd => rfl
  | setLog =>
    simp only [execute, setLog, namedLayer]
    split <;> rfl
  | setLr =>
    simp only [execute, setLr, namedLayer]
    split <;> rfl
  | setLossPolicy =>
    simp only [execute, setLossPolicy, namedLayer]
    split <;> rfl
  | setOrigin =>
    simp only [execute, setOrigin, originRelease, namedLayer]
    split_ifs <;> rfl
  | mediaSync =>
    simp only [execute, mediaSync, namedLayer]
    split_ifs <;> rfl

end Commands

section Events

variable (lib : UpdateLib) (env : Env) (n : Node)

/-- A round of the task loop moves no layer. -/
theorem espnowTask_layer : (espnowTask env n).1.layer = n.layer := by
  show (espnowTask env n).1.still.layer = n.still.layer
  rw [espnowTask_still]

/-- **What an event does to the layer.** -/
theorem handle_layer (e : Event) :
    (n.handle lib e).1.layer =
      match n.namesLayer e with
      | some name => (layerBuf (name ++ [0]), some (cstr (layerBuf (name ++ [0])).bytes))
      | none => n.layer := by
  unfold Node.namesLayer
  cases hcmd : n.commandOf e with
  | none =>
    cases e with
    | task env => exact espnowTask_layer env n
    | _ =>
      obtain ⟨_, _, _, _, hlayer, hnode⟩ := handle_of_none lib n hcmd (by simp)
      rw [hnode]
      exact Prod.ext hlayer rfl
  | some k =>
    obtain ⟨c, data, length⟩ := k
    rw [handle_of_command lib n hcmd]
    cases e <;> exact execute_layer lib _ _ data length c

/-- A layer command does not reboot the node. -/
theorem reboots_of_namesLayer {e : Event} {name : List UInt8} (h : n.namesLayer e = some name) :
    reboots (n.handle lib e).2 = false := by
  unfold Node.namesLayer at h
  obtain ⟨⟨c, data, length⟩, hcmd, hname⟩ := Option.bind_eq_some_iff.1 h
  apply reboots_of_command lib n hcmd <;> rintro rfl <;> cases hname

end Events

/-! ## Runs -/

/-- A node with the string its last layer command wrote to NVS. -/
structure LayerState where
  node : Node
  written : Option (List UInt8) := none

/-- One event. A layer command writes what NVS then holds. -/
def layerStep (lib : UpdateLib) (build : Build) (s : LayerState) (e : Event) : LayerState × List Out :=
  let r := s.node.step lib build e
  ({ node := r.1
     written := if (s.node.namesLayer e).isSome then (s.node.handle lib e).1.nvs.layer else s.written }, r.2)

/-- **A node that can be reached by its layer**: a string of one to fifteen characters, which NVS holds
if a command wrote one, which the node reports to every sender it knows, and boots with again. -/
structure LayerKept (build : Build) (s : LayerState) : Prop where
  terminated : byteAt s.node.receiver.subscribedLayer.bytes 15 = 0
  fits : (cstr s.node.receiver.subscribedLayer.bytes).length ≤ 15
  nonempty : cstr s.node.receiver.subscribedLayer.bytes ≠ []
  written : ∀ l ∈ s.written, l = cstr s.node.receiver.subscribedLayer.bytes ∧ s.node.nvs.layer = some l
  reported : ∀ env i, s.node.receiverModeEnabled = true → (s.node.senderTable i).active = true →
    .espNowSend (s.node.senderTable i).mac (receiverInfoFrame env s.node) ∈ sendReceiverInfo env s.node
  restored : (boot build s.node.nvs s.node.boardId s.node.relay.myMacAddress).receiver.subscribedLayer =
    s.node.receiver.subscribedLayer

/-- The layer of a booted node, after any layer commands that named one. -/
structure LayerInv (build : Build) (s : LayerState) : Prop where
  made : ∃ name, cstr name ≠ [] ∧ s.node.receiver.subscribedLayer = layerBuf name
  written : ∀ l ∈ s.written, l = cstr s.node.receiver.subscribedLayer.bytes ∧ s.node.nvs.layer = some l
  loaded : layerBuf (loadLayer build s.node.nvs) = s.node.receiver.subscribedLayer

section Layers

variable {name : List UInt8}

theorem cstr_layerBuf (name : List UInt8) : cstr (layerBuf name).bytes = (cstr name).take 15 :=
  cstr_strncpy_terminate 16 name

theorem cstr_layerBuf_ne_nil (h : cstr name ≠ []) : cstr (layerBuf name).bytes ≠ [] := by
  rw [cstr_layerBuf]
  intro hnil
  rcases List.take_eq_nil_iff.1 hnil with hzero | hname
  · omega
  · exact h hname

/-- The terminator of the copy adds nothing. -/
theorem cstr_append_zero (name : List UInt8) : cstr (name ++ [0]) = cstr name := cstr_append_zeros name 1

/-- **Loading what was stored** gives back the layer. -/
theorem layerBuf_cstr (name : List UInt8) : layerBuf (cstr (layerBuf name).bytes) = layerBuf name := by
  apply CharBuf.ext_bytes
  rw [cstr_layerBuf]
  unfold layerBuf
  rw [bytes_strncpy_terminate (by omega), bytes_strncpy_terminate (by omega),
    cstr_of_notMem (zero_notMem_take_cstr name 15), List.take_take, Nat.min_self]

theorem byteAt_zeros (k i : ℕ) : byteAt (List.replicate k 0) i = 0 := by
  unfold byteAt
  rw [List.getD_eq_getElem?_getD, List.getElem?_replicate]
  split <;> rfl

theorem byteAt_layerBuf (name : List UInt8) : byteAt (layerBuf name).bytes 15 = 0 := by
  have hlen : ((cstr name).take 15).length ≤ 15 := List.length_take_le _ _
  unfold layerBuf
  rw [bytes_strncpy_terminate (by omega), byteAt_append_right _ hlen]
  exact byteAt_zeros _ _

/-- The layer a node boots with. -/
theorem boot_subscribed (build : Build) (nvs : Nvs) (boardId : UInt8) (mac : Mac) :
    (boot build nvs boardId mac).receiver.subscribedLayer = layerBuf (loadLayer build nvs) := by
  unfold boot
  exact congrArg Prod.fst (applyRole_layer _ _)

theorem boot_nvs_layer (build : Build) (nvs : Nvs) (boardId : UInt8) (mac : Mac) :
    (boot build nvs boardId mac).nvs.layer = nvs.layer := by
  unfold boot
  exact congrArg Prod.snd (applyRole_layer _ _)

end Layers

section Steps

variable {lib : UpdateLib} {build : Build} {s : LayerState} {e : Event}

theorem LayerInv.kept (h : LayerInv build s) : LayerKept build s := by
  obtain ⟨name, hname, hmade⟩ := h.made
  have hsome : cstr s.node.receiver.subscribedLayer.bytes ≠ [] := by
    rw [hmade]
    exact cstr_layerBuf_ne_nil hname
  refine ⟨?_, ?_, hsome, h.written, ?_, ?_⟩
  · rw [hmade]
    exact byteAt_layerBuf name
  · rw [hmade, cstr_layerBuf]
    exact List.length_take_le _ _
  · intro env i hmode hactive
    unfold sendReceiverInfo
    rw [if_neg (by simp [hmode, hsome]), Slots.mem_collect]
    exact ⟨i, if_pos hactive⟩
  · rw [boot_subscribed, h.loaded]

/-- A layer command that names something leaves it in use and in NVS. -/
theorem LayerInv.named {name : List UInt8} (hname : s.node.namesLayer e = some name) (hsome : cstr name ≠ []) :
    LayerInv build (layerStep lib build s e).1 := by
  have hlayer := handle_layer lib s.node e
  rw [hname] at hlayer
  have huse : (s.node.handle lib e).1.receiver.subscribedLayer = layerBuf (name ++ [0]) := congrArg Prod.fst hlayer
  have hstored : (s.node.handle lib e).1.nvs.layer = some (cstr (layerBuf (name ++ [0])).bytes) :=
    congrArg Prod.snd hlayer
  have hne : cstr (layerBuf (name ++ [0])).bytes ≠ [] :=
    cstr_layerBuf_ne_nil (by rw [cstr_append_zero]; exact hsome)
  have hnode : (layerStep lib build s e).1.node = (s.node.handle lib e).1 :=
    congrArg Prod.fst (step_of_not_reboots build (reboots_of_namesLayer lib s.node hname))
  have hwritten : (layerStep lib build s e).1.written = some (cstr (layerBuf (name ++ [0])).bytes) := by
    unfold layerStep
    dsimp only
    rw [hname]
    exact hstored
  refine ⟨⟨name ++ [0], by rw [cstr_append_zero]; exact hsome, by rw [hnode, huse]⟩, ?_, ?_⟩
  · intro l hl
    rw [hwritten] at hl
    cases hl
    rw [hnode, huse, hstored]
    exact ⟨rfl, rfl⟩
  · rw [hnode, huse]
    unfold loadLayer
    rw [hstored]
    dsimp only
    rw [if_neg hne, layerBuf_cstr]

/-- Any other event leaves both, and a reboot loads the layer that was in use. -/
theorem LayerInv.other (h : LayerInv build s) (hnone : s.node.namesLayer e = none) :
    LayerInv build (layerStep lib build s e).1 := by
  have hlayer := handle_layer lib s.node e
  rw [hnone] at hlayer
  have huse : (s.node.handle lib e).1.receiver.subscribedLayer = s.node.receiver.subscribedLayer :=
    congrArg Prod.fst hlayer
  have hstored : (s.node.handle lib e).1.nvs.layer = s.node.nvs.layer := congrArg Prod.snd hlayer
  have hload : loadLayer build (s.node.handle lib e).1.nvs = loadLayer build s.node.nvs := by
    unfold loadLayer
    rw [hstored]
  have hboth : (layerStep lib build s e).1.node.receiver.subscribedLayer = s.node.receiver.subscribedLayer ∧
      (layerStep lib build s e).1.node.nvs.layer = s.node.nvs.layer := by
    show ((s.node.step lib build e).1).receiver.subscribedLayer = _ ∧ ((s.node.step lib build e).1).nvs.layer = _
    cases hre : reboots (s.node.handle lib e).2 with
    | true =>
      rw [step_of_reboots build hre]
      exact ⟨by rw [boot_subscribed, hload, h.loaded], by rw [boot_nvs_layer, hstored]⟩
    | false =>
      rw [step_of_not_reboots build hre]
      exact ⟨huse, hstored⟩
  have hwritten : (layerStep lib build s e).1.written = s.written := by
    unfold layerStep
    dsimp only
    rw [hnone]
    rfl
  refine ⟨?_, ?_, ?_⟩
  · rw [hboth.1]
    exact h.made
  · rw [hwritten, hboth.1, hboth.2]
    exact h.written
  · rw [hboth.1, ← h.loaded]
    unfold loadLayer
    rw [hboth.2]

/-- A layer command that names nothing leaves the node without a layer. -/
theorem not_layerKept_step (hempty : ¬NamesSome s.node e) : ¬LayerKept build (layerStep lib build s e).1 := by
  intro hkept
  refine hempty fun name hname hnil => hkept.nonempty ?_
  have hname : s.node.namesLayer e = some name := hname
  have hlayer := handle_layer lib s.node e
  rw [hname] at hlayer
  have huse : (s.node.handle lib e).1.receiver.subscribedLayer = layerBuf (name ++ [0]) := congrArg Prod.fst hlayer
  have hnode : (layerStep lib build s e).1.node = (s.node.handle lib e).1 :=
    congrArg Prod.fst (step_of_not_reboots build (reboots_of_namesLayer lib s.node hname))
  rw [hnode, huse, cstr_layerBuf, cstr_append_zero, hnil, List.take_nil]

theorem layerStep_inv (h : LayerInv build s) (hsome : NamesSome s.node e) :
    LayerInv build (layerStep lib build s e).1 := by
  cases hname : s.node.namesLayer e with
  | none => exact h.other hname
  | some name => exact LayerInv.named hname (hsome name hname)

/-- A node boots with a layer: what NVS holds, a C string, or the build's own. -/
theorem boot_layerInv (build : Build) (nvs : Nvs) (boardId : UInt8) (mac : Mac) (hbuild : cstr build.defaultLayer ≠ [])
    (hnvs : ∀ l ∈ nvs.layer, 0 ∉ l) : LayerInv build { node := boot build nvs boardId mac } := by
  have hload : loadLayer build (boot build nvs boardId mac).nvs = loadLayer build nvs := by
    unfold loadLayer
    rw [boot_nvs_layer]
  refine ⟨⟨loadLayer build nvs, ?_, boot_subscribed build nvs boardId mac⟩, by simp, ?_⟩
  · unfold loadLayer
    cases hlayer : nvs.layer with
    | none => exact hbuild
    | some l =>
      dsimp only
      split
      · exact hbuild
      · next hne =>
        rw [cstr_of_notMem (hnvs l hlayer)]
        exact hne
  · rw [boot_subscribed, hload]

end Steps

/-- **A node keeps a layer along a run exactly when no layer command names an empty string**, for every
run from boot. -/
theorem layerKept_iff (lib : UpdateLib) (build : Build) (nvs : Nvs) (boardId : UInt8) (mac : Mac)
    (hbuild : cstr build.defaultLayer ≠ []) (hnvs : ∀ l ∈ nvs.layer, 0 ∉ l) (events : List Event) :
    (∀ pre post, events = pre ++ post →
      LayerKept build (Mealy.run (layerStep lib build) { node := boot build nvs boardId mac } pre).1) ↔
      Mealy.Guarded (layerStep lib build) (fun s e => NamesSome s.node e) { node := boot build nvs boardId mac }
        events :=
  Mealy.always_iff_guarded (D := fun _ _ => True) (LayerInv build) (LayerKept build) (fun _ => LayerInv.kept)
    (fun _ _ h _ hsome => layerStep_inv h hsome) (fun _ _ _ _ => not_layerKept_step)
    (boot_layerInv build nvs boardId mac hbuild hnvs) (Mealy.guarded_of_forall (fun _ _ => trivial) _ _)

/-- A master gives a fresh slave the layer `B`. -/
def givenLayer : List Event := [.radio { millis := 1000 } masterA [0xF0, 0x7D, 0x11, 0x42, 0xF7]]

/-- The slave keeps it. -/
theorem givenLayer_kept :
    (∀ pre post, givenLayer = pre ++ post →
      LayerKept plainBuild (Mealy.run (layerStep noUpdate plainBuild) { node := boot plainBuild {} 0 slaveMac } pre).1) ↔
    Mealy.Guarded (layerStep noUpdate plainBuild) (fun s e => NamesSome s.node e)
      { node := boot plainBuild {} 0 slaveMac } givenLayer :=
  layerKept_iff noUpdate plainBuild {} 0 slaveMac (by decide) (by simp) givenLayer

/-- **A layer command without a name** leaves a slave without a layer, and its master hears no more of it. -/
theorem emptyLayer_silent :
    let s := (Mealy.run (layerStep noUpdate plainBuild) { node := boot plainBuild {} 0 slaveMac }
      [.radio { millis := 1000 } masterA [0xF0, 0x7D, 0x11, 0xF7]]).1
    ¬LayerKept plainBuild s ∧ ∀ env, sendReceiverInfo env s.node = [] := by
  intro s
  have hlayer : cstr s.node.receiver.subscribedLayer.bytes = [] := by decide +kernel
  refine ⟨fun hkept => hkept.nonempty hlayer, fun env => ?_⟩
  unfold sendReceiverInfo
  rw [if_pos (Or.inr hlayer)]

end Nowde
