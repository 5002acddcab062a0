import Nowde.Proof.HostOutput
import Nowde.Proof.HostOnly

/-!
# Driving and following

`receiverModeEnabled` is always on, `senderModeEnabled` comes with the role or with the host's
handshake, and a slave is never a sender. Only three commands switch a node to driving.

* `execute_modes`: what a command does to the two modes and the role.
* `handle_modes`: what an event does to them, by the command it carries.
-/

namespace Nowde

/-! ## Commands -/

/-- The command switches sender mode on, or finds it on: a handshake on a node that is no slave, or
a role that resolves to master. -/
def enablesSender (n : Node) (c : Command) (data : List UInt8) (length : ℕ) : Prop :=
  match c with
  | .queryConfig => n.nodeRole ≠ nowdeRoleSlave
  | .pushFullConfig => length ≥ 6 ∧ n.nodeRole ≠ nowdeRoleSlave
  | .setRole => length ≥ 5 ∧
      (byteAt data 3 = nowdeRoleSlave ∨ byteAt data 3 = nowdeRoleMaster ∨ byteAt data 3 = nowdeRoleAuto) ∧
      resolveRole n.boardId (byteAt data 3) = nowdeRoleMaster
  | _ => False

instance (n : Node) (c : Command) (data : List UInt8) (length : ℕ) : Decidable (enablesSender n c data length) := by
  unfold enablesSender
  cases c <;> infer_instance

/-- A slave does not drive. -/
def Node.SlaveFollows (n : Node) : Prop := n.nodeRole = nowdeRoleSlave → n.senderModeEnabled = false

/-- What a step does to the modes: receiver mode stays on, a slave stays a follower, and sender mode
comes on exactly through `enables`. -/
structure ModeStep (n n' : Node) (enables : Prop) : Prop where
  receiver : n.receiverModeEnabled = true → n'.receiverModeEnabled = true
  slave : n.SlaveFollows → n'.SlaveFollows
  sender : n'.senderModeEnabled = true → n.senderModeEnabled = true ∨ enables
  enabled : enables → n'.senderModeEnabled = true

section Specs

variable {n n' : Node}

/-- A step that leaves the modes and the role alone. -/
theorem ModeStep.of_eq (hr : n'.receiverModeEnabled = n.receiverModeEnabled)
    (hs : n'.senderModeEnabled = n.senderModeEnabled) (hn : n'.nodeRole = n.nodeRole) : ModeStep n n' False where
  receiver h := hr.trans h
  slave h hslave := hs.trans (h (hn.symm.trans hslave))
  sender h := Or.inl (hs.symm.trans h)
  enabled h := h.elim

theorem ModeStep.congr {enables enables' : Prop} (h : ModeStep n n' enables) (heq : enables ↔ enables') :
    ModeStep n n' enables' where
  receiver := h.receiver
  slave := h.slave
  sender hs := (h.sender hs).imp_right heq.1
  enabled he := h.enabled (heq.2 he)

end Specs

section Commands

variable (lib : UpdateLib) (env : Env) (n : Node) (data : List UInt8) (length : ℕ)

theorem activateSender_modes : ModeStep n (activateSender n) (n.nodeRole ≠ nowdeRoleSlave) := by
  unfold activateSender
  by_cases hslave : n.nodeRole = nowdeRoleSlave
  · rw [if_neg (by simp [hslave])]
    exact (ModeStep.of_eq rfl rfl rfl).congr (by simp [hslave])
  · cases hsender : n.senderModeEnabled with
    | true =>
      rw [if_neg (by simp)]
      exact ⟨fun h => h, fun h => h, fun _ => Or.inl hsender, fun _ => hsender⟩
    | false =>
      rw [if_pos ⟨by simp, hslave⟩]
      exact ⟨fun h => h, fun _ h => absurd h hslave, fun _ => Or.inr hslave, fun _ => rfl⟩

/-- **A role** that resolves to master switches sender mode on, one that resolves to slave off. -/
theorem applyRole_modes (role : UInt8) : ModeStep n (applyRole n role).1 (role = nowdeRoleMaster) := by
  unfold applyRole
  dsimp only
  by_cases hmaster : role = nowdeRoleMaster
  · rw [if_pos hmaster]
    refine ⟨fun _ => rfl, fun _ hslave => ?_, fun _ => Or.inr hmaster, fun _ => rfl⟩
    exact absurd (hmaster.symm.trans hslave) (by decide)
  · rw [if_neg hmaster]
    by_cases hslave : role = nowdeRoleSlave
    · rw [if_pos hslave]
      split
      · exact ⟨fun _ => rfl, fun _ _ => rfl, fun h => absurd h Bool.false_ne_true, fun h => absurd h hmaster⟩
      · exact ⟨fun _ => rfl, fun _ _ => rfl, fun h => absurd h Bool.false_ne_true, fun h => absurd h hmaster⟩
    · rw [if_neg hslave]
      exact ⟨fun _ => rfl, fun _ h => absurd h hslave, fun h => Or.inl h, fun h => absurd h hmaster⟩

theorem setRole_modes : ModeStep n (setRole env n data length).1 (enablesSender n .setRole data length) := by
  unfold setRole enablesSender
  by_cases hlen : length ≥ 5
  · rw [if_pos hlen]
    dsimp only
    by_cases hrole : byteAt data 3 ≠ nowdeRoleSlave ∧ byteAt data 3 ≠ nowdeRoleMaster ∧ byteAt data 3 ≠ nowdeRoleAuto
    · rw [if_pos hrole]
      refine (ModeStep.of_eq rfl rfl rfl).congr ⟨False.elim, ?_⟩
      rintro ⟨-, hvalid, -⟩
      rcases hvalid with h | h | h
      · exact hrole.1 h
      · exact hrole.2.1 h
      · exact hrole.2.2 h
    · rw [if_neg hrole]
      have hvalid : byteAt data 3 = nowdeRoleSlave ∨ byteAt data 3 = nowdeRoleMaster ∨
          byteAt data 3 = nowdeRoleAuto := by
        by_contra hno
        push Not at hno
        exact hrole hno
      have hstep := applyRole_modes
        { n with storedRole := byteAt data 3, nvs := { n.nvs with role := some (byteAt data 3) } }
        (resolveRole n.boardId (byteAt data 3))
      exact ⟨hstep.receiver, hstep.slave, fun h => (hstep.sender h).imp_right fun hm => ⟨hlen, hvalid, hm⟩,
        fun h => hstep.enabled h.2.2⟩
  · rw [if_neg hlen]
    exact (ModeStep.of_eq rfl rfl rfl).congr ⟨False.elim, fun h => hlen h.1⟩

theorem pushFullConfig_modes :
    ModeStep n (pushFullConfig n data length).1 (enablesSender n .pushFullConfig data length) := by
  unfold pushFullConfig enablesSender
  by_cases hlen : length ≥ 6
  · rw [if_pos hlen]
    have hstep := activateSender_modes n
    exact ⟨hstep.receiver, hstep.slave, fun h => (hstep.sender h).imp_right fun hr => ⟨hlen, hr⟩,
      fun h => hstep.enabled h.2⟩
  · rw [if_neg hlen]
    exact (ModeStep.of_eq rfl rfl rfl).congr ⟨False.elim, fun h => hlen h.1⟩

/-- **Every command.** -/
theorem execute_modes (c : Command) :
    ModeStep n (execute lib env n c data length).1 (enablesSender n c data length) := by
  cases c with
  | queryConfig =>
    have hstep := activateSender_modes n
    exact ⟨hstep.receiver, hstep.slave, hstep.sender, hstep.enabled⟩
  | pushFullConfig => exact pushFullConfig_modes n data length
  | setRole => exact setRole_modes env n data length
  | queryRunningState =>
    simp only [execute, queryRunningState]
    split
    · unfold sendRunningState
      split <;> exact .of_eq rfl rfl rfl
    · split <;> exact .of_eq rfl rfl rfl
  | enterBootloader => exact .of_eq rfl rfl rfl
  | otaBegin | otaData | otaDataAcked | otaEnd => exact .of_eq rfl rfl rfl
  | setLocalLayer =>
    simp only [execute, setLocalLayer]
    split <;> exact .of_eq rfl rfl rfl
  | setLog =>
    simp only [execute, setLog]
    split <;> exact .of_eq rfl rfl rfl
  | setLr =>
    simp only [execute, setLr]
    split <;> exact .of_eq rfl rfl rfl
  | setLossPolicy =>
    simp only [execute, setLossPolicy]
    split <;> exact .of_eq rfl rfl rfl
  | setOrigin =>
    simp only [execute, setOrigin]
    split_ifs <;> exact .of_eq rfl rfl rfl
  | mediaSync =>
    simp only [execute, mediaSync]
    split_ifs <;> exact .of_eq rfl rfl rfl
  | changeReceiverLayer =>
    simp only [execute, changeReceiverLayer]
    split
    · split <;> exact .of_eq rfl rfl rfl
    · split <;> exact .of_eq rfl rfl rfl

end Commands

/-! ## Events -/

/-- The event carries a command that switches sender mode on, or finds it on. -/
def Node.EnablesSender (n : Node) (e : Event) : Prop :=
  ∃ c data length, n.commandOf e = some (c, data, length) ∧ enablesSender n c data length

section Events

variable (lib : UpdateLib) (env : Env) (n : Node)

/-- A round of the task loop. -/
theorem espnowTask_modes : ModeStep n (espnowTask env n).1 False := by
  have hstill := espnowTask_still env n
  have hreceiver := congrArg Node.receiverModeEnabled hstill
  have hsender := congrArg Node.senderModeEnabled hstill
  have hrole := congrArg Node.nodeRole hstill
  exact .of_eq hreceiver hsender hrole

/-- **Every event**, by the command it carries. -/
theorem handle_modes (e : Event) : ModeStep n (n.handle lib e).1 (n.EnablesSender e) := by
  cases hcmd : n.commandOf e with
  | none =>
    have hno : ¬n.EnablesSender e := by
      rintro ⟨c, data, length, h, -⟩
      rw [hcmd] at h
      cases h
    refine ModeStep.congr ?_ (iff_of_false not_false hno)
    cases e with
    | task env => exact espnowTask_modes env n
    | _ =>
      obtain ⟨_, _, _, _, -, hnode⟩ := handle_of_none lib n hcmd (by simp)
      rw [hnode]
      exact .of_eq rfl rfl rfl
  | some k =>
    obtain ⟨c, data, length⟩ := k
    have hiff : enablesSender n c data length ↔ n.EnablesSender e := by
      constructor
      · exact fun h => ⟨c, data, length, hcmd, h⟩
      · rintro ⟨c', data', length', h, hen⟩
        rw [hcmd] at h
        cases h
        exact hen
    refine ModeStep.congr ?_ hiff
    rw [handle_of_command lib n hcmd]
    -- noting the event touches neither mode nor role
    have hstep := execute_modes lib e.env (n.noted e) data length c
    cases e <;> exact ⟨hstep.receiver, hstep.slave, hstep.sender, hstep.enabled⟩

/-- A node boots in receiver mode, and a slave does not drive. -/
theorem boot_modes (build : Build) (nvs : Nvs) (boardId : UInt8) (mac : Mac) :
    (boot build nvs boardId mac).receiverModeEnabled = true ∧ (boot build nvs boardId mac).SlaveFollows := by
  refine ⟨?_, (applyRole_modes _ _).slave fun _ => rfl⟩
  unfold boot applyRole
  dsimp only
  split_ifs <;> rfl

end Events

end Nowde
