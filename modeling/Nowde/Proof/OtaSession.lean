import Nowde.Proof.Commands
import Nowde.Spec.Update
import Nowde.Lib.Run

/-!
# The update session

The firmware keeps its own copy of the session beside the library's: whether one is open, its size
and how much of it has been written. `OTA_BEGIN` closes a session the library has open before it
asks for a new one, and gives up without touching its own copy when it is refused.

* `execute_otaInv`: every other frame keeps the two copies equal.
* `otaSession_iff`: they are equal after every frame **exactly** in the runs where no refused
  `OTA_BEGIN` arrives while the firmware thinks a session is open.
* `refusedBegin_leavesSession`: two frames, and a third that divides by zero.
-/

namespace Nowde

/-! ## Two copies of one session -/

/-- The firmware's copy of the session is the library's. -/
structure OtaConsistent (lib : UpdateLib) (o : Ota) : Prop where
  inProgress : o.otaInProgress = lib.isRunning o.calls
  received : lib.isRunning o.calls = true →
    o.otaReceivedSize.toNat = (updateSession lib o.calls).bytes.length
  total : lib.isRunning o.calls = true → o.otaTotalSize = (updateSession lib o.calls).size

/-- The copies agree, and an open session is not empty. -/
structure OtaInv (lib : UpdateLib) (o : Ota) : Prop extends OtaConsistent lib o where
  size_ne_zero : lib.isRunning o.calls = true → (updateSession lib o.calls).size ≠ 0

/-- The calls of an `OTA_BEGIN` before it asks for a session. -/
def abortRunning (lib : UpdateLib) (calls : List UpdateCall) : List UpdateCall :=
  if lib.isRunning calls then calls ++ [.abort] else calls

/-- The library refuses the session a frame asks for. -/
def BeginRefused (lib : UpdateLib) (o : Ota) (data : List UInt8) : Prop :=
  lib.begin (abortRunning lib o.calls) (otaAnnouncedSize data) = false

section Begin

variable (lib : UpdateLib) (env : Env) {o : Ota} (data : List UInt8) {length : ℕ} (hlen : length ≥ 9)

include hlen

theorem otaBegin_of_granted (h : lib.begin (abortRunning lib o.calls) (otaAnnouncedSize data) = true) :
    otaBegin lib env o data length =
      ({ otaInProgress := true
         otaTotalSize := otaAnnouncedSize data
         otaReceivedSize := 0
         otaStartTime := env.millis
         calls := abortRunning lib o.calls ++ [.begin (otaAnnouncedSize data)] }, []) := by
  unfold otaBegin
  rw [if_pos hlen]
  exact if_pos h

theorem otaBegin_of_refused (h : BeginRefused lib o data) :
    otaBegin lib env o data length =
      ({ o with
          otaTotalSize := otaAnnouncedSize data
          calls := abortRunning lib o.calls ++ [.begin (otaAnnouncedSize data)] }, sendConfigInvalid) := by
  have hno : ¬lib.begin (abortRunning lib o.calls) (otaAnnouncedSize data) = true := by
    rw [show lib.begin _ _ = false from h]
    exact Bool.false_ne_true
  unfold otaBegin
  rw [if_pos hlen]
  exact if_neg hno

end Begin

section Commands

variable {lib : UpdateLib} (hlib : lib.Documented) {o : Ota} (data : List UInt8) (length : ℕ)

theorem OtaInv.of_idle (hin : o.otaInProgress = false) (hrun : lib.isRunning o.calls = false) : OtaInv lib o := by
  have hno : ¬lib.isRunning o.calls = true := by rw [hrun]; exact Bool.false_ne_true
  exact
    { inProgress := hin.trans hrun.symm
      received := fun h => absurd h hno
      total := fun h => absurd h hno
      size_ne_zero := fun h => absurd h hno }

include hlib

theorem isRunning_abortRunning (calls : List UpdateCall) : lib.isRunning (abortRunning lib calls) = false := by
  unfold abortRunning
  split
  · exact hlib.isRunning_abort calls
  · next h => simpa using h

/-- **A write that takes all its bytes** moves both copies by as much. -/
theorem OtaInv.write (h : OtaInv lib o) (hin : o.otaInProgress = true) {bytes : List UInt8}
    (hw : lib.write o.calls bytes = bytes.length) :
    OtaInv lib { o with
      otaReceivedSize := o.otaReceivedSize + UInt32.ofNat bytes.length
      calls := o.calls ++ [.write bytes] } := by
  have hrun : lib.isRunning o.calls = true := h.inProgress.symm.trans hin
  have hrec := h.received hrun
  have hsession := updateSession_write hw
  have hroom := hlib.write_room o.calls bytes hrun hw
  have hlt := (updateSession lib o.calls).size.toNat_lt
  refine ⟨⟨?_, fun _ => ?_, fun _ => ?_⟩, fun _ => ?_⟩
  · exact hin.trans (hlib.isRunning_write o.calls bytes hrun hw).symm
  · -- the announced size bounds the bytes, so the counter does not wrap
    dsimp only
    rw [hsession, UInt32.toNat_add, UInt32.toNat_ofNat', hrec, List.length_append]
    omega
  · dsimp only
    rw [hsession]
    exact h.total hrun
  · dsimp only
    rw [hsession]
    exact h.size_ne_zero hrun

theorem OtaInv.abort (o : Ota) (calls : List UpdateCall) :
    OtaInv lib { o with otaInProgress := false, calls := calls ++ [.abort] } :=
  OtaInv.of_idle rfl (hlib.isRunning_abort calls)

/-- A session just opened. -/
theorem otaInv_begin {calls : List UpdateCall} {size : UInt32} (hidle : lib.isRunning calls = false)
    (hbegin : lib.begin calls size = true) (start : UInt32) :
    OtaInv lib
      { otaInProgress := true
        otaTotalSize := size
        otaReceivedSize := 0
        otaStartTime := start
        calls := calls ++ [.begin size] } := by
  have hsession := updateSession_begin hbegin
  refine ⟨⟨?_, fun _ => ?_, fun _ => ?_⟩, fun _ => ?_⟩
  · exact ((hlib.isRunning_begin calls size hidle).trans hbegin).symm
  · dsimp only
    rw [hsession]
    rfl
  · dsimp only
    rw [hsession]
  · dsimp only
    rw [hsession]
    intro hzero
    dsimp only at hzero
    rw [hzero, hlib.begin_zero] at hbegin
    cases hbegin

/-- An `OTA_BEGIN` that is granted, or refused outside a session. -/
theorem otaBegin_otaInv (env : Env) (h : OtaInv lib o)
    (hok : length ≥ 9 → o.otaInProgress = true → ¬BeginRefused lib o data) :
    OtaInv lib (otaBegin lib env o data length).1 := by
  by_cases hlen : length ≥ 9
  · have hidle := isRunning_abortRunning hlib o.calls
    cases hbegin : lib.begin (abortRunning lib o.calls) (otaAnnouncedSize data) with
    | true =>
      rw [otaBegin_of_granted lib env data hlen hbegin]
      exact otaInv_begin hlib hidle hbegin _
    | false =>
      have hin : o.otaInProgress = false := by
        by_contra hin
        exact hok hlen (by simpa using hin) hbegin
      rw [otaBegin_of_refused lib env data hlen hbegin]
      exact OtaInv.of_idle hin ((hlib.isRunning_begin _ _ hidle).trans hbegin)
  · unfold otaBegin
    rw [if_neg hlen]
    exact h

theorem otaData_otaInv (h : OtaInv lib o) : OtaInv lib (otaData lib o data length).1 ∧
    Out.divideByZero ∉ (otaData lib o data length).2 := by
  unfold otaData
  split
  · next hin =>
    dsimp only
    split
    · exact ⟨OtaInv.abort hlib o _, by simp [sendConfigInvalid, sendErrorReport]⟩
    · next hw =>
      have hrun : lib.isRunning o.calls = true := h.inProgress.symm.trans hin.1
      have hpos : o.otaTotalSize ≠ 0 := by
        rw [h.total hrun]
        exact h.size_ne_zero hrun
      refine ⟨h.write hlib hin.1 (by simpa using hw), ?_⟩
      simp [hpos]
  · exact ⟨h, by simp⟩

theorem otaDataAcked_otaInv (h : OtaInv lib o) : OtaInv lib (otaDataAcked lib o data length).1 ∧
    Out.divideByZero ∉ (otaDataAcked lib o data length).2 := by
  unfold otaDataAcked
  dsimp only
  split
  · next hin =>
    split
    · exact ⟨h, by simp [sendOtaAck]⟩
    · split
      · exact ⟨OtaInv.abort hlib o _, by simp [sendOtaAck]⟩
      · next hw => exact ⟨h.write hlib hin.1 (by simpa using hw), by simp [sendOtaAck]⟩
  · exact ⟨h, by simp [sendOtaAck]⟩

/-- `OTA_END` closes the session; when it succeeds it restarts the node on the way. -/
theorem otaEnd_otaInv (h : OtaInv lib o) :
    (OtaInv lib (otaEnd lib o).1 ∨ Out.restart ∈ (otaEnd lib o).2) ∧ Out.divideByZero ∉ (otaEnd lib o).2 := by
  unfold otaEnd
  split
  · split
    · exact ⟨Or.inl (OtaInv.abort hlib o _), by simp [sendConfigInvalid, sendErrorReport]⟩
    · split
      · exact ⟨Or.inr (by simp), by simp⟩
      · refine ⟨Or.inl (OtaInv.of_idle rfl (hlib.isRunning_finish o.calls)), ?_⟩
        simp [sendConfigInvalid, sendErrorReport]
  · exact ⟨Or.inl h, by simp⟩

end Commands

/-! ## Frame after frame -/

/-- A SysEx frame from the host, with the reboot it may bring. -/
def sysexStep (lib : UpdateLib) (build : Build) (n : Node) (frame : Env × List UInt8) : Node × List Out :=
  let r := handleSysExMessage lib frame.1 n frame.2 (UInt8.ofNat frame.2.length)
  if reboots r.2 then (boot build r.1.nvs r.1.boardId r.1.relay.myMacAddress, r.2) else r

/-- An `OTA_BEGIN` the library refuses, while the firmware thinks a session is open. -/
def RefusedMidSession (lib : UpdateLib) (n : Node) (frame : Env × List UInt8) : Prop :=
  sysexCommand frame.2 (UInt8.ofNat frame.2.length).toNat = some .otaBegin ∧
    (UInt8.ofNat frame.2.length).toNat ≥ 9 ∧ n.ota.otaInProgress = true ∧ BeginRefused lib n.ota frame.2

instance (lib : UpdateLib) (n : Node) (frame : Env × List UInt8) : Decidable (RefusedMidSession lib n frame) :=
  inferInstanceAs (Decidable (_ ∧ _ ∧ _ ∧ lib.begin _ _ = false))

section Session

variable {lib : UpdateLib} (hlib : lib.Documented) (build : Build)

@[simp] theorem boot_ota (nvs : Nvs) (boardId : UInt8) (mac : Mac) : (boot build nvs boardId mac).ota = {} :=
  (applyRole_spec _ _).ota

include hlib

theorem otaInv_boot (nvs : Nvs) (boardId : UInt8) (mac : Mac) :
    OtaInv lib (boot build nvs boardId mac).ota := by
  rw [boot_ota]
  exact OtaInv.of_idle rfl hlib.isRunning_nil

/-- **Every command but a refused `OTA_BEGIN` in a session** keeps the copies equal, or restarts
the node, and never divides by zero. -/
theorem execute_otaInv (env : Env) {n : Node} (h : OtaInv lib n.ota) (c : Command) (data : List UInt8)
    (length : ℕ)
    (hok : c = .otaBegin → length ≥ 9 → n.ota.otaInProgress = true → ¬BeginRefused lib n.ota data) :
    (OtaInv lib (execute lib env n c data length).1.ota ∨ Out.restart ∈ (execute lib env n c data length).2) ∧
      Out.divideByZero ∉ (execute lib env n c data length).2 := by
  cases hc : c.isOta with
  | false =>
    have hplain : PlainSpec n (execute lib env n c data length) := execute_plain lib env hc
    exact ⟨Or.inl (hplain.ota ▸ h), hplain.answers.divideByZero_not_mem⟩
  | true =>
    cases c with
    | otaBegin =>
      refine ⟨Or.inl (otaBegin_otaInv hlib data length env h (hok rfl)), ?_⟩
      simp only [execute, withOta, otaBegin]
      split_ifs <;> simp [sendConfigInvalid, sendErrorReport]
    | otaData =>
      obtain ⟨hinv, hout⟩ := otaData_otaInv hlib data length h
      exact ⟨Or.inl hinv, hout⟩
    | otaDataAcked =>
      obtain ⟨hinv, hout⟩ := otaDataAcked_otaInv hlib data length h
      exact ⟨Or.inl hinv, hout⟩
    | otaEnd => exact otaEnd_otaInv hlib h
    | _ => cases hc

/-- One frame. -/
theorem sysexStep_otaInv {n : Node} (h : OtaInv lib n.ota) {frame : Env × List UInt8}
    (hok : ¬RefusedMidSession lib n frame) :
    OtaInv lib (sysexStep lib build n frame).1.ota ∧ Out.divideByZero ∉ (sysexStep lib build n frame).2 := by
  set r := handleSysExMessage lib frame.1 n frame.2 (UInt8.ofNat frame.2.length) with hr
  have hmsg : (OtaInv lib r.1.ota ∨ Out.restart ∈ r.2) ∧ Out.divideByZero ∉ r.2 := by
    cases hc : sysexCommand frame.2 (UInt8.ofNat frame.2.length).toNat with
    | none =>
      rw [hr, handleSysExMessage_of_none lib frame.1 n hc]
      refine ⟨Or.inl h, fun hz => ?_⟩
      obtain ⟨m, hm⟩ := sysexRejection_host hz
      cases hm
    | some c =>
      rw [hr, handleSysExMessage_of_command lib frame.1 n hc]
      apply execute_otaInv hlib frame.1 h
      intro hbegin hlen hin hrefused
      exact hok ⟨hbegin ▸ hc, hlen, hin, hrefused⟩
  unfold sysexStep
  dsimp only
  rw [← hr]
  split
  · exact ⟨otaInv_boot hlib build _ _ _, hmsg.2⟩
  · next hno =>
    rcases hmsg.1 with hinv | hrestart
    · exact ⟨hinv, hmsg.2⟩
    · exact absurd (by simp [reboots, hrestart]) hno

/-- A refused `OTA_BEGIN` in a session leaves the firmware with a session the library has not. -/
theorem sysexStep_refused {n : Node} {frame : Env × List UInt8} (h : RefusedMidSession lib n frame) :
    ¬OtaConsistent lib (sysexStep lib build n frame).1.ota := by
  obtain ⟨hc, hlen, hin, hrefused⟩ := h
  have hrun := hlib.isRunning_begin _ (otaAnnouncedSize frame.2) (isRunning_abortRunning hlib n.ota.calls)
  intro hcons
  have heq := hcons.inProgress
  unfold sysexStep at heq
  rw [handleSysExMessage_of_command lib frame.1 n hc] at heq
  simp only [execute, withOta, otaBegin_of_refused lib frame.1 frame.2 hlen hrefused] at heq
  rw [if_neg (by simp [reboots, sendConfigInvalid, sendErrorReport])] at heq
  dsimp only at heq
  rw [hin, hrun, show lib.begin _ _ = false from hrefused] at heq
  cases heq

/-- **The two copies agree after every frame, and no frame divides by zero, exactly when** no
refused `OTA_BEGIN` arrives while the firmware thinks a session is open. The frames are any SysEx
frames, of any length and content, from boot on. -/
theorem otaSession_iff (nvs : Nvs) (boardId : UInt8) (mac : Mac) (frames : List (Env × List UInt8)) :
    ((∀ pre post, frames = pre ++ post →
          OtaConsistent lib (Mealy.run (sysexStep lib build) (boot build nvs boardId mac) pre).1.ota) ∧
        Out.divideByZero ∉ (Mealy.run (sysexStep lib build) (boot build nvs boardId mac) frames).2) ↔
      Mealy.Guarded (sysexStep lib build) (fun n frame => ¬RefusedMidSession lib n frame)
        (boot build nvs boardId mac) frames := by
  have hboot := otaInv_boot hlib build nvs boardId mac
  have hbreak : ∀ (n : Node) (frame : Env × List UInt8), OtaInv lib n.ota → True →
      ¬¬RefusedMidSession lib n frame → ¬OtaConsistent lib (sysexStep lib build n frame).1.ota :=
    fun n frame _ _ hg => sysexStep_refused hlib build (not_not.1 hg)
  have hdomain : Mealy.Guarded (sysexStep lib build) (fun _ _ => True) (boot build nvs boardId mac) frames :=
    Mealy.guarded_of_forall (fun _ _ => trivial) _ frames
  have hiff := Mealy.always_iff_guarded (fun n : Node => OtaInv lib n.ota) (fun n => OtaConsistent lib n.ota)
    (fun _ h => h.toOtaConsistent) (fun _ _ h _ hg => (sysexStep_otaInv hlib build h hg).1) hbreak hboot hdomain
  constructor
  · rintro ⟨hall, -⟩
    exact hiff.1 hall
  · intro hg
    refine ⟨hiff.2 hg, ?_⟩
    -- that nothing divides by zero is about all outputs of the run
    have hstep : ∀ (n : Node) (out : List Out) (frame : Env × List UInt8),
        OtaInv lib n.ota ∧ Out.divideByZero ∉ out → ¬RefusedMidSession lib n frame →
        OtaInv lib (sysexStep lib build n frame).1.ota ∧
          Out.divideByZero ∉ out ++ (sysexStep lib build n frame).2 := by
      intro n out frame h hok
      obtain ⟨hinv, hout⟩ := sysexStep_otaInv hlib build h.1 hok
      refine ⟨hinv, fun hmem => ?_⟩
      rcases List.mem_append.1 hmem with hold | hnew
      · exact h.2 hold
      · exact hout hnew
    have htrace := Mealy.trace_inv (fun (n : Node) out => OtaInv lib n.ota ∧ Out.divideByZero ∉ out) hstep
      ⟨hboot, List.not_mem_nil⟩ hg
    simpa using htrace.2

end Session

/-! ## A refused session -/

/-- `OTA_BEGIN` of 4 bytes, then of none, and an `OTA_DATA` without data. -/
def begin4 : List UInt8 := [0xF0, 0x7D, 0x05, 0, 0, 0, 0, 4, 0xF7]
def begin0 : List UInt8 := [0xF0, 0x7D, 0x05, 0, 0, 0, 0, 0, 0xF7]
def emptyData : List UInt8 := [0xF0, 0x7D, 0x06, 0, 0xF7]

/-- `OTA_DATA` of the two bytes 1 and 2. -/
def data12 : List UInt8 := [0xF0, 0x7D, 0x06, 0, 1, 2, 0xF7]

/-- A session that goes on and is then given up for another. -/
def restartedSession : List (Env × List UInt8) :=
  [({ millis := 5 }, begin4), ({ millis := 6 }, data12), ({ millis := 7 }, begin4)]

theorem restartedSession_consistent :
    (∀ pre post, restartedSession = pre ++ post → OtaConsistent (flashLib 64)
        (Mealy.run (sysexStep (flashLib 64) plainBuild) (boot plainBuild {} 0 Mac.zero) pre).1.ota) ∧
      Out.divideByZero ∉
        (Mealy.run (sysexStep (flashLib 64) plainBuild) (boot plainBuild {} 0 Mac.zero) restartedSession).2 :=
  (otaSession_iff (flashLib_documented 64) plainBuild {} 0 Mac.zero restartedSession).2 (by decide +kernel)

/-- **A refused `OTA_BEGIN` leaves the old session open in the firmware alone**, and data without
bytes then divides by zero. -/
theorem refusedBegin_leavesSession :
    ¬∀ (lib : UpdateLib), lib.Documented → ∀ (build : Build) (nvs : Nvs) (boardId : UInt8) (mac : Mac)
      (frames : List (Env × List UInt8)),
      (∀ pre post, frames = pre ++ post →
          OtaConsistent lib (Mealy.run (sysexStep lib build) (boot build nvs boardId mac) pre).1.ota) ∧
        Out.divideByZero ∉ (Mealy.run (sysexStep lib build) (boot build nvs boardId mac) frames).2 := by
  intro hall
  have hout := (hall (flashLib 64) (flashLib_documented 64) plainBuild {} 0 Mac.zero
    [({ millis := 5 }, begin4), ({ millis := 6 }, begin0), ({ millis := 7 }, emptyData)]).2
  exact hout (by decide +kernel)

end Nowde
