import Nowde.Proof.Commands

/-!
# The task loop in small steps (`main.cpp`)

`espnowTask` runs while the receive callback and the MIDI task run too. Here one iteration is cut
into steps of one sample of `millis()` or one comparison with it, and frames and USB packets come
in between. `TaskState` also notes, at true times, who was really heard when.

* `TaskState.step`: the small steps, with frames and packets in between.
* `task_round`: left alone, one round of small steps is one `espnowTask`.
-/

namespace Nowde

/-- `millis()` at a true time. -/
def millisAt (time : ℕ) : UInt32 := UInt32.ofNat time

/-- Where the task stands: at the top of the loop, before the sample of a cleanup, at one entry of
a table, or before one of the other parts. -/
inductive TaskPoint
  | top
  | receivers
  | receiver (i : Fin maxReceivers)
  | delayed
  | senders
  | sender (i : Fin maxSenders)
  | link
  | mtc
  | resync
  | relays
deriving DecidableEq

/-- A node, the true time since boot in milliseconds, the task's point and its samples `now` of the
loop and of the cleanup at hand. The last three fields are not the node's: when each sender and
receiver was last heard, and when a packet was last accepted. -/
structure TaskState where
  node : Node
  time : ℕ := 0
  point : TaskPoint := .top
  now : ℕ := 0
  cleanupNow : ℕ := 0
  senderHeard : Mac → ℕ := fun _ => 0
  receiverHeard : Mac → ℕ := fun _ => 0
  accepted : ℕ := 0

/-- What can happen: time passes, a frame or a USB packet comes in, or the task makes its next step. -/
inductive TaskEvent
  | pass (ms : ℕ)
  | receive (env : Env) (src : Mac) (data : List UInt8)
  | usb (env : Env) (packet : MidiEventPacket)
  | task (env : Env)

namespace TaskState

variable (s : TaskState)

/-- What a handler sees at this moment. -/
def env (env : Env) : Env := { env with millis := millisAt s.time }

/-- After the sender part of the loop. -/
def afterSenderMode : TaskPoint := if s.node.receiverModeEnabled then .senders else .relays

/-- The node after a step, and where the task goes from there. -/
def goto (n : Node) (point : TaskPoint) : TaskState := { s with node := n, point := point }

/-- The next step of the task. -/
def task (e : Env) : TaskState × List Out :=
  match s.point with
  | .top =>
    let s := { s with now := s.time }
    if s.node.senderModeEnabled then
      let b := senderBeacon (millisAt s.now) s.node
      (s.goto b.1 .receivers, b.2)
    else (s.goto s.node s.afterSenderMode, [])
  | .receivers => ({ s with cleanupNow := s.time, point := .receiver ⟨0, by decide⟩ }, [])
  | .receiver i =>
    let entry := s.node.receiverTable i
    let table := Function.update s.node.receiverTable i (cleanupReceiverEntry (millisAt s.cleanupNow) entry)
    (s.goto { s.node with receiverTable := table }
        (if h : i.val + 1 < maxReceivers then .receiver ⟨i.val + 1, h⟩ else .delayed),
      if entry.expired (millisAt s.cleanupNow) then [.delPeer entry.mac] else [])
  | .delayed =>
    let d := delayedTick (millisAt s.now) s.node
    (s.goto d.1 s.afterSenderMode, d.2)
  | .senders =>
    let b := receiverBeacon (millisAt s.now) (s.env e) s.node
    ({ s with node := b.1, cleanupNow := s.time, point := .sender ⟨0, by decide⟩ }, b.2)
  | .sender i =>
    let entry := s.node.senderTable i
    let table := Function.update s.node.senderTable i (cleanupSenderEntry (millisAt s.cleanupNow) entry)
    (s.goto { s.node with senderTable := table }
        (if h : i.val + 1 < maxSenders then .sender ⟨i.val + 1, h⟩ else .link),
      if entry.expired (millisAt s.cleanupNow) then [.delPeer entry.mac] else [])
  | .link =>
    let l := checkLinkLost (millisAt s.now) s.node.receiver.mediaSyncState
    (s.goto { s.node with receiver := { s.node.receiver with mediaSyncState := l.1 } } .mtc, l.2.map .host)
  | .mtc =>
    let m := generateMtc (millisAt s.now) s.node.receiver.mediaSyncState
    (s.goto { s.node with receiver := { s.node.receiver with mediaSyncState := m.1 } } .resync, m.2.map .host)
  | .resync =>
    let m := meshResyncTick (s.env e) s.node
    (s.goto m.1 .relays, m.2)
  | .relays =>
    let f := relayTick (s.env e) s.node
    (s.goto f.1 .top, f.2)

/-- The receive callback at this moment. -/
def receive (lib : UpdateLib) (e : Env) (src : Mac) (data : List UInt8) : TaskState × List Out :=
  let r := onDataRecv lib (s.env e) s.node src data
  ({ s with
      node := r.1
      senderHeard := if isSenderBeacon data then Function.update s.senderHeard src s.time else s.senderHeard
      receiverHeard :=
        if isReceiverInfo s.node data then Function.update s.receiverHeard src s.time else s.receiverHeard
      accepted := if (acceptedFrame s.node (s.env e) src data).isSome then s.time else s.accepted }, r.2)

/-- One event, up to the handler's return. -/
def handle (lib : UpdateLib) : TaskEvent → TaskState × List Out
  | .pass ms => ({ s with time := s.time + ms }, [])
  | .receive e src data => s.receive lib e src data
  | .usb e packet =>
    let r := midiPacket lib (s.env e) s.node packet
    ({ s with node := r.1 }, r.2)
  | .task e => s.task e

/-- One event, with the reboot it may bring: `millis()` starts over. -/
def step (lib : UpdateLib) (build : Build) (s : TaskState) (e : TaskEvent) : TaskState × List Out :=
  let r := s.handle lib e
  if reboots r.2 then
    ({ node := boot build r.1.node.nvs r.1.node.boardId r.1.node.relay.myMacAddress }, r.2)
  else r

/-! ## An undisturbed round -/

section Round

variable {s : TaskState} (e : Env)

/-- The steps of `cleanupReceiverTable`, from one entry on. -/
theorem run_receivers {m i : ℕ} (hi : i < maxReceivers) (hm : i + m = maxReceivers)
    (hpoint : s.point = .receiver ⟨i, hi⟩) :
    Mealy.run task s (List.replicate m e) =
      (s.goto { s.node with
          receiverTable := Slots.mapFrom i (cleanupReceiverEntry (millisAt s.cleanupNow)) s.node.receiverTable } .delayed,
        Slots.collectFrom i s.node.receiverTable fun entry =>
          if entry.expired (millisAt s.cleanupNow) then some (.delPeer entry.mac) else none) := by
  induction m generalizing s i with
  | zero => omega
  | succ m ih =>
    rw [List.replicate_succ, Mealy.run_cons, Slots.collectFrom_of_lt hi]
    simp only [task, hpoint]
    by_cases hnext : i + 1 < maxReceivers
    · -- one entry, then the rest of the loop
      rw [ih hnext (by omega) (by simp [goto, hnext])]
      simp only [goto, Slots.mapFrom_update, Slots.collectFrom_update]
      split <;> rfl
    · have hm0 : m = 0 := by omega
      subst hm0
      have hend : maxReceivers ≤ i + 1 := by omega
      simp only [List.replicate_zero, Mealy.run_nil, dif_neg hnext, ← Slots.mapFrom_update hi,
        Slots.mapFrom_of_le hend, Slots.collectFrom_of_le hend, List.append_nil]
      split <;> rfl

/-- The steps of `cleanupSenderTable`, from one entry on. -/
theorem run_senders {m i : ℕ} (hi : i < maxSenders) (hm : i + m = maxSenders)
    (hpoint : s.point = .sender ⟨i, hi⟩) :
    Mealy.run task s (List.replicate m e) =
      (s.goto { s.node with
          senderTable := Slots.mapFrom i (cleanupSenderEntry (millisAt s.cleanupNow)) s.node.senderTable } .link,
        Slots.collectFrom i s.node.senderTable fun entry =>
          if entry.expired (millisAt s.cleanupNow) then some (.delPeer entry.mac) else none) := by
  induction m generalizing s i with
  | zero => omega
  | succ m ih =>
    rw [List.replicate_succ, Mealy.run_cons, Slots.collectFrom_of_lt hi]
    simp only [task, hpoint]
    by_cases hnext : i + 1 < maxSenders
    · rw [ih hnext (by omega) (by simp [goto, hnext])]
      simp only [goto, Slots.mapFrom_update, Slots.collectFrom_update]
      split <;> rfl
    · have hm0 : m = 0 := by omega
      subst hm0
      have hend : maxSenders ≤ i + 1 := by omega
      simp only [List.replicate_zero, Mealy.run_nil, dif_neg hnext, ← Slots.mapFrom_update hi,
        Slots.mapFrom_of_le hend, Slots.collectFrom_of_le hend, List.append_nil]
      split <;> rfl

/-- The sender part of the loop. -/
theorem run_senderTick (hpoint : s.point = .top) (hmode : s.node.senderModeEnabled = true) :
    ∃ t : TaskState, Mealy.run task s (List.replicate (maxReceivers + 1 + 2) e) =
        (t, (senderTick (s.env e) s.node).2) ∧
      t.node = (senderTick (s.env e) s.node).1 ∧ t.time = s.time ∧ t.now = s.time ∧ t.point = t.afterSenderMode := by
  rw [List.replicate_succ, List.replicate_succ, Mealy.run_cons, Mealy.run_cons, List.replicate_add,
    Mealy.run_append]
  simp only [task, hpoint, hmode, if_true]
  simp only [goto]
  rw [run_receivers e (by decide : 0 < maxReceivers) (Nat.zero_add _) rfl]
  simp only [List.replicate_one, Mealy.run_cons, Mealy.run_nil, task, goto, Slots.mapFrom_zero,
    Slots.collectFrom_zero, List.nil_append, List.append_nil]
  refine ⟨_, Prod.ext rfl ?_, rfl, rfl, rfl, ?_⟩
  · rw [← List.append_assoc]
    rfl
  · simp only [afterSenderMode, (delayedTick_spec _ _).2.1]

/-- The receiver part of the loop. -/
theorem run_receiverModeTick (hpoint : s.point = .senders) (hnow : s.now = s.time) :
    ∃ t : TaskState, Mealy.run task s (List.replicate (maxSenders + 3 + 1) e) =
        (t, (receiverModeTick (s.env e) s.node).2) ∧
      t.node = (receiverModeTick (s.env e) s.node).1 ∧ t.time = s.time ∧ t.point = .relays := by
  rw [List.replicate_succ, Mealy.run_cons, List.replicate_add, Mealy.run_append]
  simp only [task, hpoint]
  rw [run_senders e (by decide : 0 < maxSenders) (Nat.zero_add _) rfl]
  simp only [List.replicate, Mealy.run_cons, Mealy.run_nil, task, goto]
  refine ⟨_, Prod.ext rfl ?_, ?_, rfl, rfl⟩
  · simp only [Slots.mapFrom_zero, Slots.collectFrom_zero, List.append_nil, hnow]
    unfold receiverModeTick receiverTick
    simp only [List.map_append, List.append_assoc]
    rfl
  · simp only [Slots.mapFrom_zero, hnow]
    rfl

/-- **Left alone, one round of small steps is one `espnowTask`.** -/
theorem task_round (hpoint : s.point = .top) (hno : Out.restart ∉ (espnowTask (s.env e) s.node).2) :
    ∃ (k : ℕ) (t : TaskState), Mealy.run task s (List.replicate k e) = (t, (espnowTask (s.env e) s.node).2) ∧
      t.node = (espnowTask (s.env e) s.node).1 ∧ t.time = s.time ∧ t.point = .top := by
  obtain ⟨a, b, ha, hb, hround⟩ := espnowTask_parts (s.env e) s.node
  have hsender : ∃ (k : ℕ) (t : TaskState), Mealy.run task s (List.replicate k e) = (t, a.2) ∧
      t.node = a.1 ∧ t.time = s.time ∧ t.now = s.time ∧ t.point = t.afterSenderMode := by
    rcases ha with ⟨hmode, rfl⟩ | ⟨hmode, rfl⟩
    · obtain ⟨t, hrun, h⟩ := run_senderTick e hpoint hmode
      exact ⟨_, t, hrun, h⟩
    · refine ⟨1, { s with now := s.time, point := s.afterSenderMode }, ?_, rfl, rfl, rfl, rfl⟩
      simp [task, hpoint, hmode, goto, afterSenderMode]
  obtain ⟨k, t, hrun, hnode, htime, hnow, hat⟩ := hsender
  have henv : t.env e = s.env e := by rw [env, env, htime]
  have hreceiver : ∃ (m : ℕ) (u : TaskState), Mealy.run task t (List.replicate m e) = (u, b.2) ∧
      u.node = b.1 ∧ u.time = s.time ∧ u.point = .relays := by
    rw [afterSenderMode, hnode] at hat
    rcases hb with ⟨hmode, rfl⟩ | ⟨hmode, rfl⟩
    · rw [if_pos hmode] at hat
      obtain ⟨u, hrun', hnode', htime', hat'⟩ := run_receiverModeTick e hat (hnow.trans htime.symm)
      rw [henv, hnode] at hrun' hnode'
      exact ⟨_, u, hrun', hnode', htime'.trans htime, hat'⟩
    · rw [if_neg (by rw [hmode]; exact Bool.false_ne_true)] at hat
      exact ⟨0, t, rfl, hnode, htime, hat⟩
  obtain ⟨m, u, hrun', hnode', htime', hat'⟩ := hreceiver
  -- a restart in the receiver part would show in the outputs
  obtain ⟨-, hround⟩ : Out.restart ∉ b.2 ∧ espnowTask (s.env e) s.node =
      ((relayTick (s.env e) b.1).1, a.2 ++ b.2 ++ (relayTick (s.env e) b.1).2) := by
    rcases hround with ⟨hre, hround⟩ | hround
    · rw [hround] at hno
      exact absurd (List.mem_append_right _ hre) hno
    · exact hround
  have henv' : u.env e = s.env e := by rw [env, env, htime']
  refine ⟨k + (m + 1), u.goto (relayTick (s.env e) b.1).1 .top, ?_, by rw [hround]; rfl, htime', rfl⟩
  rw [List.replicate_add, List.replicate_add, Mealy.run_append, hrun, Mealy.run_append, hrun', hround]
  simp [task, hat', hnode', henv']

end Round

end TaskState

end Nowde
