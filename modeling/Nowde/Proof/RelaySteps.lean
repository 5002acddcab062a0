import Nowde.Proof.MeshNode

/-!
# The relay in small steps (`mesh_relay.cpp`)

`handleFloodCandidate` runs in the receive callback, `processPendingRelays` in the ESP-NOW task on the
other core, and nothing but the `active` flags of the pending slots stands between them. Here both are cut
into steps of one read or one assignment of a slot's field. The dedup table is the callback's own.

* `RelayThreads.step`: the steps of either thread, in any order.
* `call_alone`, `task_alone`: a call, or a round, that nothing comes between is the function as a whole.
-/

namespace Nowde

/-! ## The fields of a slot -/

/-- The fields of a `PendingRelay`, in the order `handleFloodCandidate` assigns them. -/
inductive RelayField
  | active
  | sendTime
  | hop
  | origin
  | seq
  | payload
  | payloadLen
deriving DecidableEq

namespace RelayField

/-- The order of assignment. -/
def index : RelayField → ℕ
  | .active => 0
  | .sendTime => 1
  | .hop => 2
  | .origin => 3
  | .seq => 4
  | .payload => 5
  | .payloadLen => 6

/-- The assignment after this one. -/
def next : RelayField → Option RelayField
  | .active => some .sendTime
  | .sendTime => some .hop
  | .hop => some .origin
  | .origin => some .seq
  | .seq => some .payload
  | .payload => some .payloadLen
  | .payloadLen => none

end RelayField

/-- The inner packet as a call keeps it: clamped to the packet size. -/
def FloodCandidate.kept (c : FloodCandidate) : List UInt8 := c.inner.take mediaSyncSize

/-- The `sendTime` a call draws. -/
def relaySendTime (env : Env) : UInt32 :=
  env.millis + UInt32.ofNat (env.random meshRelayDelayMinMs (meshRelayDelayMaxMs + 1))

/-- One assignment of the scheduling loop. -/
def PendingRelay.write (p : PendingRelay) (env : Env) (c : FloodCandidate) : RelayField → PendingRelay
  | .active => { p with active := true }
  | .sendTime => { p with sendTime := relaySendTime env }
  | .hop => { p with hop := c.hop + 1 }
  | .origin => { p with origin := c.origin }
  | .seq => { p with seq := c.seq }
  | .payload => { p with payload := p.payload.blit c.kept }
  | .payloadLen => { p with payloadLen := UInt8.ofNat c.kept.length }

/-- What a round makes of a slot. -/
def PendingRelay.afterRound (now : UInt32) (p : PendingRelay) : PendingRelay :=
  if p.due now then { p with active := false } else p

/-- What overhearing makes of a slot. -/
def PendingRelay.overheard (c : FloodCandidate) (p : PendingRelay) : PendingRelay :=
  if p.active ∧ p.seq = c.seq ∧ p.origin = c.origin then { p with active := false } else p

/-! ## The two threads -/

/-- Where a call of `handleFloodCandidate` stands: in the loop of `suppressPending`, before the dedup, in
the scan for an idle slot, or before the assignment of a field. -/
inductive CallPoint
  | checkActive (i : Fin maxPendingRelays)
  | checkSeq (i : Fin maxPendingRelays)
  | checkOrigin (i : Fin maxPendingRelays)
  | suppress (i : Fin maxPendingRelays)
  | dedup
  | scan (i : Fin maxPendingRelays)
  | write (i : Fin maxPendingRelays) (f : RelayField)
deriving DecidableEq

/-- Where `processPendingRelays` stands: before it samples `millis()`, before one of the two tests of a
slot, before it clears the flag, or before one of the reads of what it sends. -/
inductive RoundPoint
  | top
  | testActive (i : Fin maxPendingRelays)
  | testDue (i : Fin maxPendingRelays)
  | clear (i : Fin maxPendingRelays)
  | readOrigin (i : Fin maxPendingRelays)
  | readSeq (i : Fin maxPendingRelays)
  | readHop (i : Fin maxPendingRelays)
  | readLen (i : Fin maxPendingRelays)
  | readPayload (i : Fin maxPendingRelays)
  | send (i : Fin maxPendingRelays)
deriving DecidableEq

/-- The locals of `processPendingRelays`. `frame` is what it has copied of the payload, the rest of the
array is not initialised. -/
structure RoundLocals where
  now : UInt32 := 0
  header : MeshRelayHeader := ⟨Mac.zero, 0, 0⟩
  copyLen : UInt8 := 0
  frame : List UInt8 := []

/-- The shared tables, the call under way in the receive callback, and the relay's turn in the task. -/
structure RelayThreads where
  relay : Relay
  call : Option (FloodCandidate × CallPoint) := none
  point : RoundPoint := .top
  locals : RoundLocals := {}

/-- What can happen: the callback gets a frame to look at, or makes its next step, or the task does. The
array `frame` holds `stack` beyond what was copied. -/
inductive RelayEvent
  | candidate (c : FloodCandidate)
  | callback (env : Env)
  | task (env : Env) (stack : List UInt8)

/-- The slot after this one in a loop. -/
def nextSlot (i : Fin maxPendingRelays) : Option (Fin maxPendingRelays) :=
  if h : i.val + 1 < maxPendingRelays then some ⟨i.val + 1, h⟩ else none

namespace RelayThreads

variable (s : RelayThreads)

/-- A slot changes. -/
def setSlot (i : Fin maxPendingRelays) (p : PendingRelay) : RelayThreads :=
  { s with relay := { s.relay with pendingRelays := Function.update s.relay.pendingRelays i p } }

/-- The call goes on, or returns. -/
def callTo (c : FloodCandidate) (point : Option CallPoint) : RelayThreads :=
  { s with call := point.map fun p => (c, p) }

/-- The loop of `suppressPending` after slot `i`. -/
def afterCheck (i : Fin maxPendingRelays) : CallPoint := (nextSlot i).elim .dedup .checkActive

/-- The dedup, and the hop check. -/
def dedup (c : FloodCandidate) : RelayThreads :=
  let (origins, k) := findOrCreateOrigin s.relay.relayOrigins c.origin
  let alreadySeen : Bool := (origins k).valid ∧ (origins k).lastSeq = c.seq
  let relay := { s.relay with
    relayOrigins := Function.update origins k { origins k with valid := true, lastSeq := c.seq } }
  { s with relay := relay }.callTo c
    (if alreadySeen ∨ c.hop + 1 > maxHops then none else some (.scan ⟨0, by decide⟩))

/-- The next step of the callback. -/
def callback (env : Env) : RelayThreads :=
  match s.call with
  | none => s
  -- `suppressPending` makes its three tests in this order, each only if those before it held
  | some (c, .checkActive i) =>
    s.callTo c (some (if (s.relay.pendingRelays i).active then .checkSeq i else afterCheck i))
  | some (c, .checkSeq i) =>
    s.callTo c (some (if (s.relay.pendingRelays i).seq = c.seq then .checkOrigin i else afterCheck i))
  | some (c, .checkOrigin i) =>
    s.callTo c (some (if (s.relay.pendingRelays i).origin = c.origin then .suppress i else afterCheck i))
  | some (c, .suppress i) =>
    (s.setSlot i { s.relay.pendingRelays i with active := false }).callTo c (some (afterCheck i))
  | some (c, .dedup) => s.dedup c
  -- an idle slot is found by one read of its flag, and claimed by a later step
  | some (c, .scan i) =>
    s.callTo c (if (s.relay.pendingRelays i).active then (nextSlot i).map .scan else some (.write i .active))
  | some (c, .write i f) =>
    (s.setSlot i ((s.relay.pendingRelays i).write env c f)).callTo c (f.next.map (.write i))

/-- A frame comes in: the callback is free and the frame is not this node's own. -/
def candidate (c : FloodCandidate) : RelayThreads :=
  if s.call.isSome ∨ c.origin = s.relay.myMacAddress then s
  else s.callTo c (some (if c.isRelay then .checkActive ⟨0, by decide⟩ else .dedup))

/-- The task goes on. -/
def roundTo (point : RoundPoint) (locals : RoundLocals) : RelayThreads := { s with point := point, locals := locals }

/-- The loop of `processPendingRelays` after slot `i`. -/
def afterTest (i : Fin maxPendingRelays) : RoundPoint := (nextSlot i).elim .top .testActive

/-- The next step of the task, with what it sends. -/
def task (env : Env) (stack : List UInt8) : RelayThreads × List (List UInt8) :=
  let l := s.locals
  match s.point with
  | .top => (s.roundTo (.testActive ⟨0, by decide⟩) { l with now := env.millis }, [])
  | .testActive i => (s.roundTo (if (s.relay.pendingRelays i).active then .testDue i else afterTest i) l, [])
  | .testDue i => (s.roundTo (if l.now < (s.relay.pendingRelays i).sendTime then afterTest i else .clear i) l, [])
  -- the flag goes first: from here on the callback takes the slot for idle
  | .clear i => ((s.setSlot i { s.relay.pendingRelays i with active := false }).roundTo (.readOrigin i) l, [])
  | .readOrigin i =>
    (s.roundTo (.readSeq i) { l with header := { l.header with origin := (s.relay.pendingRelays i).origin } }, [])
  | .readSeq i =>
    (s.roundTo (.readHop i) { l with header := { l.header with seq := (s.relay.pendingRelays i).seq } }, [])
  | .readHop i =>
    (s.roundTo (.readLen i) { l with header := { l.header with hop := (s.relay.pendingRelays i).hop } }, [])
  | .readLen i => (s.roundTo (.readPayload i) { l with copyLen := (s.relay.pendingRelays i).payloadLen }, [])
  | .readPayload i =>
    (s.roundTo (.send i) { l with frame := (s.relay.pendingRelays i).payload.bytes.take l.copyLen.toNat }, [])
  -- the length is read again here
  | .send i =>
    (s.roundTo (afterTest i) l,
      [l.header.toFrame ++ (l.frame ++ stack).take (s.relay.pendingRelays i).payloadLen.toNat])

/-- One step of either thread. -/
def step (s : RelayThreads) : RelayEvent → RelayThreads × List (List UInt8)
  | .candidate c => (s.candidate c, [])
  | .callback env => (s.callback env, [])
  | .task env stack => s.task env stack

/-! ## A round alone -/

section Round

variable {s : RelayThreads} (env : Env) (stack : List UInt8)

theorem nextSlot_of_lt {i : ℕ} (hi : i < maxPendingRelays) (h : i + 1 < maxPendingRelays) :
    nextSlot ⟨i, hi⟩ = some ⟨i + 1, h⟩ := dif_pos h

theorem nextSlot_of_ge {i : ℕ} (hi : i < maxPendingRelays) (h : maxPendingRelays ≤ i + 1) :
    nextSlot ⟨i, hi⟩ = none := dif_neg (Nat.not_lt.2 h)

/-- The steps for one slot. -/
theorem run_testSlot {i : Fin maxPendingRelays} (hpoint : s.point = .testActive i)
    (hlen : (s.relay.pendingRelays i).payloadLen.toNat ≤ mediaSyncSize) :
    ∃ (k : ℕ) (t : RelayThreads), Mealy.run step s (List.replicate k (.task env stack)) =
        (t, if (s.relay.pendingRelays i).due s.locals.now then [(s.relay.pendingRelays i).frame] else []) ∧
      t.relay.pendingRelays =
        Function.update s.relay.pendingRelays i ((s.relay.pendingRelays i).afterRound s.locals.now) ∧
      t.relay.relayOrigins = s.relay.relayOrigins ∧ t.relay.myMacAddress = s.relay.myMacAddress ∧
      t.point = afterTest i ∧ t.locals.now = s.locals.now ∧ t.call = s.call := by
  unfold PendingRelay.afterRound
  by_cases hdue : (s.relay.pendingRelays i).due s.locals.now = true
  · rw [if_pos hdue, if_pos hdue]
    have hboth : (s.relay.pendingRelays i).active = true ∧ ¬s.locals.now < (s.relay.pendingRelays i).sendTime := by
      simpa [PendingRelay.due] using hdue
    have hpayload : (((s.relay.pendingRelays i).payload.bytes.take (s.relay.pendingRelays i).payloadLen.toNat) ++
        stack).take (s.relay.pendingRelays i).payloadLen.toNat =
          (s.relay.pendingRelays i).payload.bytes.take (s.relay.pendingRelays i).payloadLen.toNat := by
      have hsize := (s.relay.pendingRelays i).payload.size
      exact List.take_left' (by rw [List.length_take]; exact Nat.min_eq_left (hlen.trans (Nat.le_of_eq hsize.symm)))
    refine ⟨9, _, Prod.ext rfl ?_, ?_⟩
    · simp [List.replicate, step, task, roundTo, setSlot, hpoint, hboth.1, hboth.2, hpayload]
      rfl
    · simp [List.replicate, step, task, roundTo, setSlot, hpoint, hboth.1, hboth.2]
  · rw [if_neg hdue, if_neg hdue]
    cases hactive : (s.relay.pendingRelays i).active with
    | false =>
      refine ⟨1, s.roundTo (afterTest i) s.locals, ?_, ?_⟩
      · simp [step, task, hpoint, hactive]
      · simp [roundTo]
    | true =>
      have hwait : s.locals.now < (s.relay.pendingRelays i).sendTime := by
        simpa [PendingRelay.due, hactive] using hdue
      refine ⟨2, s.roundTo (afterTest i) s.locals, ?_, ?_⟩
      · simp [List.replicate, step, task, hpoint, hactive, roundTo, hwait]
      · simp [roundTo]

/-- The loop of `processPendingRelays`, from one slot on. -/
theorem run_testSlots {m i : ℕ} (hi : i < maxPendingRelays) (hm : i + m = maxPendingRelays)
    (hpoint : s.point = .testActive ⟨i, hi⟩)
    (hlen : ∀ j, (s.relay.pendingRelays j).payloadLen.toNat ≤ mediaSyncSize) :
    ∃ (k : ℕ) (t : RelayThreads), Mealy.run step s (List.replicate k (.task env stack)) =
        (t, Slots.collectFrom i s.relay.pendingRelays fun p => if p.due s.locals.now then some p.frame else none) ∧
      t.relay.pendingRelays = Slots.mapFrom i (PendingRelay.afterRound s.locals.now) s.relay.pendingRelays ∧
      t.relay.relayOrigins = s.relay.relayOrigins ∧ t.relay.myMacAddress = s.relay.myMacAddress ∧
      t.point = .top ∧ t.call = s.call := by
  -- on the slots left
  induction m generalizing s i with
  | zero => omega
  | succ m ih =>
    obtain ⟨k, t, hrun, hslot, horigins, hmac, hat, hnow, hcall⟩ := run_testSlot env stack hpoint (hlen _)
    have hfirst : (if (s.relay.pendingRelays ⟨i, hi⟩).due s.locals.now then some (s.relay.pendingRelays ⟨i, hi⟩).frame
        else none).toList =
          if (s.relay.pendingRelays ⟨i, hi⟩).due s.locals.now then [(s.relay.pendingRelays ⟨i, hi⟩).frame] else [] := by
      split <;> rfl
    rw [Slots.collectFrom_of_lt hi, hfirst]
    by_cases hnext : i + 1 < maxPendingRelays
    · -- one slot, then the rest of the loop
      have hpoint' : t.point = .testActive ⟨i + 1, hnext⟩ := by
        rw [hat, afterTest, nextSlot_of_lt hi hnext]
        rfl
      have hlen' : ∀ j, (t.relay.pendingRelays j).payloadLen.toNat ≤ mediaSyncSize := by
        intro j
        rw [hslot]
        by_cases hj : j = ⟨i, hi⟩
        · subst hj
          rw [Function.update_self, PendingRelay.afterRound]
          split <;> exact hlen _
        · rw [Function.update_of_ne hj]
          exact hlen j
      obtain ⟨k', t', hrun', hslot', horigins', hmac', hat', hcall'⟩ := ih hnext (by omega) hpoint' hlen'
      refine ⟨k + k', t', ?_, ?_, horigins'.trans horigins, hmac'.trans hmac, hat', hcall'.trans hcall⟩
      · rw [List.replicate_add, Mealy.run_append, hrun, hrun', hslot, hnow, Slots.collectFrom_update hi]
      · rw [hslot', hslot, hnow, Slots.mapFrom_update hi]
    · have hend : maxPendingRelays ≤ i + 1 := Nat.not_lt.1 hnext
      refine ⟨k, t, ?_, ?_, horigins, hmac, ?_, hcall⟩
      · rw [hrun, Slots.collectFrom_of_le hend, List.append_nil]
      · rw [hslot, ← Slots.mapFrom_update hi, Slots.mapFrom_of_le hend]
      · rw [hat, afterTest, nextSlot_of_ge hi hend]
        rfl

/-- **A round that nothing comes between** is `processPendingRelays`. -/
theorem task_alone (hpoint : s.point = .top)
    (hlen : ∀ j, (s.relay.pendingRelays j).payloadLen.toNat ≤ mediaSyncSize) :
    ∃ (k : ℕ) (t : RelayThreads), Mealy.run step s (List.replicate k (.task env stack)) =
        (t, (processPendingRelays env.millis s.relay).2) ∧
      t.relay = (processPendingRelays env.millis s.relay).1 ∧ t.point = .top ∧ t.call = s.call := by
  have htop : step s (.task env stack) =
      (s.roundTo (.testActive ⟨0, by decide⟩) { s.locals with now := env.millis }, []) := by
    simp only [step, task, hpoint]
  obtain ⟨k, t, hrun, hslot, horigins, hmac, hat, hcall⟩ :=
    @run_testSlots (s.roundTo (.testActive ⟨0, by decide⟩) { s.locals with now := env.millis }) env stack
      maxPendingRelays 0 (by decide) (Nat.zero_add _) rfl hlen
  refine ⟨1 + k, t, ?_, ?_, hat, hcall⟩
  · rw [List.replicate_add, List.replicate_one, List.singleton_append, Mealy.run_cons, htop]
    dsimp only
    rw [hrun]
    rfl
  · have hfields : t.relay = ⟨t.relay.myMacAddress, t.relay.relayOrigins, t.relay.pendingRelays⟩ := rfl
    rw [hfields, hslot, horigins, hmac, Slots.mapFrom_zero]
    rfl

end Round

/-! ## A call alone -/

section Call

variable {s : RelayThreads} {c : FloodCandidate} (env : Env)

/-- The steps of `suppressPending` for one slot. -/
theorem run_checkSlot {i : Fin maxPendingRelays} (hcall : s.call = some (c, .checkActive i)) :
    ∃ k : ℕ, Mealy.run step s (List.replicate k (.callback env)) =
      ((s.setSlot i ((s.relay.pendingRelays i).overheard c)).callTo c (some (afterCheck i)), []) := by
  have hsame : s.setSlot i (s.relay.pendingRelays i) = s := by
    unfold setSlot
    rw [Function.update_eq_self]
  unfold PendingRelay.overheard
  by_cases hactive : (s.relay.pendingRelays i).active = true
  · by_cases hseq : (s.relay.pendingRelays i).seq = c.seq
    · by_cases horigin : (s.relay.pendingRelays i).origin = c.origin
      · refine ⟨4, ?_⟩
        rw [if_pos ⟨hactive, hseq, horigin⟩]
        simp [List.replicate, step, callback, callTo, setSlot, hcall, hactive, hseq, horigin]
      · refine ⟨3, ?_⟩
        rw [if_neg fun h => horigin h.2.2, hsame]
        simp [List.replicate, step, callback, callTo, hcall, hactive, hseq, horigin]
    · refine ⟨2, ?_⟩
      rw [if_neg fun h => hseq h.2.1, hsame]
      simp [List.replicate, step, callback, callTo, hcall, hactive, hseq]
  · refine ⟨1, ?_⟩
    rw [if_neg fun h => hactive h.1, hsame]
    simp [step, callback, callTo, hcall, hactive]

/-- The loop of `suppressPending`, from one slot on. -/
theorem run_checkSlots {m i : ℕ} (hi : i < maxPendingRelays) (hm : i + m = maxPendingRelays)
    (hcall : s.call = some (c, .checkActive ⟨i, hi⟩)) :
    ∃ k : ℕ, Mealy.run step s (List.replicate k (.callback env)) =
      (({ s with relay := { s.relay with
          pendingRelays := Slots.mapFrom i (PendingRelay.overheard c) s.relay.pendingRelays } } : RelayThreads).callTo c
            (some .dedup), []) := by
  induction m generalizing s i with
  | zero => omega
  | succ m ih =>
    obtain ⟨k, hrun⟩ := run_checkSlot env hcall
    by_cases hnext : i + 1 < maxPendingRelays
    · rw [afterCheck, nextSlot_of_lt hi hnext] at hrun
      obtain ⟨k', hrun'⟩ := ih (s := (s.setSlot ⟨i, hi⟩ ((s.relay.pendingRelays ⟨i, hi⟩).overheard c)).callTo c
        (some (.checkActive ⟨i + 1, hnext⟩))) hnext (by omega) rfl
      refine ⟨k + k', ?_⟩
      rw [List.replicate_add, Mealy.run_append, hrun]
      dsimp only [Option.elim_some]
      rw [hrun']
      simp only [setSlot, callTo, List.append_nil]
      rw [Slots.mapFrom_update hi]
    · have hend : maxPendingRelays ≤ i + 1 := Nat.not_lt.1 hnext
      refine ⟨k, ?_⟩
      rw [hrun, afterCheck, nextSlot_of_ge hi hend, ← Slots.mapFrom_update hi, Slots.mapFrom_of_le hend]
      rfl

/-- The scan for an idle slot, from one slot on. -/
theorem run_scan {m i : ℕ} (hi : i < maxPendingRelays) (hm : i + m = maxPendingRelays)
    (hcall : s.call = some (c, .scan ⟨i, hi⟩)) :
    ∃ k : ℕ, Mealy.run step s (List.replicate k (.callback env)) =
      (s.callTo c ((((List.finRange maxPendingRelays).drop i).find? fun j => !(s.relay.pendingRelays j).active).map
        fun j => .write j .active), []) := by
  induction m generalizing s i with
  | zero => omega
  | succ m ih =>
    have hdrop : (List.finRange maxPendingRelays).drop i =
        ⟨i, hi⟩ :: (List.finRange maxPendingRelays).drop (i + 1) := by
      rw [List.drop_eq_getElem_cons (by simpa using hi), List.getElem_finRange]
      rfl
    rw [hdrop]
    cases hactive : (s.relay.pendingRelays ⟨i, hi⟩).active with
    | false =>
      refine ⟨1, ?_⟩
      rw [List.find?_cons_of_pos (by simp [hactive])]
      simp [step, callback, hcall, hactive]
    | true =>
      rw [List.find?_cons_of_neg (by simp [hactive])]
      by_cases hnext : i + 1 < maxPendingRelays
      · obtain ⟨k, hrun⟩ := ih (s := s.callTo c (some (.scan ⟨i + 1, hnext⟩))) hnext (by omega) rfl
        refine ⟨1 + k, ?_⟩
        have hstep : step s (.callback env) = (s.callTo c (some (.scan ⟨i + 1, hnext⟩)), []) := by
          simp [step, callback, hcall, hactive, nextSlot_of_lt hi hnext]
        rw [List.replicate_add, List.replicate_one, List.singleton_append, Mealy.run_cons, hstep]
        dsimp only
        rw [hrun]
        rfl
      · have hend : maxPendingRelays ≤ i + 1 := Nat.not_lt.1 hnext
        refine ⟨1, ?_⟩
        rw [List.drop_eq_nil_of_le (by simpa using hend), List.find?_nil]
        simp [step, callback, hcall, hactive, nextSlot_of_ge hi hend]

/-- The assignments. -/
theorem run_write {i : Fin maxPendingRelays} (hcall : s.call = some (c, .write i .active)) :
    Mealy.run step s (List.replicate 7 (.callback env)) =
      ((s.setSlot i (c.forward env (s.relay.pendingRelays i))).callTo c none, []) := by
  simp [List.replicate, step, callback, callTo, setSlot, hcall, RelayField.next, PendingRelay.write]
  rfl

/-- The call after its dedup: it returns, or a forward goes into the first idle slot. -/
theorem run_schedule {point : Option CallPoint} (hcall : s.call = point.map fun p => (c, p))
    (hpoint : point = none ∨ point = some (.scan ⟨0, by decide⟩)) :
    ∃ (k : ℕ) (t : RelayThreads), Mealy.run step s (List.replicate k (.callback env)) = (t, []) ∧
      t.relay = (if point = none then s.relay
        else { s.relay with
          pendingRelays := scheduleForward env s.relay.pendingRelays c.origin c.seq (c.hop + 1) c.kept }) ∧
      t.call = none ∧ t.point = s.point ∧ t.locals = s.locals := by
  rcases hpoint with rfl | rfl
  · exact ⟨0, s, rfl, rfl, hcall, rfl, rfl⟩
  · obtain ⟨k, hrun⟩ := run_scan env (by decide : 0 < maxPendingRelays) (Nat.zero_add _) hcall
    rw [List.drop_zero] at hrun
    rw [if_neg (by simp)]
    unfold scheduleForward Slots.find
    cases hfree : (List.finRange maxPendingRelays).find? fun j => !(s.relay.pendingRelays j).active with
    | none =>
      rw [hfree] at hrun
      exact ⟨k, _, hrun, rfl, rfl, rfl, rfl⟩
    | some j =>
      rw [hfree] at hrun
      refine ⟨k + 7, (s.setSlot j (c.forward env (s.relay.pendingRelays j))).callTo c none, ?_, rfl, rfl, rfl, rfl⟩
      rw [List.replicate_add, Mealy.run_append, hrun]
      dsimp only [Option.map_some]
      rw [run_write env rfl]
      rfl

/-- The call up to its dedup: overhearing first. -/
theorem run_overheard (hidle : s.call = none) (hself : c.origin ≠ s.relay.myMacAddress) :
    ∃ k : ℕ, Mealy.run step s (.candidate c :: List.replicate k (.callback env)) =
      (({ s with relay := { s.relay with pendingRelays := c.suppressed s.relay.pendingRelays } } :
        RelayThreads).callTo c (some .dedup), []) := by
  have hstart : step s (.candidate c) =
      (s.callTo c (some (if c.isRelay then .checkActive ⟨0, by decide⟩ else .dedup)), []) := by
    have hfree : ¬(s.call.isSome = true ∨ c.origin = s.relay.myMacAddress) := by simp [hidle, hself]
    exact Prod.ext (if_neg hfree) rfl
  unfold FloodCandidate.suppressed
  by_cases hrelay : c.isRelay = true
  · rw [if_pos hrelay] at hstart
    rw [if_pos hrelay]
    obtain ⟨k, hrun⟩ := @run_checkSlots (s.callTo c (some (.checkActive ⟨0, by decide⟩))) c env maxPendingRelays 0
      (by decide) (Nat.zero_add _) rfl
    refine ⟨k, ?_⟩
    rw [Mealy.run_cons, hstart]
    dsimp only
    rw [hrun, Slots.mapFrom_zero]
    rfl
  · rw [if_neg hrelay] at hstart
    rw [if_neg hrelay]
    exact ⟨0, by rw [List.replicate_zero, Mealy.run_cons, hstart]; rfl⟩

/-- **A call that nothing comes between** is `handleFloodCandidate`. -/
theorem call_alone (hidle : s.call = none) (c : FloodCandidate) :
    ∃ (k : ℕ) (t : RelayThreads), Mealy.run step s (.candidate c :: List.replicate k (.callback env)) = (t, []) ∧
      t.relay = c.handle env s.relay ∧ t.call = none ∧ t.point = s.point ∧ t.locals = s.locals := by
  by_cases hself : c.origin = s.relay.myMacAddress
  · refine ⟨0, s, ?_, ?_, hidle, rfl, rfl⟩
    · simp [step, candidate, hself]
    · unfold FloodCandidate.handle handleFloodCandidate
      rw [if_pos hself]
  · obtain ⟨k, hrun⟩ := run_overheard env hidle hself
    -- then the dedup, and the forward if it is new
    let found := findOrCreateOrigin s.relay.relayOrigins c.origin
    let alreadySeen : Bool := (found.1 found.2).valid ∧ (found.1 found.2).lastSeq = c.seq
    let relay : Relay := { s.relay with
      pendingRelays := c.suppressed s.relay.pendingRelays
      relayOrigins := Function.update found.1 found.2 { found.1 found.2 with valid := true, lastSeq := c.seq } }
    let point : Option CallPoint := if alreadySeen ∨ c.hop + 1 > maxHops then none else some (.scan ⟨0, by decide⟩)
    obtain ⟨k', t, hrun', hrelay, hdone, hround, hlocals⟩ :=
      @run_schedule (({ s with relay := relay } : RelayThreads).callTo c point) c env point rfl
        (by unfold point; split <;> simp)
    refine ⟨k + (1 + k'), t, ?_, ?_, hdone, hround, hlocals⟩
    · rw [List.replicate_add, ← List.cons_append, Mealy.run_append, hrun, List.replicate_add, List.replicate_one,
        List.singleton_append, Mealy.run_cons]
      have hstep : step ((({ s with relay := { s.relay with pendingRelays := c.suppressed s.relay.pendingRelays } } :
          RelayThreads).callTo c (some .dedup))) (.callback env) =
            (({ s with relay := relay } : RelayThreads).callTo c point, []) := rfl
      rw [hstep]
      dsimp only
      rw [hrun']
      rfl
    · rw [hrelay]
      unfold FloodCandidate.handle handleFloodCandidate
      rw [if_neg hself]
      dsimp only
      by_cases hseen : alreadySeen = true
      · have hpoint : point = none := if_pos (Or.inl hseen)
        rw [if_pos hpoint, if_pos hseen]
        rfl
      · by_cases hfar : c.hop + 1 > maxHops
        · have hpoint : point = none := if_pos (Or.inr hfar)
          rw [if_pos hpoint, if_neg hseen, if_pos hfar]
          rfl
        · have hpoint : point ≠ none := by
            have hscan : point = some (.scan ⟨0, by decide⟩) := if_neg (not_or.2 ⟨hseen, hfar⟩)
            rw [hscan]
            exact Option.some_ne_none _
          rw [if_neg hpoint, if_neg hseen, if_neg hfar]
          rfl

end Call

end RelayThreads

end Nowde
