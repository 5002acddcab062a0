import Nowde.Lib.Ledger
import Nowde.Lib.Run
import Nowde.Proof.RelaySteps

/-!
# Forwards from the callback to the task (`mesh_relay.cpp`)

A call that has made its last assignment leaves a `Forward` in its slot. `Handover` runs the two threads
beside a ledger of these forwards and notes when each frame was sent.

* `WholePackets`: every frame is one forward, whole and not before its time, none goes out twice and none
  is lost.
* `wholePackets_of_handsOff`: that holds in every state of every interleaving in which the task never
  picks a slot that is being filled, and the callback changes nothing the task has picked and still has to
  read.
* `overtaken_lost`: `active` is set before the fields, so the task may send a slot before it is filled. The
  forward that was to be sent is lost.
-/

namespace Nowde

/-! ## Forwards -/

/-- What a completed call leaves to be sent. -/
structure Forward where
  origin : Mac
  seq : UInt16
  hop : UInt8
  payload : List UInt8
  sendTime : UInt32
deriving DecidableEq

/-- The `0x05` frame that carries it. -/
def Forward.frame (x : Forward) : List UInt8 := MeshRelayHeader.toFrame ⟨x.origin, x.seq, x.hop⟩ ++ x.payload

/-- The forward of a call that has drawn its `sendTime`. -/
def FloodCandidate.toForward (c : FloodCandidate) (drawn : UInt32) : Forward :=
  ⟨c.origin, c.seq, c.hop + 1, c.kept, drawn⟩

theorem FloodCandidate.length_kept (c : FloodCandidate) : c.kept.length ≤ mediaSyncSize := List.length_take_le _ _

/-- A slot has the forward's value in this field. The flag is not part of a forward. -/
def RelayField.Agrees (p : PendingRelay) (x : Forward) : RelayField → Prop
  | .active => True
  | .sendTime => p.sendTime = x.sendTime
  | .hop => p.hop = x.hop
  | .origin => p.origin = x.origin
  | .seq => p.seq = x.seq
  | .payload => p.payload.bytes.take x.payload.length = x.payload
  | .payloadLen => p.payloadLen = UInt8.ofNat x.payload.length

section Agrees

variable {p : PendingRelay} {x : Forward} {f g : RelayField} {env : Env} {c : FloodCandidate} {drawn : UInt32}

/-- The flag does not matter. -/
theorem RelayField.agrees_active (b : Bool) : g.Agrees { p with active := b } x ↔ g.Agrees p x := by
  cases g <;> rfl

/-- An assignment leaves the other fields. -/
theorem RelayField.agrees_write_of_ne (h : g ≠ f) : g.Agrees (p.write env c f) x ↔ g.Agrees p x := by
  cases f <;> cases g <;> first | exact absurd rfl h | rfl

/-- Copying a packet into a slot's array makes it the start of the array. -/
theorem CharBuf.take_blit {n : ℕ} (b : CharBuf n) {src : List UInt8} (h : src.length ≤ n) :
    (b.blit src).bytes.take src.length = src := by
  unfold CharBuf.blit
  dsimp only
  rw [List.take_of_length_le h, List.take_left' rfl]

/-- An assignment makes its field the call's. -/
theorem RelayField.agrees_write_self (hdrawn : f = .sendTime → drawn = relaySendTime env) :
    f.Agrees (p.write env c f) (c.toForward drawn) := by
  cases f with
  | active => trivial
  | sendTime => exact (hdrawn rfl).symm
  | hop => rfl
  | origin => rfl
  | seq => rfl
  | payload => exact CharBuf.take_blit _ c.length_kept
  | payloadLen => rfl

/-- What is drawn matters to the `sendTime` only. -/
theorem RelayField.agrees_drawn (h : f ≠ .sendTime) (d : UInt32) :
    f.Agrees p (c.toForward drawn) ↔ f.Agrees p (c.toForward d) := by
  cases f <;> first | exact absurd rfl h | rfl

/-- The length as the slot keeps it. -/
theorem RelayField.toNat_payloadLen {l : UInt8} (hlen : x.payload.length ≤ mediaSyncSize)
    (h : l = UInt8.ofNat x.payload.length) : l.toNat = x.payload.length := by
  rw [h, UInt8.toNat_ofNat']
  exact Nat.mod_eq_of_lt (hlen.trans_lt (by decide))

/-- **A slot that agrees in every field** sends the forward. -/
theorem PendingRelay.frame_of_agrees (hlen : x.payload.length ≤ mediaSyncSize) (h : ∀ f, RelayField.Agrees p x f) :
    p.frame = x.frame := by
  have hpayload := h .payload
  have hcount := RelayField.toNat_payloadLen hlen (h .payloadLen)
  unfold PendingRelay.frame Forward.frame
  rw [h .origin, h .seq, h .hop, hcount, hpayload]

end Agrees

/-! ## The machine with its ledger -/

/-- The two threads, the forwards so far and the `sendTime` the call under way has drawn. `carried` is the
forward the task has picked and not sent yet, `sent` the frames, each with the `millis()` of its round. -/
structure Handover where
  threads : RelayThreads
  ledger : Ledger maxPendingRelays Forward := {}
  drawn : UInt32 := 0
  carried : Option ℕ := none
  sent : List (UInt32 × List UInt8) := []

namespace Handover

/-- Slot `i`. -/
def slot (h : Handover) (i : Fin maxPendingRelays) : PendingRelay := h.threads.relay.pendingRelays i

/-- What an event is to the forwards: a call's last assignment makes a new one, overhearing cancels one, and
the task takes one with the flag. -/
def note (h : Handover) : RelayEvent → Handover
  | .candidate _ => h
  | .callback env =>
    match h.threads.call with
    -- a slot the task has taken already has nothing left to cancel
    | some (_, .suppress i) => { h with ledger := h.ledger.cancel i }
    | some (_, .write _ .sendTime) => { h with drawn := relaySendTime env }
    | some (c, .write i .payloadLen) => { h with ledger := h.ledger.put i (c.toForward h.drawn) }
    | _ => h
  | .task _ _ =>
    match h.threads.point with
    | .clear i => { h with ledger := h.ledger.take i, carried := h.ledger.holder i }
    | .send _ => { h with carried := none }
    | _ => h

/-- A step of either thread, noted. -/
def step (h : Handover) (e : RelayEvent) : Handover × List (List UInt8) :=
  let (threads, frames) := h.threads.step e
  let sent := h.sent ++ frames.map fun frame => (h.threads.locals.now, frame)
  ({ h.note e with threads := threads, sent := sent }, frames)

/-- A node that has booted. -/
def start (mac : Mac) : Handover := { threads := { relay := { myMacAddress := mac } } }

/-! ## Whole packets -/

/-- A frame is the forward with that number, sent in a round at or after its `sendTime`. -/
def Carries (issued : List Forward) (sent : UInt32 × List UInt8) (number : ℕ) : Prop :=
  ∃ x ∈ issued[number]?, sent.2 = x.frame ∧ x.sendTime ≤ sent.1

/-- An active slot has the forward with that number, to be sent at its time. -/
def Pending (h : Handover) (number : ℕ) : Prop :=
  ∃ i, number ∈ h.ledger.holder i ∧ (h.slot i).active = true ∧
    ∃ x ∈ h.ledger.issued[number]?, (h.slot i).frame = x.frame ∧ (h.slot i).sendTime = x.sendTime

/-- **Slots hand over whole packets.** The frames sent are the forwards taken, in that order, up to the one
on its way; none is taken twice; and every forward is pending, taken or cancelled. -/
structure WholePackets (h : Handover) : Prop where
  sent : ∃ numbers, h.ledger.taken = numbers ++ h.carried.toList ∧
    List.Forall₂ (Carries h.ledger.issued) h.sent numbers
  once : h.ledger.taken.Nodup
  accounted : ∀ number < h.ledger.issued.length,
    h.Pending number ∨ number ∈ h.ledger.taken ∨ number ∈ h.ledger.cancelled

end Handover

/-! ## The condition -/

/-- The call has set the flag of slot `i` and not yet made its last assignment. -/
def CallPoint.fills (i : Fin maxPendingRelays) : CallPoint → Bool
  | .write j f => i = j ∧ f ≠ .active
  | _ => false

/-- Slot `i` is being filled. -/
def Filling (call : Option (FloodCandidate × CallPoint)) (i : Fin maxPendingRelays) : Prop :=
  ∃ under ∈ call, under.2.fills i = true

instance (call : Option (FloodCandidate × CallPoint)) (i : Fin maxPendingRelays) : Decidable (Filling call i) :=
  inferInstanceAs (Decidable (∃ under ∈ call, under.2.fills i = true))

namespace RoundPoint

/-- The slot the task has picked. -/
def picked : RoundPoint → Option (Fin maxPendingRelays)
  | .top => none
  | .testActive _ => none
  | .testDue _ => none
  | .clear i => some i
  | .readOrigin i => some i
  | .readSeq i => some i
  | .readHop i => some i
  | .readLen i => some i
  | .readPayload i => some i
  | .send i => some i

/-- The fields the task has still to read in it, or, for the flag, to write. -/
def toRead : RoundPoint → List RelayField
  | .top => []
  | .testActive _ => []
  | .testDue _ => []
  | .clear _ => [.active, .origin, .seq, .hop, .payload, .payloadLen]
  | .readOrigin _ => [.origin, .seq, .hop, .payload, .payloadLen]
  | .readSeq _ => [.seq, .hop, .payload, .payloadLen]
  | .readHop _ => [.hop, .payload, .payloadLen]
  | .readLen _ => [.payload, .payloadLen]
  | .readPayload _ => [.payload, .payloadLen]
  | .send _ => [.payloadLen]

end RoundPoint

/-- **The condition on a step.** The task does not pick a slot that is being filled, and the callback makes
no assignment that changes what the task has picked and still has to read. -/
def RelayThreads.HandsOff (s : RelayThreads) : RelayEvent → Prop
  | .candidate _ => True
  | .callback env => ∀ call ∈ s.call, ∀ i ∈ s.point.picked, ∀ f ∈ s.point.toRead,
      call.2 = .write i f → (s.relay.pendingRelays i).write env call.1 f = s.relay.pendingRelays i
  | .task _ _ => ∀ i, s.point = .testDue i → Filling s.call i → s.locals.now < (s.relay.pendingRelays i).sendTime

instance (s : RelayThreads) : ∀ e, Decidable (s.HandsOff e)
  | .candidate _ => inferInstanceAs (Decidable True)
  | .callback env => inferInstanceAs (Decidable (∀ call ∈ s.call, ∀ i ∈ s.point.picked, ∀ f ∈ s.point.toRead,
      call.2 = .write i f → (s.relay.pendingRelays i).write env call.1 f = s.relay.pendingRelays i))
  | .task _ _ => inferInstanceAs (Decidable (∀ i, s.point = .testDue i → Filling s.call i →
      s.locals.now < (s.relay.pendingRelays i).sendTime))

/-! ## The slots beside the ledger -/

section Filling

variable {c : FloodCandidate} {i j : Fin maxPendingRelays} {f : RelayField}

theorem filling_none : ¬Filling none i := by
  rintro ⟨_, h, _⟩
  cases h

theorem filling_some {point : CallPoint} : Filling (some (c, point)) i ↔ point.fills i = true := by
  constructor
  · rintro ⟨_, hmem, h⟩
    cases hmem
    exact h
  · exact fun h => ⟨_, rfl, h⟩

theorem filling_write : Filling (some (c, .write i f)) j ↔ j = i ∧ f ≠ .active := by
  rw [filling_some]
  exact decide_eq_true_iff

theorem not_filling_of_ne_write {point : CallPoint} (h : ∀ j f, point ≠ .write j f) : ¬Filling (some (c, point)) i := by
  rw [filling_some]
  cases point with
  | write j f => exact absurd rfl (h j f)
  | _ => exact Bool.false_ne_true

theorem afterCheck_ne_write (j : Fin maxPendingRelays) (f : RelayField) : RelayThreads.afterCheck i ≠ .write j f := by
  unfold RelayThreads.afterCheck
  cases nextSlot i <;> exact CallPoint.noConfusion

/-- A test of `suppressPending` leads to the next one, or to the next slot. -/
theorem checked_ne_write {p : Prop} [Decidable p] {next : CallPoint} (hnext : ∀ j f, next ≠ .write j f)
    (j : Fin maxPendingRelays) (f : RelayField) :
    (if p then next else RelayThreads.afterCheck i) ≠ .write j f := by
  split
  · exact hnext j f
  · exact afterCheck_ne_write j f

theorem RelayField.index_injective : Function.Injective RelayField.index := by
  intro f g h
  cases f <;> cases g <;> first | rfl | cases h

/-- The next assignment is the one after this in the order. -/
theorem RelayField.index_next {g : RelayField} (h : f.next = some g) : g.index = f.index + 1 := by
  cases f <;> cases h <;> rfl

end Filling

/-- **A slot beside the ledger.** Unless it is being filled it has the forward the ledger says, all of it;
what it still holds while idle, or while it is being filled, was cancelled. -/
structure Mailbox (p : PendingRelay) (filling : Prop) (L : Ledger maxPendingRelays Forward)
    (i : Fin maxPendingRelays) : Prop where
  content : ¬filling → ∀ x ∈ L.item i, ∀ f, RelayField.Agrees p x f
  held : ¬filling → p.active = true → (L.holder i).isSome
  free : p.active = false ∨ filling → ∀ a ∈ L.holder i, a ∈ L.cancelled

/-- What happens to other slots does not matter. -/
theorem Mailbox.frame {p : PendingRelay} {filling filling' : Prop} {L L' : Ledger maxPendingRelays Forward}
    {i : Fin maxPendingRelays} (h : Mailbox p filling L i) (hfill : filling' ↔ filling)
    (hholder : L'.holder i = L.holder i) (hitem : L'.item i = L.item i)
    (hcancelled : ∀ a ∈ L.cancelled, a ∈ L'.cancelled) : Mailbox p filling' L' i where
  content hno := by
    rw [hitem]
    exact h.content (hfill.not.1 hno)
  held hno := by
    rw [hholder]
    exact h.held (hfill.not.1 hno)
  free hidle a ha := by
    rw [hholder] at ha
    exact hcancelled a (h.free (hidle.imp_right hfill.1) a ha)

/-- **The slots and the call under way**: it has filled the fields it is past, and claims idle slots. -/
structure Mailboxes (t : Fin maxPendingRelays → PendingRelay) (call : Option (FloodCandidate × CallPoint))
    (L : Ledger maxPendingRelays Forward) (drawn : UInt32) : Prop where
  wf : L.WF
  short : ∀ x ∈ L.issued, x.payload.length ≤ mediaSyncSize
  slot : ∀ i, Mailbox (t i) (Filling call i) L i
  filled : ∀ c i f, call = some (c, .write i f) → f ≠ .active →
    (t i).active = true ∧ ∀ g : RelayField, g.index < f.index → g.Agrees (t i) (c.toForward drawn)
  claimed : ∀ c i, call = some (c, .write i .active) → (t i).active = false

namespace Mailboxes

variable {t : Fin maxPendingRelays → PendingRelay} {call call' : Option (FloodCandidate × CallPoint)}
  {L : Ledger maxPendingRelays Forward} {drawn : UInt32} {c : FloodCandidate} {i : Fin maxPendingRelays}

/-- The callback goes on between calls' assignments. -/
theorem move (h : Mailboxes t call L drawn) (hbefore : ∀ i, ¬Filling call i) (hafter : ∀ i, ¬Filling call' i)
    (hclaimed : ∀ c i, call' = some (c, .write i .active) → (t i).active = false) :
    Mailboxes t call' L drawn where
  wf := h.wf
  short := h.short
  slot i := (h.slot i).frame (iff_of_false (hafter i) (hbefore i)) rfl rfl fun _ ha => ha
  filled c i f hcall hf := by
    subst hcall
    exact absurd (filling_write.2 ⟨rfl, hf⟩) (hafter i)
  claimed := hclaimed

/-- Overhearing cancels what the slot holds. -/
theorem suppress (h : Mailboxes t (some (c, .suppress i)) L drawn) :
    Mailboxes (Function.update t i { t i with active := false }) (some (c, RelayThreads.afterCheck i)) (L.cancel i)
      drawn := by
  have hbefore : ∀ j, ¬Filling (some (c, .suppress i)) j := fun j =>
    not_filling_of_ne_write fun _ _ => CallPoint.noConfusion
  have hafter : ∀ j, ¬Filling (some (c, RelayThreads.afterCheck i)) j := fun j =>
    not_filling_of_ne_write afterCheck_ne_write
  have hnowrite : ∀ c' j f, some (c, RelayThreads.afterCheck i) ≠ some (c', .write j f) := fun c' j f hcall =>
    afterCheck_ne_write j f (Prod.mk.inj (Option.some.inj hcall)).2
  refine ⟨Ledger.cancel_wf h.wf i, h.short, fun j => ?_, ?_, ?_⟩
  · by_cases hji : j = i
    · subst hji
      rw [Function.update_self]
      refine ⟨fun _ x hx f => ?_, fun _ hactive => absurd hactive Bool.false_ne_true, fun _ a ha => ?_⟩
      · exact (RelayField.agrees_active false).2 ((h.slot j).content (hbefore j) x hx f)
      · exact List.mem_append_right _ (Option.mem_toList.2 ha)
    · rw [Function.update_of_ne hji]
      exact (h.slot j).frame (iff_of_false (hafter j) (hbefore j)) rfl rfl fun _ ha => List.mem_append_left _ ha
  · intro c' j f hcall
    exact absurd hcall (hnowrite c' j f)
  · intro c' j hcall
    exact absurd hcall (hnowrite c' j .active)

/-- The task takes what the slot holds. -/
theorem clear (h : Mailboxes t call L drawn) (hfill : ¬Filling call i) :
    Mailboxes (Function.update t i { t i with active := false }) call (L.take i) drawn := by
  have hother : ∀ c j f, call = some (c, .write j f) → f ≠ .active → j ≠ i := by
    rintro c j f rfl hf rfl
    exact hfill (filling_write.2 ⟨rfl, hf⟩)
  refine ⟨Ledger.take_wf h.wf i, h.short, fun j => ?_, ?_, ?_⟩
  · by_cases hji : j = i
    · -- nothing is left in the slot
      subst hji
      rw [Function.update_self]
      refine ⟨fun _ x hx => ?_, fun _ hactive => absurd hactive Bool.false_ne_true, fun _ a ha => ?_⟩
      · obtain ⟨a, ha, -⟩ := Ledger.mem_item.1 hx
        exact absurd rfl (Ledger.mem_take_holder ha).1
      · exact absurd rfl (Ledger.mem_take_holder ha).1
    · rw [Function.update_of_ne hji]
      exact (h.slot j).frame Iff.rfl (Ledger.take_holder_of_ne hji) (Ledger.take_item_of_ne hji) fun _ ha => ha
  · intro c j f hcall hf
    rw [Function.update_of_ne (hother c j f hcall hf)]
    exact h.filled c j f hcall hf
  · intro c j hcall
    by_cases hji : j = i
    · subst hji
      rw [Function.update_self]
    · rw [Function.update_of_ne hji]
      exact h.claimed c j hcall

variable {f g : RelayField} (env : Env)

/-- What the slot of an assignment holds was cancelled. -/
theorem free_write (h : Mailboxes t (some (c, .write i f)) L drawn) : ∀ a ∈ L.holder i, a ∈ L.cancelled := by
  by_cases hf : f = .active
  · subst hf
    exact (h.slot i).free (Or.inl (h.claimed c i rfl))
  · exact (h.slot i).free (Or.inr (filling_write.2 ⟨rfl, hf⟩))

/-- **The assignment of a field** puts it with those that are filled. -/
theorem filled_write (h : Mailboxes t (some (c, .write i f)) L drawn) {d : UInt32}
    (hdrawn : d = if f = .sendTime then relaySendTime env else drawn) :
    ((t i).write env c f).active = true ∧
      ∀ g : RelayField, g.index ≤ f.index → g.Agrees ((t i).write env c f) (c.toForward d) := by
  constructor
  · by_cases hf : f = .active
    · subst hf
      rfl
    · have hactive := (h.filled c i f rfl hf).1
      cases f <;> first | exact absurd rfl hf | exact hactive
  · intro g hg
    by_cases hgf : g = f
    · subst hgf
      exact RelayField.agrees_write_self fun hsend => by rw [hdrawn, if_pos hsend]
    · have hlt : g.index < f.index := Nat.lt_of_le_of_ne hg fun heq => hgf (RelayField.index_injective heq)
      have hf : f ≠ .active := by
        rintro rfl
        exact Nat.not_lt_zero _ hlt
      have hold := (h.filled c i f rfl hf).2 g hlt
      rw [RelayField.agrees_write_of_ne hgf]
      -- what was drawn before is no field yet
      by_cases hsend : f = .sendTime
      · subst hsend
        exact (RelayField.agrees_drawn hgf d).1 hold
      · rw [hdrawn, if_neg hsend]
        exact hold

/-- An assignment that is not the last. -/
theorem write (h : Mailboxes t (some (c, .write i f)) L drawn) (hnext : f.next = some g) {d : UInt32}
    (hdrawn : d = if f = .sendTime then relaySendTime env else drawn) :
    Mailboxes (Function.update t i ((t i).write env c f)) (some (c, .write i g)) L d := by
  have hindex := RelayField.index_next hnext
  have hg : g ≠ .active := by
    rintro rfl
    exact Nat.succ_ne_zero _ hindex.symm
  obtain ⟨hactive, hagrees⟩ := h.filled_write env hdrawn
  refine ⟨h.wf, h.short, fun j => ?_, ?_, ?_⟩
  · by_cases hji : j = i
    · -- the slot is being filled now
      subst hji
      have hfill : Filling (some (c, .write j g)) j := filling_write.2 ⟨rfl, hg⟩
      exact ⟨fun hno => absurd hfill hno, fun hno => absurd hfill hno, fun _ => h.free_write⟩
    · rw [Function.update_of_ne hji]
      have hfill : ∀ k, ¬Filling (some (c, .write i k)) j := fun k hfill => hji (filling_write.1 hfill).1
      exact (h.slot j).frame (iff_of_false (hfill g) (hfill f)) rfl rfl fun _ ha => ha
  · intro c' j f' hcall _
    cases hcall
    rw [Function.update_self]
    exact ⟨hactive, fun k hk => hagrees k (Nat.le_of_lt_succ (by omega))⟩
  · intro c' j hcall
    cases hcall
    exact absurd rfl hg

/-- **The last assignment** leaves the forward of the call in the slot. -/
theorem write_last (h : Mailboxes t (some (c, .write i .payloadLen)) L drawn) :
    Mailboxes (Function.update t i ((t i).write env c .payloadLen)) none (L.put i (c.toForward drawn)) drawn := by
  obtain ⟨hactive, hagrees⟩ := h.filled_write env (d := drawn) rfl
  refine ⟨Ledger.put_wf h.wf h.free_write, ?_, fun j => ?_, ?_, ?_⟩
  · intro x hx
    rcases List.mem_append.1 hx with hold | hnew
    · exact h.short x hold
    · rw [List.mem_singleton.1 hnew]
      exact c.length_kept
  · by_cases hji : j = i
    · subst hji
      rw [Function.update_self]
      refine ⟨fun _ x hx f => ?_, fun _ _ => ?_, fun hidle => ?_⟩
      · rw [Ledger.put_item_self] at hx
        cases hx
        exact hagrees f (by cases f <;> decide)
      · rw [Ledger.put_holder_self]
        rfl
      · rw [hidle.resolve_right filling_none] at hactive
        cases hactive
    · rw [Function.update_of_ne hji]
      have hfill : ¬Filling (some (c, .write i .payloadLen)) j := fun hfill => hji (filling_write.1 hfill).1
      exact (h.slot j).frame (iff_of_false filling_none hfill) (Ledger.put_holder_of_ne hji)
        (Ledger.put_item_of_ne h.wf hji) fun _ ha => ha
  · intro c' j f hcall
    cases hcall
  · intro c' j hcall
    cases hcall

end Mailboxes

/-! ## The task -/

/-- The locals have what the task has read of the forward so far. -/
def RoundPoint.HasRead (l : RoundLocals) (x : Forward) : RoundPoint → Prop
  | .readSeq _ => l.header.origin = x.origin
  | .readHop _ => l.header.origin = x.origin ∧ l.header.seq = x.seq
  | .readLen _ => l.header = ⟨x.origin, x.seq, x.hop⟩
  | .readPayload _ => l.header = ⟨x.origin, x.seq, x.hop⟩ ∧ l.copyLen = UInt8.ofNat x.payload.length
  | .send _ => l.header = ⟨x.origin, x.seq, x.hop⟩ ∧ l.frame = x.payload
  | _ => True

/-- The task carries a forward that is due: its locals have the forward's values, and so has what is left to
read in the slot. -/
def Carrying (t : Fin maxPendingRelays → PendingRelay) (L : Ledger maxPendingRelays Forward) (carried : Option ℕ)
    (l : RoundLocals) (point : RoundPoint) : Prop :=
  ∃ a ∈ carried, ∃ x ∈ L.issued[a]?, x.sendTime ≤ l.now ∧ point.HasRead l x ∧
    ∀ i ∈ point.picked, ∀ f ∈ point.toRead, RelayField.Agrees (t i) x f

/-- **The task at each of its points.** Until it takes a slot it carries nothing, and it takes only a whole
forward that is due. -/
def AtPoint (t : Fin maxPendingRelays → PendingRelay) (call : Option (FloodCandidate × CallPoint))
    (L : Ledger maxPendingRelays Forward) (carried : Option ℕ) (l : RoundLocals) (point : RoundPoint) : Prop :=
  match point with
  | .top => carried = none
  | .testActive _ => carried = none
  | .testDue i => carried = none ∧ (Filling call i ∨ (L.holder i).isSome)
  | .clear i => carried = none ∧ ¬Filling call i ∧ ∃ x ∈ L.item i, x.sendTime ≤ l.now
  | point => Carrying t L carried l point

section AtPoint

variable {t t' : Fin maxPendingRelays → PendingRelay} {call call' : Option (FloodCandidate × CallPoint)}
  {L L' : Ledger maxPendingRelays Forward} {carried : Option ℕ} {l : RoundLocals} {point : RoundPoint}

/-- **The callback leaves the task where it is**, if it takes no forward away and keeps what is still to be
read. -/
theorem AtPoint.callback (h : AtPoint t call L carried l point)
    (hissued : ∀ a : ℕ, ∀ x ∈ L.issued[a]?, x ∈ L'.issued[a]?)
    (htested : ∀ i, Filling call i ∨ (L.holder i).isSome → Filling call' i ∨ (L'.holder i).isSome)
    (hpicked : ∀ i, point = .clear i → ¬Filling call i → ¬Filling call' i ∧ ∀ x ∈ L.item i, x ∈ L'.item i)
    (hread : ∀ i ∈ point.picked, ∀ f ∈ point.toRead, ∀ x, RelayField.Agrees (t i) x f → RelayField.Agrees (t' i) x f) :
    AtPoint t' call' L' carried l point := by
  have hcarrying : Carrying t L carried l point → Carrying t' L' carried l point := by
    rintro ⟨a, ha, x, hx, htime, hhas, hagrees⟩
    exact ⟨a, ha, x, hissued a x hx, htime, hhas, fun i hi f hf => hread i hi f hf x (hagrees i hi f hf)⟩
  cases point with
  | top => exact h
  | testActive i => exact h
  | testDue i => exact ⟨h.1, htested i h.2⟩
  | clear i =>
    obtain ⟨hnone, hfill, x, hx, htime⟩ := h
    obtain ⟨hfill', hitem⟩ := hpicked i rfl hfill
    exact ⟨hnone, hfill', x, hitem x hx, htime⟩
  | readOrigin i => exact hcarrying h
  | readSeq i => exact hcarrying h
  | readHop i => exact hcarrying h
  | readLen i => exact hcarrying h
  | readPayload i => exact hcarrying h
  | send i => exact hcarrying h

/-- The loop goes on empty-handed. -/
theorem atPoint_afterTest (hnone : carried = none) (i : Fin maxPendingRelays) :
    AtPoint t call L carried l (RelayThreads.afterTest i) := by
  unfold RelayThreads.afterTest
  cases nextSlot i <;> exact hnone

/-- The task makes its next read. -/
theorem Carrying.readOn (h : Carrying t L carried l point) {next : RoundPoint} {l' : RoundLocals}
    (hnow : l'.now = l.now) (hpicked : next.picked = point.picked) (htoRead : ∀ f ∈ next.toRead, f ∈ point.toRead)
    (hhas : ∀ x ∈ L.issued, point.HasRead l x →
      (∀ i ∈ point.picked, ∀ f ∈ point.toRead, RelayField.Agrees (t i) x f) → next.HasRead l' x) :
    Carrying t L carried l' next := by
  obtain ⟨a, ha, x, hx, htime, hread, hagrees⟩ := h
  refine ⟨a, ha, x, hx, hnow ▸ htime, hhas x (List.mem_of_getElem? hx) hread hagrees, fun i hi f hf => ?_⟩
  exact hagrees i (hpicked ▸ hi) f (htoRead f hf)

end AtPoint

/-! ## Every interleaving -/

namespace Handover

/-- **The invariant.** -/
structure Inv (h : Handover) : Prop where
  slots : Mailboxes h.threads.relay.pendingRelays h.threads.call h.ledger h.drawn
  task : AtPoint h.threads.relay.pendingRelays h.threads.call h.ledger h.carried h.threads.locals h.threads.point
  sent : ∃ numbers, h.ledger.taken = numbers ++ h.carried.toList ∧
    List.Forall₂ (Carries h.ledger.issued) h.sent numbers

theorem inv_start (mac : Mac) : Inv (start mac) where
  slots :=
    { wf := Ledger.wf_empty
      short := fun _ hx => by cases hx
      slot := fun _ =>
        { content := fun _ _ hx => by cases hx
          held := fun _ hactive => by cases hactive
          free := fun _ _ ha => by cases ha }
      filled := fun _ _ _ hcall => by cases hcall
      claimed := fun _ _ hcall => by cases hcall }
  task := rfl
  sent := ⟨[], rfl, .nil⟩

theorem Inv.wholePackets {h : Handover} (hinv : Inv h) : h.WholePackets where
  sent := hinv.sent
  once := hinv.slots.wf.once
  accounted := by
    intro a ha
    rcases hinv.slots.wf.accounted a ha with ⟨i, hi⟩ | hgone
    · -- held in a slot: pending, or cancelled there
      by_cases hfree : (h.slot i).active = false ∨ Filling h.threads.call i
      · exact Or.inr (Or.inr ((hinv.slots.slot i).free hfree a hi))
      · rw [not_or] at hfree
        have hx : h.ledger.issued[a] ∈ h.ledger.item i := Ledger.mem_item.2 ⟨a, hi, List.getElem?_eq_getElem ha⟩
        have hagrees := (hinv.slots.slot i).content hfree.2 _ hx
        refine Or.inl ⟨i, hi, by simpa using hfree.1, _, List.getElem?_eq_getElem ha, ?_, hagrees .sendTime⟩
        exact PendingRelay.frame_of_agrees (hinv.slots.short _ (List.getElem_mem ha)) hagrees
    · exact Or.inr hgone

/-- A frame carries the same forward when more have been issued. -/
theorem Carries.mono {issued issued' : List Forward} (h : ∀ a : ℕ, ∀ x ∈ issued[a]?, x ∈ issued'[a]?)
    {sent : UInt32 × List UInt8} {a : ℕ} (hc : Carries issued sent a) : Carries issued' sent a := by
  obtain ⟨x, hx, hframe⟩ := hc
  exact ⟨x, h a x hx, hframe⟩

section Steps

variable {h : Handover} (hinv : Inv h) {c : FloodCandidate} {i : Fin maxPendingRelays} (env : Env)

include hinv

/-- The callback goes on without touching a slot. -/
theorem Inv.moved (hbefore : ∀ i, ¬Filling h.threads.call i) {relay : Relay}
    (hrelay : relay.pendingRelays = h.threads.relay.pendingRelays) {call : Option (FloodCandidate × CallPoint)}
    (hafter : ∀ i, ¬Filling call i)
    (hclaimed : ∀ c i, call = some (c, .write i .active) → (h.threads.relay.pendingRelays i).active = false) :
    Inv { h with threads := { h.threads with relay := relay, call := call } } where
  slots := by
    dsimp only
    rw [hrelay]
    exact hinv.slots.move hbefore hafter hclaimed
  task := by
    dsimp only
    rw [hrelay]
    exact hinv.task.callback (fun _ _ hx => hx) (fun i hi => Or.inr (hi.resolve_left (hbefore i)))
      (fun i _ _ => ⟨hafter i, fun _ hx => hx⟩) (fun _ _ _ _ _ hx => hx)
  sent := hinv.sent

/-- The callback clears the flag of a forward it has overheard. -/
theorem Inv.suppressed (hcall : h.threads.call = some (c, .suppress i)) :
    Inv { h with
      threads := (h.threads.setSlot i { h.slot i with active := false }).callTo c (some (RelayThreads.afterCheck i))
      ledger := h.ledger.cancel i } where
  slots := by
    have hslots := hinv.slots
    rw [hcall] at hslots
    exact hslots.suppress
  task := by
    have hbefore : ∀ j, ¬Filling h.threads.call j := fun j => by
      rw [hcall]
      exact not_filling_of_ne_write fun _ _ => CallPoint.noConfusion
    refine hinv.task.callback (fun _ _ hx => hx) (fun j hj => Or.inr (hj.resolve_left (hbefore j)))
      (fun j _ _ => ⟨not_filling_of_ne_write afterCheck_ne_write, fun _ hx => hx⟩) ?_
    intro j _ f _ x hx
    change RelayField.Agrees (Function.update h.threads.relay.pendingRelays i { h.slot i with active := false } j) x f
    by_cases hji : j = i
    · subst hji
      rw [Function.update_self]
      exact (RelayField.agrees_active false).2 hx
    · rw [Function.update_of_ne hji]
      exact hx
  sent := hinv.sent

variable {f : RelayField} (hcall : h.threads.call = some (c, .write i f))
  (hkeep : i ∈ h.threads.point.picked → f ∈ h.threads.point.toRead → (h.slot i).write env c f = h.slot i)

include hcall hkeep

/-- A call does not claim a slot that the task is about to take. -/
theorem Inv.ne_of_clear {j : Fin maxPendingRelays} (hpoint : h.threads.point = .clear j)
    (hfill : ¬Filling h.threads.call j) : j ≠ i := by
  -- it would change the flag that the task is about to clear
  rintro rfl
  rw [hcall, filling_write] at hfill
  have hf : f = .active := not_not.1 fun hf => hfill ⟨rfl, hf⟩
  subst hf
  have hsame := hkeep (by rw [hpoint]; rfl) (by rw [hpoint]; exact List.mem_cons_self ..)
  have hidle : (h.slot j).active = false := hinv.slots.claimed c j hcall
  rw [← hsame] at hidle
  cases hidle

omit hinv in
/-- An assignment spares what the task has still to read. -/
theorem unread_write {j : Fin maxPendingRelays} (hj : j ∈ h.threads.point.picked) {g : RelayField}
    (hg : g ∈ h.threads.point.toRead) {x : Forward} (hx : RelayField.Agrees (h.slot j) x g) :
    RelayField.Agrees (Function.update h.threads.relay.pendingRelays i ((h.slot i).write env c f) j) x g := by
  by_cases hji : j = i
  · subst hji
    rw [Function.update_self]
    by_cases hgf : g = f
    · subst hgf
      rw [hkeep hj hg]
      exact hx
    · exact (RelayField.agrees_write_of_ne hgf).2 hx
  · rw [Function.update_of_ne hji]
    exact hx

/-- The callback makes an assignment, not the last. -/
theorem Inv.wrote {g : RelayField} (hnext : f.next = some g) {d : UInt32}
    (hdrawn : d = if f = .sendTime then relaySendTime env else h.drawn) :
    Inv { h with
      threads := (h.threads.setSlot i ((h.slot i).write env c f)).callTo c (some (.write i g))
      drawn := d } where
  slots := by
    have hslots := hinv.slots
    rw [hcall] at hslots
    exact hslots.write env hnext hdrawn
  task := by
    have hg : g ≠ .active := by
      rintro rfl
      exact Nat.succ_ne_zero _ (RelayField.index_next hnext).symm
    refine hinv.task.callback (fun _ _ hx => hx) ?_ ?_ ?_
    · intro j hj
      refine hj.imp_left fun hfill => ?_
      rw [hcall] at hfill
      exact filling_write.2 ⟨(filling_write.1 hfill).1, hg⟩
    · intro j hpoint hfill
      have hji := hinv.ne_of_clear env hcall hkeep hpoint hfill
      exact ⟨fun hafter => hji (filling_write.1 hafter).1, fun _ hx => hx⟩
    · intro j hj g hg x hx
      exact unread_write env hcall hkeep hj hg hx
  sent := hinv.sent

omit hcall hkeep in
/-- The callback makes the last assignment. -/
theorem Inv.completed (hcall : h.threads.call = some (c, .write i .payloadLen))
    (hkeep : i ∈ h.threads.point.picked → .payloadLen ∈ h.threads.point.toRead →
      (h.slot i).write env c .payloadLen = h.slot i) :
    Inv { h with
      threads := (h.threads.setSlot i ((h.slot i).write env c .payloadLen)).callTo c none
      ledger := h.ledger.put i (c.toForward h.drawn) } where
  slots := by
    have hslots := hinv.slots
    rw [hcall] at hslots
    exact hslots.write_last env
  task := by
    refine hinv.task.callback ?_ ?_ ?_ ?_
    · exact fun a x hx => Ledger.mem_put_issued hx
    · intro j hj
      right
      by_cases hji : j = i
      · subst hji
        rw [Ledger.put_holder_self]
        rfl
      · rw [Ledger.put_holder_of_ne hji]
        refine hj.resolve_left fun hfill => ?_
        rw [hcall, filling_write] at hfill
        exact hji hfill.1
    · intro j hpoint hfill
      have hji := hinv.ne_of_clear env hcall hkeep hpoint hfill
      refine ⟨filling_none, fun x hx => ?_⟩
      rw [Ledger.put_item_of_ne hinv.slots.wf hji]
      exact hx
    · intro j hj g hg x hx
      exact unread_write env hcall hkeep hj hg hx
  sent := by
    obtain ⟨numbers, htaken, hsent⟩ := hinv.sent
    refine ⟨numbers, htaken, hsent.imp fun _ _ => ?_⟩
    exact Carries.mono fun a x hx => Ledger.mem_put_issued hx

end Steps

theorem note_sent (h : Handover) (e : RelayEvent) : (h.note e).sent = h.sent := by
  unfold note
  split
  · rfl
  · split <;> rfl
  · split <;> rfl

/-- A step that sends nothing. -/
theorem step_of_silent {h : Handover} {e : RelayEvent} (hsilent : (h.threads.step e).2 = []) :
    (h.step e).1 = { h.note e with threads := (h.threads.step e).1 } := by
  unfold step
  dsimp only
  rw [hsilent, List.map_nil, List.append_nil, ← note_sent h e]

theorem Inv.of_silent {h : Handover} {e : RelayEvent} (hinv : Inv { h.note e with threads := (h.threads.step e).1 })
    (hsilent : (h.threads.step e).2 = []) : Inv (h.step e).1 :=
  step_of_silent hsilent ▸ hinv

section Callback

variable {h : Handover} (hinv : Inv h)

include hinv

/-- The callback looks at a slot, or at what it knows. -/
theorem Inv.looked {c : FloodCandidate} {point next : CallPoint} (hcall : h.threads.call = some (c, point))
    (hpoint : ∀ j f, point ≠ .write j f) (hnext : ∀ j f, next ≠ .write j f) :
    Inv { h with threads := h.threads.callTo c (some next) } := by
  refine hinv.moved ?_ rfl (fun j => not_filling_of_ne_write hnext) ?_
  · intro j
    rw [hcall]
    exact not_filling_of_ne_write hpoint
  · intro c' j hwrite
    exact absurd (Prod.mk.inj (Option.some.inj hwrite)).2 (hnext j .active)

/-- A new frame for the callback. -/
theorem inv_candidate (c : FloodCandidate) : Inv (h.step (.candidate c)).1 := by
  rw [step_of_silent rfl]
  change Inv { h with threads := h.threads.candidate c }
  unfold RelayThreads.candidate
  split
  · exact hinv
  · rename_i hfree
    have hidle : h.threads.call = none := by
      cases hcall : h.threads.call with
      | none => rfl
      | some under => exact absurd (Or.inl (by rw [hcall]; rfl)) hfree
    refine hinv.moved (fun j => ?_) rfl (fun j => not_filling_of_ne_write ?_) ?_
    · rw [hidle]
      exact filling_none
    · intro j f
      split <;> exact CallPoint.noConfusion
    · intro c' j hwrite
      cases hrelay : c.isRelay <;> rw [hrelay] at hwrite <;> cases hwrite

/-- The dedup touches no slot. -/
theorem Inv.dedup {c : FloodCandidate} (hcall : h.threads.call = some (c, .dedup)) :
    Inv { h with threads := h.threads.dedup c } := by
  unfold RelayThreads.dedup
  obtain ⟨origins, k⟩ := findOrCreateOrigin h.threads.relay.relayOrigins c.origin
  -- the origin table is the callback's own, and no slot is claimed yet
  refine hinv.moved ?_ ?_ ?_ ?_
  · intro j
    rw [hcall]
    exact not_filling_of_ne_write fun _ _ => CallPoint.noConfusion
  · rfl
  · intro j
    split
    · exact filling_none
    · exact not_filling_of_ne_write fun _ _ => CallPoint.noConfusion
  · intro c' j hwrite
    split at hwrite <;> cases hwrite

/-- The scan claims an idle slot, goes on, or gives up. -/
theorem Inv.scan {c : FloodCandidate} {i : Fin maxPendingRelays} (hcall : h.threads.call = some (c, .scan i)) :
    Inv { h with
      threads := h.threads.callTo c
        (if (h.slot i).active then (nextSlot i).map .scan else some (.write i .active)) } := by
  have hbefore : ∀ j, ¬Filling h.threads.call j := fun j => by
    rw [hcall]
    exact not_filling_of_ne_write fun _ _ => CallPoint.noConfusion
  cases hactive : (h.slot i).active with
  | true =>
    rw [if_pos rfl]
    cases nextSlot i with
    | none => exact hinv.moved hbefore rfl (fun _ => filling_none) fun _ _ hwrite => by cases hwrite
    | some j => exact hinv.looked hcall (fun _ _ => CallPoint.noConfusion) fun _ _ => CallPoint.noConfusion
  | false =>
    rw [if_neg Bool.false_ne_true]
    refine hinv.moved hbefore rfl (fun j hfill => (filling_write.1 hfill).2 rfl) ?_
    intro c' j hwrite
    cases hwrite
    exact hactive

/-- **A step of the callback.** -/
theorem inv_callback (env : Env) (hands : h.threads.HandsOff (.callback env)) :
    Inv (h.step (.callback env)).1 := by
  rw [step_of_silent rfl]
  have hkeep : ∀ {c i f}, h.threads.call = some (c, .write i f) → i ∈ h.threads.point.picked →
      f ∈ h.threads.point.toRead → (h.slot i).write env c f = h.slot i :=
    fun hcall hi hf => hands _ hcall _ hi _ hf rfl
  change Inv { h.note (.callback env) with threads := h.threads.callback env }
  unfold note RelayThreads.callback
  cases hcall : h.threads.call with
  | none => exact hinv
  | some under =>
    obtain ⟨c, point⟩ := under
    cases point with
    | checkActive i =>
      exact hinv.looked hcall (fun _ _ => CallPoint.noConfusion) (checked_ne_write fun _ _ => CallPoint.noConfusion)
    | checkSeq i =>
      exact hinv.looked hcall (fun _ _ => CallPoint.noConfusion) (checked_ne_write fun _ _ => CallPoint.noConfusion)
    | checkOrigin i =>
      exact hinv.looked hcall (fun _ _ => CallPoint.noConfusion) (checked_ne_write fun _ _ => CallPoint.noConfusion)
    | suppress i => exact hinv.suppressed hcall
    | dedup => exact hinv.dedup hcall
    | scan i => exact hinv.scan hcall
    | write i f =>
      cases f with
      | payloadLen => exact hinv.completed env hcall (hkeep hcall)
      | sendTime => exact hinv.wrote env hcall (hkeep hcall) rfl rfl
      | active => exact hinv.wrote env hcall (hkeep hcall) rfl rfl
      | hop => exact hinv.wrote env hcall (hkeep hcall) rfl rfl
      | origin => exact hinv.wrote env hcall (hkeep hcall) rfl rfl
      | seq => exact hinv.wrote env hcall (hkeep hcall) rfl rfl
      | payload => exact hinv.wrote env hcall (hkeep hcall) rfl rfl

end Callback

section Task

variable {h : Handover} (hinv : Inv h)

include hinv

/-- The task goes on without touching a slot. -/
theorem Inv.roundTo {point : RoundPoint} {l : RoundLocals}
    (htask : AtPoint h.threads.relay.pendingRelays h.threads.call h.ledger h.carried l point) :
    Inv { h with threads := h.threads.roundTo point l } where
  slots := hinv.slots
  task := htask
  sent := hinv.sent

/-- An active slot is being filled or has a forward. -/
theorem Inv.tested {i : Fin maxPendingRelays} (hactive : (h.slot i).active = true) :
    Filling h.threads.call i ∨ (h.ledger.holder i).isSome := by
  by_cases hfill : Filling h.threads.call i
  · exact Or.inl hfill
  · exact Or.inr ((hinv.slots.slot i).held hfill hactive)

/-- A slot with a forward that is found due has it whole. -/
theorem Inv.due {i : Fin maxPendingRelays} {now : UInt32} (hfill : ¬Filling h.threads.call i)
    (hheld : (h.ledger.holder i).isSome) (hdue : ¬now < (h.slot i).sendTime) :
    ∃ x ∈ h.ledger.item i, x.sendTime ≤ now := by
  obtain ⟨a, ha⟩ := Option.isSome_iff_exists.1 hheld
  have hlt := hinv.slots.wf.held_lt i a ha
  have hx : h.ledger.issued[a] ∈ h.ledger.item i := Ledger.mem_item.2 ⟨a, ha, List.getElem?_eq_getElem hlt⟩
  refine ⟨_, hx, ?_⟩
  have htime : (h.slot i).sendTime = (h.ledger.issued[a]).sendTime := (hinv.slots.slot i).content hfill _ hx .sendTime
  rw [← htime]
  exact UInt32.not_lt.1 hdue

/-- The task takes the slot it has picked. -/
theorem Inv.cleared {i : Fin maxPendingRelays} (hpoint : h.threads.point = .clear i) :
    Inv { h with
      threads := (h.threads.setSlot i { h.slot i with active := false }).roundTo (.readOrigin i) h.threads.locals
      ledger := h.ledger.take i
      carried := h.ledger.holder i } := by
  have htask := hinv.task
  rw [hpoint] at htask
  obtain ⟨hnone, hfill, x, hx, htime⟩ := htask
  obtain ⟨a, ha, hissued⟩ := Ledger.mem_item.1 hx
  refine ⟨hinv.slots.clear hfill, ⟨a, ha, x, hissued, htime, trivial, ?_⟩, ?_⟩
  · intro j hj f _
    cases hj
    change RelayField.Agrees (Function.update h.threads.relay.pendingRelays i { h.slot i with active := false } i) x f
    rw [Function.update_self]
    exact (RelayField.agrees_active false).2 ((hinv.slots.slot i).content hfill x hx f)
  · obtain ⟨numbers, htaken, hsent⟩ := hinv.sent
    rw [hnone, Option.toList_none, List.append_nil] at htaken
    refine ⟨numbers, ?_, hsent⟩
    rw [Ledger.take_taken, htaken]

/-- **What the task sends** is the forward it carries. -/
theorem Inv.sends {i : Fin maxPendingRelays} (hpoint : h.threads.point = .send i) (stack : List UInt8) :
    Inv { h with
      threads := h.threads.roundTo (RelayThreads.afterTest i) h.threads.locals
      carried := none
      sent := h.sent ++ [(h.threads.locals.now, h.threads.locals.header.toFrame ++
        (h.threads.locals.frame ++ stack).take (h.slot i).payloadLen.toNat)] } := by
  have htask := hinv.task
  rw [hpoint] at htask
  obtain ⟨a, ha, x, hx, htime, ⟨hheader, hframe⟩, hagrees⟩ := htask
  have hlen : (h.slot i).payloadLen.toNat = x.payload.length :=
    RelayField.toNat_payloadLen (hinv.slots.short x (List.mem_of_getElem? hx))
      (hagrees i rfl .payloadLen (List.mem_singleton.2 rfl))
  refine ⟨hinv.slots, atPoint_afterTest rfl i, ?_⟩
  obtain ⟨numbers, htaken, hsent⟩ := hinv.sent
  refine ⟨numbers ++ [a], ?_, List.rel_append hsent (.cons ⟨x, hx, ?_, htime⟩ .nil)⟩
  · rw [htaken, ha, Option.toList_none, List.append_nil, Option.toList_some]
  · rw [hheader, hframe, hlen, List.take_left' rfl]
    rfl

/-- **A step of the task.** -/
theorem inv_task (env : Env) (stack : List UInt8) (hands : h.threads.HandsOff (.task env stack)) :
    Inv (h.step (.task env stack)).1 := by
  obtain ⟨⟨relay, call, point, l⟩, ledger, drawn, carried, sent⟩ := h
  have htask := hinv.task
  cases point with
  | top => exact Inv.of_silent (hinv.roundTo htask) rfl
  | testActive i =>
    refine Inv.of_silent (hinv.roundTo ?_) rfl
    split
    · rename_i hactive
      exact ⟨htask, hinv.tested hactive⟩
    · exact atPoint_afterTest htask i
  | testDue i =>
    refine Inv.of_silent (hinv.roundTo ?_) rfl
    split
    · exact atPoint_afterTest htask.1 i
    · rename_i hdue
      -- by the condition the slot found due is not being filled
      have hfill : ¬Filling call i := fun hfill => hdue (hands i rfl hfill)
      exact ⟨htask.1, hfill, hinv.due hfill (htask.2.resolve_left hfill) hdue⟩
  | clear i => exact Inv.of_silent (hinv.cleared rfl) rfl
  | readOrigin i =>
    refine Inv.of_silent (hinv.roundTo ?_) rfl
    refine Carrying.readOn htask rfl rfl (fun _ => List.mem_cons_of_mem _) fun x _ _ hagrees => ?_
    exact hagrees i rfl .origin (.head _)
  | readSeq i =>
    refine Inv.of_silent (hinv.roundTo ?_) rfl
    refine Carrying.readOn htask rfl rfl (fun _ => List.mem_cons_of_mem _) fun x _ hread hagrees => ?_
    exact ⟨hread, hagrees i rfl .seq (.head _)⟩
  | readHop i =>
    refine Inv.of_silent (hinv.roundTo ?_) rfl
    refine Carrying.readOn htask rfl rfl (fun _ => List.mem_cons_of_mem _) fun x _ hread hagrees => ?_
    have hhop : (relay.pendingRelays i).hop = x.hop := hagrees i rfl .hop (.head _)
    change MeshRelayHeader.mk l.header.origin l.header.seq (relay.pendingRelays i).hop = _
    rw [hread.1, hread.2, hhop]
  | readLen i =>
    refine Inv.of_silent (hinv.roundTo ?_) rfl
    refine Carrying.readOn htask rfl rfl (fun _ hf => hf) fun x _ hread hagrees => ?_
    exact ⟨hread, hagrees i rfl .payloadLen (.tail _ (.head _))⟩
  | readPayload i =>
    refine Inv.of_silent (hinv.roundTo ?_) rfl
    refine Carrying.readOn htask rfl rfl (fun _ => List.mem_cons_of_mem _) fun x hx hread hagrees => ?_
    have hpayload : (relay.pendingRelays i).payload.bytes.take x.payload.length = x.payload :=
      hagrees i rfl .payload (.head _)
    refine ⟨hread.1, ?_⟩
    dsimp only
    rw [RelayField.toNat_payloadLen (hinv.slots.short x hx) hread.2, hpayload]
  | send i => exact hinv.sends rfl stack

end Task

/-- **A step of either thread**, if it meets the condition. -/
theorem inv_step {h : Handover} {e : RelayEvent} (hinv : Inv h) (hands : h.threads.HandsOff e) : Inv (h.step e).1 := by
  cases e with
  | candidate c => exact inv_candidate hinv c
  | callback env => exact inv_callback hinv env hands
  | task env stack => exact inv_task hinv env stack hands

/-- The notes leave the machine alone, and have every frame it sends. -/
theorem run_threads (h : Handover) (events : List RelayEvent) :
    (Mealy.run step h events).1.threads = (Mealy.run RelayThreads.step h.threads events).1 ∧
      (Mealy.run step h events).1.sent.map Prod.snd =
        h.sent.map Prod.snd ++ (Mealy.run RelayThreads.step h.threads events).2 := by
  induction events generalizing h with
  | nil => exact ⟨rfl, (List.append_nil _).symm⟩
  | cons e events ih =>
    obtain ⟨hthreads, hsent⟩ := ih (h.step e).1
    have hnow : (h.step e).1.sent.map Prod.snd = h.sent.map Prod.snd ++ (h.threads.step e).2 := by
      have hnoted : (h.step e).1.sent =
          h.sent ++ (h.threads.step e).2.map fun frame => (h.threads.locals.now, frame) := rfl
      rw [hnoted, List.map_append, List.map_map]
      exact congrArg _ (List.map_id _)
    refine ⟨hthreads, ?_⟩
    rw [hnow, List.append_assoc] at hsent
    exact hsent

/-- **Slots hand over whole packets** in every state of every interleaving whose steps meet the condition. -/
theorem wholePackets_of_handsOff (mac : Mac) {events : List RelayEvent}
    (hands : Mealy.Guarded step (fun h e => h.threads.HandsOff e) (start mac) events) :
    ∀ pre post, events = pre ++ post → (Mealy.run step (start mac) pre).1.WholePackets := by
  rintro pre post rfl
  have hpre := ((Mealy.guarded_append _ _ _).1 hands).1
  exact (Mealy.inv_run Inv (fun _ _ => inv_step) (inv_start mac) hpre).wholePackets

/-- A packet that a slave hears first hand. -/
def firstHand : FloodCandidate := ⟨masterA, 1, 0, (clip 5 1 1).toFrame, false⟩

/-- The call goes all the way, and then the task sends the forward. -/
def inTurn : List RelayEvent :=
  .candidate firstHand :: List.replicate 9 (.callback { millis := 0 }) ++ List.replicate 10 (.task { millis := 30 } [])

/-- A call and a round that do not meet. -/
theorem inTurn_whole : (Mealy.run step (start masterB) inTurn).1.WholePackets :=
  wholePackets_of_handsOff masterB (by decide +kernel) inTurn [] (List.append_nil _).symm

/-- The round comes when the call has set the flag only, and the call goes on after it. -/
def overtaken : List RelayEvent :=
  .candidate firstHand :: List.replicate 3 (.callback { millis := 0 }) ++
    List.replicate 10 (.task { millis := 30 } []) ++ List.replicate 6 (.callback { millis := 0 })

/-- A forward that is neither pending, nor taken, nor cancelled. -/
theorem not_wholePackets {h : Handover} (hissued : 0 < h.ledger.issued.length) (hidle : ∀ i, (h.slot i).active = false)
    (htaken : h.ledger.taken = []) (hcancelled : h.ledger.cancelled = []) : ¬h.WholePackets := by
  intro hwhole
  rcases hwhole.accounted 0 hissued with ⟨i, -, hactive, -⟩ | hmem | hmem
  · rw [hidle i] at hactive
    cases hactive
  · rw [htaken] at hmem
    cases hmem
  · rw [hcancelled] at hmem
    cases hmem

/-- **The forward is lost**: the task has sent the slot before it was filled. -/
theorem overtaken_lost : ¬(Mealy.run step (start masterB) overtaken).1.WholePackets :=
  not_wholePackets (by decide +kernel) (by decide +kernel) (by decide +kernel) (by decide +kernel)

end Handover

end Nowde
