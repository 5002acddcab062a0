import Nowde.Spec.Relay
import Mathlib.Data.Fintype.Card
import Mathlib.Data.Finset.Card

/-!
# The two tables of the relay

`relayOrigins` remembers the packet heard last of each origin, `pendingRelays` the forwards not yet
sent. Both are read here against the history of the node: the packets heard since it booted, those it
has handled in all, and those it has sent.

* `markSeen_spec`: a packet was seen already exactly when it is the last one heard of its origin.
* `handleFloodCandidate_spec`: what one copy does to the two tables.
* `processPendingRelays_inv`: a tick moves what is due from pending to sent.
-/

namespace Nowde

/-! ## The invariants -/

/-- The number of the packet heard last from an origin, the latest copy first in the list. -/
def lastHeardSeq (heard : List (Mac × UInt16)) (origin : Mac) : Option UInt16 :=
  (heard.find? fun k => k.1 = origin).map Prod.snd

/-- The dedup table is the last packet of each origin heard. -/
structure OriginsInv (t : Fin maxRelayOrigins → RelayOriginEntry) (heard : List (Mac × UInt16)) : Prop where
  distinct : ∀ i j, (t i).valid = true → (t j).valid = true → (t i).mac = (t j).mac → i = j
  last : ∀ i, (t i).valid = true → lastHeardSeq heard (t i).mac = some (t i).lastSeq
  complete : ∀ k ∈ heard, ∃ i, (t i).valid = true ∧ (t i).mac = k.1

/-- The packet a pending slot is for. -/
def PendingRelay.key (p : PendingRelay) : Mac × UInt16 := (p.origin, p.seq)

/-- No packet is pending twice or pending after it was sent, and none is sent twice. -/
structure PendingInv (t : Fin maxPendingRelays → PendingRelay) (heard sent : List (Mac × UInt16)) : Prop where
  unique : ∀ i j, (t i).active = true → (t j).active = true → (t i).key = (t j).key → i = j
  pendingHeard : ∀ i, (t i).active = true → (t i).key ∈ heard
  unsent : ∀ i, (t i).active = true → (t i).key ∉ sent
  sentHeard : ∀ k ∈ sent, k ∈ heard
  nodup : sent.Nodup

/-! ## Origins -/

section Origins

variable {t : Fin maxRelayOrigins → RelayOriginEntry} {heard : List (Mac × UInt16)} {origin : Mac}

/-- The slot of an origin: its own, or a free one when it has none. -/
theorem findOrCreateOrigin_spec
    (hroom : (∃ i, (t i).valid = true ∧ (t i).mac = origin) ∨ ∃ i, (t i).valid = false) :
    (∀ j, j ≠ (findOrCreateOrigin t origin).2 → (findOrCreateOrigin t origin).1 j = t j) ∧
      ((findOrCreateOrigin t origin).1 (findOrCreateOrigin t origin).2).mac = origin ∧
      (((t (findOrCreateOrigin t origin).2).valid = true ∧
          (findOrCreateOrigin t origin).1 (findOrCreateOrigin t origin).2 = t (findOrCreateOrigin t origin).2) ∨
        ((∀ j, (t j).valid = true → (t j).mac ≠ origin) ∧ (t (findOrCreateOrigin t origin).2).valid = false ∧
          ((findOrCreateOrigin t origin).1 (findOrCreateOrigin t origin).2).valid = false)) := by
  unfold findOrCreateOrigin
  cases hown : Slots.find t fun e => e.valid && e.mac == origin with
  | some i =>
    have hi : (t i).valid = true ∧ (t i).mac = origin := by simpa using Slots.find_eq_some hown
    exact ⟨fun _ _ => rfl, hi.2, Or.inl ⟨hi.1, rfl⟩⟩
  | none =>
    have hnone : ∀ j, (t j).valid = true → (t j).mac ≠ origin := by
      intro j hj hmac
      have := Slots.find_eq_none.1 hown j
      simp [hj, hmac] at this
    have hfree : ∃ i, (t i).valid = false := by
      rcases hroom with ⟨i, hi, hmac⟩ | hfree
      · exact absurd hmac (hnone i hi)
      · exact hfree
    -- with a slot to spare, slot 0 is not taken from another origin
    obtain ⟨i, hi⟩ := hfree
    obtain ⟨j, hj⟩ := Slots.find_isSome (t := t) (p := fun e => !e.valid) (i := i) (by simp [hi])
    have hjfree : (t j).valid = false := by simpa using Slots.find_eq_some hj
    simp only [hj, Option.getD_some]
    exact ⟨fun k hk => Function.update_of_ne hk _ _, by simp, Or.inr ⟨hnone, hjfree, by simp⟩⟩

theorem lastHeardSeq_cons (k : Mac × UInt16) :
    lastHeardSeq (k :: heard) origin = if k.1 = origin then some k.2 else lastHeardSeq heard origin := by
  unfold lastHeardSeq
  rw [List.find?_cons]
  split <;> simp_all

/-- An origin that was never heard has a free slot waiting for it, as there are no more masters than
slots. -/
theorem OriginsInv.room (h : OriginsInv t heard) {masters : List Mac} (hcount : masters.length ≤ maxRelayOrigins)
    (hheard : ∀ k ∈ heard, k.1 ∈ masters) (hmem : origin ∈ masters) :
    (∃ i, (t i).valid = true ∧ (t i).mac = origin) ∨ ∃ i, (t i).valid = false := by
  by_contra hno
  push Not at hno
  obtain ⟨hnotown, hfull⟩ := hno
  have hheard' : ∀ i, (t i).valid = true → (t i).mac ∈ masters.toFinset := by
    intro i hi
    have hlast := h.last i hi
    unfold lastHeardSeq at hlast
    obtain ⟨k, hk, -⟩ := Option.map_eq_some_iff.1 hlast
    have hkmac : k.1 = (t i).mac := by simpa using List.find?_some hk
    rw [List.mem_toFinset, ← hkmac]
    exact hheard k (List.mem_of_find?_eq_some hk)
  obtain ⟨i, hi⟩ := Slots.exists_free (fun e : RelayOriginEntry => e.valid = true) RelayOriginEntry.mac h.distinct
    hheard' (masters.toFinset_card_le.trans hcount) (List.mem_toFinset.2 hmem) hnotown
  exact hfull i (by simpa using hi)

/-- An origin heard before has a slot. -/
theorem OriginsInv.slot_of_lastHeard (h : OriginsInv t heard) {seq : UInt16}
    (hlast : lastHeardSeq heard origin = some seq) : ∃ i, (t i).valid = true ∧ (t i).mac = origin := by
  unfold lastHeardSeq at hlast
  obtain ⟨k, hk, -⟩ := Option.map_eq_some_iff.1 hlast
  have hkmac : k.1 = origin := by simpa using List.find?_some hk
  rw [← hkmac]
  exact h.complete k (List.mem_of_find?_eq_some hk)

/-- A packet is noted in a slot that is its origin's or free. -/
theorem OriginsInv.mark (h : OriginsInv t heard) {seq : UInt16} {i : Fin maxRelayOrigins} {e : RelayOriginEntry}
    (hslot : (t i).valid = true → (t i).mac = origin)
    (hunique : ∀ j, j ≠ i → (t j).valid = true → (t j).mac ≠ origin)
    (hvalid : e.valid = true) (hmac : e.mac = origin) (hseq : e.lastSeq = seq) :
    OriginsInv (Function.update t i e) ((origin, seq) :: heard) where
  distinct := by
    refine Slots.distinct_update (fun e : RelayOriginEntry => e.valid = true) RelayOriginEntry.mac h.distinct ?_
    intro j hj hjvalid
    rw [hmac]
    exact hunique j hj hjvalid
  last j hj := by
    rw [lastHeardSeq_cons]
    by_cases hji : j = i
    · rw [hji, Function.update_self, hseq]
      exact if_pos hmac.symm
    · rw [Function.update_of_ne hji] at hj ⊢
      rw [if_neg (fun hm => hunique j hji hj hm.symm)]
      exact h.last j hj
  complete k hk := by
    by_cases hkmac : k.1 = origin
    · refine ⟨i, ?_⟩
      rw [Function.update_self]
      exact ⟨hvalid, hmac.trans hkmac.symm⟩
    · rcases List.mem_cons.1 hk with rfl | hk
      · exact absurd rfl hkmac
      · obtain ⟨j, hj, hjmac⟩ := h.complete k hk
        have hji : j ≠ i := by
          rintro rfl
          exact hkmac (hjmac.symm.trans (hslot hj))
        refine ⟨j, ?_⟩
        rw [Function.update_of_ne hji]
        exact ⟨hj, hjmac⟩

/-- **Marking a packet seen**: the origin's slot holds it, and it was seen already exactly when it
was the last one heard. -/
theorem markSeen_spec (h : OriginsInv t heard) (seq : UInt16)
    (hroom : (∃ i, (t i).valid = true ∧ (t i).mac = origin) ∨ ∃ i, (t i).valid = false) :
    let r := findOrCreateOrigin t origin
    OriginsInv (Function.update r.1 r.2 { r.1 r.2 with valid := true, lastSeq := seq }) ((origin, seq) :: heard) ∧
      (((r.1 r.2).valid = true ∧ (r.1 r.2).lastSeq = seq) ↔ lastHeardSeq heard origin = some seq) := by
  obtain ⟨hothers, hmac, hslot⟩ := findOrCreateOrigin_spec hroom
  generalize findOrCreateOrigin t origin = r at hothers hmac hslot
  -- the slot was the origin's or free, and no other slot is for this origin
  have hown : (t r.2).valid = true → (t r.2).mac = origin := by
    intro hvalid
    rcases hslot with ⟨-, hsame⟩ | ⟨-, hv, -⟩
    · rw [← hsame, hmac]
    · rw [hv] at hvalid
      cases hvalid
  have hunique : ∀ j, j ≠ r.2 → (t j).valid = true → (t j).mac ≠ origin := by
    intro j hj hvalid hjmac
    rcases hslot with ⟨hv, hsame⟩ | ⟨hnone, -, -⟩
    · exact hj (h.distinct j r.2 hvalid hv (by rw [hjmac, ← hmac, hsame]))
    · exact hnone j hvalid hjmac
  dsimp only
  have hupdate : ∀ e, Function.update r.1 r.2 e = Function.update t r.2 e := by
    intro e
    funext j
    by_cases hj : j = r.2
    · rw [hj, Function.update_self, Function.update_self]
    · rw [Function.update_of_ne hj, Function.update_of_ne hj, hothers j hj]
  rw [hupdate]
  refine ⟨h.mark hown hunique rfl hmac rfl, ?_⟩
  rcases hslot with ⟨hv, hsame⟩ | ⟨hnone, -, hv⟩
  · have hlast := h.last r.2 hv
    rw [hown hv] at hlast
    rw [hlast, hsame]
    simp [hv]
  · constructor
    · rintro ⟨hvalid, -⟩
      rw [hv] at hvalid
      cases hvalid
    · intro hlast
      obtain ⟨i, hi, himac⟩ := h.slot_of_lastHeard hlast
      exact absurd himac (hnone i hi)

end Origins

/-! ## Pending forwards -/

section Pending

variable {t : Fin maxPendingRelays → PendingRelay} {heard sent : List (Mac × UInt16)}

/-- Fewer active slots, and more heard. -/
theorem PendingInv.mono (h : PendingInv t heard sent) {t' : Fin maxPendingRelays → PendingRelay}
    {heard' : List (Mac × UInt16)} (hless : ∀ i, (t' i).active = true → t' i = t i)
    (hmore : ∀ k ∈ heard, k ∈ heard') : PendingInv t' heard' sent where
  unique i j hi hj hij := by
    have hit := hless i hi
    have hjt := hless j hj
    rw [hit] at hi hij
    rw [hjt] at hj hij
    exact h.unique i j hi hj hij
  pendingHeard i hi := by
    have hit := hless i hi
    rw [hit] at hi ⊢
    exact hmore _ (h.pendingHeard i hi)
  unsent i hi := by
    have hit := hless i hi
    rw [hit] at hi ⊢
    exact h.unsent i hi
  sentHeard k hk := hmore k (h.sentHeard k hk)
  nodup := h.nodup

theorem suppressPending_of_active {origin : Mac} {seq : UInt16} {i : Fin maxPendingRelays}
    (h : (suppressPending t origin seq i).active = true) :
    suppressPending t origin seq i = t i ∧ (t i).key ≠ (origin, seq) := by
  unfold suppressPending at h ⊢
  split at h
  · cases h
  · next hno =>
    rw [if_neg hno]
    refine ⟨rfl, fun hkey => hno ⟨h, ?_, ?_⟩⟩
    · exact congrArg Prod.snd hkey
    · exact congrArg Prod.fst hkey

/-- A forward is scheduled in an idle slot, if there is one. -/
theorem scheduleForward_spec (env : Env) (t : Fin maxPendingRelays → PendingRelay) (origin : Mac) (seq : UInt16)
    (newHop : UInt8) (inner : List UInt8) :
    scheduleForward env t origin seq newHop inner = t ∨
      ∃ i p, (t i).active = false ∧ p.key = (origin, seq) ∧
        scheduleForward env t origin seq newHop inner = Function.update t i p := by
  unfold scheduleForward
  cases hfree : Slots.find t fun p => !p.active with
  | none => exact Or.inl rfl
  | some i => exact Or.inr ⟨i, _, by simpa using Slots.find_eq_some hfree, rfl, rfl⟩

/-- **A packet not handled before** may be scheduled. -/
theorem PendingInv.schedule (h : PendingInv t heard sent) {key : Mac × UInt16} (hnew : key ∉ heard)
    (i : Fin maxPendingRelays) {p : PendingRelay} (hp : p.key = key) :
    PendingInv (Function.update t i p) (key :: heard) sent := by
  have hother : ∀ j, j ≠ i → (t j).active = true → (t j).key ≠ key :=
    fun j _ hj hjkey => hnew (hjkey ▸ h.pendingHeard j hj)
  refine ⟨?_, ?_, ?_, fun k hk => List.mem_cons_of_mem _ (h.sentHeard k hk), h.nodup⟩
  · refine Slots.distinct_update (fun p : PendingRelay => p.active = true) PendingRelay.key h.unique ?_
    intro j hj hjactive
    rw [hp]
    exact hother j hj hjactive
  · intro a ha
    by_cases hai : a = i
    · rw [hai, Function.update_self, hp]
      exact List.mem_cons_self
    · rw [Function.update_of_ne hai] at ha ⊢
      exact List.mem_cons_of_mem _ (h.pendingHeard a ha)
  · intro a ha
    by_cases hai : a = i
    · rw [hai, Function.update_self, hp]
      exact fun hsent => hnew (h.sentHeard _ hsent)
    · rw [Function.update_of_ne hai] at ha ⊢
      exact h.unsent a ha

/-- The packet a `0x05` frame is for. -/
def forwardKey (frame : List UInt8) : Mac × UInt16 :=
  ((MeshRelayHeader.ofFrame frame).origin, (MeshRelayHeader.ofFrame frame).seq)

theorem forwardKey_frame (p : PendingRelay) : forwardKey p.frame = p.key := by
  unfold forwardKey PendingRelay.frame
  rw [MeshRelayHeader.ofFrame_toFrame]
  rfl

theorem PendingRelay.active_of_due {p : PendingRelay} {now : UInt32} (h : p.due now = true) :
    p.active = true := by
  unfold PendingRelay.due at h
  simp only [Bool.and_eq_true] at h
  exact h.1

section Tick

variable {r : Relay} {now : UInt32}

/-- What a tick sends was pending and due. -/
theorem mem_processPendingRelays {k : Mac × UInt16}
    (h : k ∈ (processPendingRelays now r).2.map forwardKey) :
    ∃ i, (r.pendingRelays i).due now = true ∧ k = (r.pendingRelays i).key := by
  obtain ⟨frame, hframe, rfl⟩ := List.mem_map.1 h
  simp only [processPendingRelays] at hframe
  obtain ⟨i, hdue, rfl⟩ := Slots.mem_collect_ite.1 hframe
  exact ⟨i, hdue, forwardKey_frame _⟩

/-- What a tick leaves pending was not due. -/
theorem processPendingRelays_of_active {i : Fin maxPendingRelays}
    (h : ((processPendingRelays now r).1.pendingRelays i).active = true) :
    (processPendingRelays now r).1.pendingRelays i = r.pendingRelays i ∧
      (r.pendingRelays i).due now = false := by
  simp only [processPendingRelays] at h ⊢
  split at h
  · cases h
  · next hdue =>
    rw [if_neg hdue]
    exact ⟨rfl, by simpa using hdue⟩

/-- A tick sends no packet twice. -/
theorem processPendingRelays_nodup (h : PendingInv r.pendingRelays heard sent) :
    ((processPendingRelays now r).2.map forwardKey).Nodup := by
  have hmap : (processPendingRelays now r).2.map forwardKey =
      (List.finRange maxPendingRelays).filterMap fun i =>
        if (r.pendingRelays i).due now then some (r.pendingRelays i).key else none := by
    simp only [processPendingRelays, Slots.collect]
    rw [List.map_filterMap]
    congr 1
    funext i
    split
    · simp [forwardKey_frame]
    · rfl
  rw [hmap]
  apply List.Nodup.filterMap _ (List.nodup_finRange _)
  intro i j k hi hj
  simp only [Option.mem_def, Option.ite_none_right_eq_some, Option.some.injEq] at hi hj
  exact h.unique i j (PendingRelay.active_of_due hi.1) (PendingRelay.active_of_due hj.1) (hi.2.trans hj.2.symm)

/-- **A tick** moves what is due from pending to sent. -/
theorem processPendingRelays_inv (h : PendingInv r.pendingRelays heard sent) (now : UInt32) :
    PendingInv (processPendingRelays now r).1.pendingRelays heard
      (sent ++ (processPendingRelays now r).2.map forwardKey) := by
  have hless : PendingInv (processPendingRelays now r).1.pendingRelays heard sent :=
    h.mono (fun i hi => (processPendingRelays_of_active hi).1) fun k hk => hk
  refine { hless with unsent := ?_, sentHeard := ?_, nodup := ?_ }
  · intro i hi
    obtain ⟨hsame, hnotdue⟩ := processPendingRelays_of_active hi
    rw [hsame] at hi ⊢
    simp only [List.mem_append, not_or]
    refine ⟨h.unsent i hi, fun hk => ?_⟩
    -- a packet of the same key that was due would be in this very slot
    obtain ⟨j, hdue, hkey⟩ := mem_processPendingRelays hk
    rw [h.unique i j hi (PendingRelay.active_of_due hdue) hkey, hdue] at hnotdue
    cases hnotdue
  · intro k hk
    rcases List.mem_append.1 hk with hk | hk
    · exact h.sentHeard k hk
    · obtain ⟨j, hdue, rfl⟩ := mem_processPendingRelays hk
      exact h.pendingHeard j (PendingRelay.active_of_due hdue)
  · refine List.nodup_append.2 ⟨h.nodup, processPendingRelays_nodup h, ?_⟩
    rintro k hk k' hk' rfl
    obtain ⟨j, hdue, rfl⟩ := mem_processPendingRelays hk'
    exact h.unsent j (PendingRelay.active_of_due hdue) hk

end Tick

end Pending

/-! ## One copy -/

section Candidate

variable {env : Env} {r : Relay} {heard handled sent : List (Mac × UInt16)}

/-- What a copy does to the tables of a node that has heard `heard` since boot, and handled `handled`
in all. -/
theorem handleFloodCandidate_spec {masters : List Mac} (hcount : masters.length ≤ maxRelayOrigins)
    (ho : OriginsInv r.relayOrigins heard) (hp : PendingInv r.pendingRelays handled sent)
    (hheard : ∀ k ∈ heard, k.1 ∈ masters) {origin : Mac} {seq : UInt16} (hmem : origin ∈ masters)
    (hself : origin ≠ r.myMacAddress)
    (hlate : (origin, seq) ∈ handled → lastHeardSeq heard origin = some seq) (receivedHop : UInt8)
    (inner : List UInt8) (isRelay : Bool) :
    let r' := handleFloodCandidate env r origin seq receivedHop inner isRelay
    OriginsInv r'.relayOrigins ((origin, seq) :: heard) ∧
      PendingInv r'.pendingRelays ((origin, seq) :: handled) sent ∧
      (isRelay = true → (origin, seq) ∈ handled →
        ∀ i, (r'.pendingRelays i).active = true → (r'.pendingRelays i).key ≠ (origin, seq)) := by
  obtain ⟨hmark, hseen⟩ := markSeen_spec ho seq (ho.room hcount hheard hmem)
  set pending := if isRelay then suppressPending r.pendingRelays origin seq else r.pendingRelays with hpending
  have hless : ∀ i, (pending i).active = true → pending i = r.pendingRelays i := by
    intro i hi
    rw [hpending] at hi ⊢
    split at hi
    · next hrelay => rw [if_pos hrelay]; exact (suppressPending_of_active hi).1
    · next hrelay => rw [if_neg hrelay]
  have hkept : PendingInv pending ((origin, seq) :: handled) sent :=
    hp.mono hless (fun k hk => List.mem_cons_of_mem _ hk)
  unfold handleFloodCandidate
  rw [if_neg hself]
  dsimp only at hmark hseen ⊢
  generalize findOrCreateOrigin r.relayOrigins origin = found at hmark hseen
  obtain ⟨origins, i⟩ := found
  dsimp only at hmark hseen ⊢
  rw [← hpending]
  by_cases halready : (origins i).valid = true ∧ (origins i).lastSeq = seq
  · -- the last packet again: nothing is scheduled, and a relayed copy cancels ours
    rw [if_pos (by simpa using halready)]
    refine ⟨hmark, hkept, ?_⟩
    intro hrelay _ j hj
    dsimp only at hj ⊢
    rw [hpending, if_pos hrelay] at hj ⊢
    obtain ⟨hsame, hne⟩ := suppressPending_of_active hj
    rw [hsame]
    exact hne
  · -- a packet that was not handled before
    have hnew : (origin, seq) ∉ handled := fun hmem => halready (hseen.2 (hlate hmem))
    rw [if_neg (by simpa using halready)]
    split
    · exact ⟨hmark, hkept, fun _ hold => absurd hold hnew⟩
    · refine ⟨hmark, ?_, fun _ hold => absurd hold hnew⟩
      dsimp only
      rcases scheduleForward_spec env pending origin seq (receivedHop + 1) (inner.take mediaSyncSize) with
        hsame | ⟨j, p, -, hkey, hsched⟩
      · rw [hsame]
        exact hkept
      · rw [hsched]
        exact (hp.mono hless fun k hk => hk).schedule hnew j hkey

end Candidate

end Nowde
