import Nowde.Proof.MeshNode

/-!
# The hop limit

A forward carries the hop it was received with plus one, and the check before it is scheduled keeps it
at `MAX_HOPS`. The sum is a `uint8_t`, so a frame that arrives with hop 255 is forwarded with hop 0.

* `hopLimit_iff`: the limit holds for a frame exactly when it is not forwarded from hop 255.
-/

namespace Nowde

/-- The pending table when the scheduling loop may start: overhearing comes first, of other nodes'
packets. -/
def Relay.overheard (r : Relay) : Option FloodCandidate → Fin maxPendingRelays → PendingRelay
  | none => r.pendingRelays
  | some c => if c.origin = r.myMacAddress then r.pendingRelays else c.suppressed r.pendingRelays

/-- A forward is scheduled in slot `i`: idle when the loop may start, active after. -/
def Schedules (start : Fin maxPendingRelays → PendingRelay) (r' : Relay) (i : Fin maxPendingRelays) : Prop :=
  (start i).active = false ∧ (r'.pendingRelays i).active = true

/-- **The hop limit** for a frame received with `hop`: a forward scheduled is one hop further, within
the budget, and goes out with that hop. -/
def HopLimited (start : Fin maxPendingRelays → PendingRelay) (r' : Relay) (hop : UInt8) : Prop :=
  ∀ i, Schedules start r' i →
    (r'.pendingRelays i).hop.toNat = hop.toNat + 1 ∧ (r'.pendingRelays i).hop ≤ maxHops ∧
      (MeshRelayHeader.ofFrame (r'.pendingRelays i).frame).hop = (r'.pendingRelays i).hop

/-- A copy that is forwarded with hop 255 wrapped to 0: a new one, and a slot is idle for it. -/
def FloodCandidate.HopWraps (c : FloodCandidate) (r : Relay) : Prop :=
  c.hop = 255 ∧ c.origin ≠ r.myMacAddress ∧ r.remembers c.origin c.seq = false ∧
    ∃ i, (c.suppressed r.pendingRelays i).active = false

section Copy

variable {env : Env} {r : Relay} {c : FloodCandidate}

/-- Nothing is scheduled when the pending table stays as overhearing left it. -/
theorem hopLimited_of_eq {start : Fin maxPendingRelays → PendingRelay} {r' : Relay} (hop : UInt8)
    (h : r'.pendingRelays = start) : HopLimited start r' hop := by
  rintro i ⟨hidle, hactive⟩
  rw [h, hidle] at hactive
  cases hactive

/-- **The sum wraps at 255 only.** -/
theorem hop_succ_toNat_iff (hop : UInt8) : (hop + 1).toNat = hop.toNat + 1 ↔ hop ≠ 255 := by
  have hone : (1 : UInt8).toNat = 1 := rfl
  have hlt := hop.toNat_lt
  rw [UInt8.toNat_add, hone, ne_eq, ← UInt8.toNat_inj, show (255 : UInt8).toNat = 255 from rfl]
  omega

/-- What a slot sends carries its hop. -/
theorem PendingRelay.frame_hop (p : PendingRelay) : (MeshRelayHeader.ofFrame p.frame).hop = p.hop := by
  unfold PendingRelay.frame
  rw [MeshRelayHeader.ofFrame_toFrame]

/-- A forward scheduled is within the limit if its hop has not wrapped. -/
theorem hopLimited_forward_iff {t : Fin maxPendingRelays → PendingRelay} {r' : Relay} {j : Fin maxPendingRelays}
    (hj : (t j).active = false) (hafter : r'.pendingRelays = Function.update t j (c.forward env (t j)))
    (hfar : ¬c.hop + 1 > maxHops) : HopLimited t r' c.hop ↔ (c.hop + 1).toNat = c.hop.toNat + 1 := by
  have hslot : r'.pendingRelays j = c.forward env (t j) := by
    rw [hafter, Function.update_self]
  refine ⟨fun h => ?_, fun h k hk => ?_⟩
  · have hsched : Schedules t r' j := by
      refine ⟨hj, ?_⟩
      rw [hslot]
      rfl
    have := (h j hsched).1
    rw [hslot] at this
    exact this
  · -- the slot taken is the only one that was idle before and is active now
    have hkj : k = j := by
      by_contra hne
      have hkept := hk.2
      rw [hafter, Function.update_of_ne hne, hk.1] at hkept
      cases hkept
    subst hkj
    rw [PendingRelay.frame_hop, hslot]
    exact ⟨h, UInt8.not_lt.1 hfar, rfl⟩

/-- A full table drops the forward. -/
theorem scheduleForward_full {t : Fin maxPendingRelays → PendingRelay} (hfull : ¬∃ i, (t i).active = false)
    (origin : Mac) (seq : UInt16) (newHop : UInt8) (inner : List UInt8) :
    scheduleForward env t origin seq newHop inner = t := by
  have hnone : Slots.find t (fun p => !p.active) = none := by
    cases hfind : Slots.find t (fun p => !p.active) with
    | none => rfl
    | some i => exact absurd ⟨i, by simpa using Slots.find_eq_some hfind⟩ hfull
  unfold scheduleForward
  rw [hnone]

/-- **A copy keeps the limit exactly when it does not wrap.** -/
theorem FloodCandidate.hopLimited_iff :
    HopLimited (r.overheard (some c)) (c.handle env r) c.hop ↔ ¬c.HopWraps r := by
  by_cases hself : c.origin = r.myMacAddress
  · -- the node's own packet is not relayed
    have hover : r.overheard (some c) = r.pendingRelays := if_pos hself
    refine iff_of_true (hopLimited_of_eq _ ?_) fun hwraps => hwraps.2.1 hself
    unfold FloodCandidate.handle handleFloodCandidate
    rw [hover, if_pos hself]
  · have hover : r.overheard (some c) = c.suppressed r.pendingRelays := if_neg hself
    rw [hover]
    by_cases hno : r.remembers c.origin c.seq = true ∨ c.hop + 1 > maxHops
    · refine iff_of_true (hopLimited_of_eq _ ?_) ?_
      · rw [handle_pending hself, if_pos hno]
      · rintro ⟨hhop, -, hnew, -⟩
        rcases hno with hseen | hfar
        · rw [hnew] at hseen
          cases hseen
        · rw [hhop] at hfar
          exact absurd hfar (by decide)
    · obtain ⟨hnew, hhop⟩ := not_or.1 hno
      rw [Bool.not_eq_true] at hnew
      by_cases hidle : ∃ i, (c.suppressed r.pendingRelays i).active = false
      · obtain ⟨i, hi⟩ := hidle
        obtain ⟨j, hj, hafter⟩ := @handle_scheduled env r c hself hnew hhop i hi
        rw [hopLimited_forward_iff hj hafter hhop, hop_succ_toNat_iff]
        exact ⟨fun h hw => h hw.1, fun h h255 => h ⟨h255, hself, hnew, i, hi⟩⟩
      · refine iff_of_true (hopLimited_of_eq _ ?_) fun hwraps => hidle hwraps.2.2.2
        rw [handle_pending hself, if_neg hno, scheduleForward_full hidle]

end Copy

/-! ## Frames -/

/-- The hop of a `0x05` frame's copy is the one in its header. -/
theorem floodCandidate_hop {src : Mac} {data : List UInt8} {c : FloodCandidate}
    (hc : floodCandidate src data = some c) (h5 : byteAt data 0 = espnowMsgMeshRelay) :
    c.hop = (MeshRelayHeader.ofFrame data).hop := by
  unfold floodCandidate at hc
  split at hc
  · cases hc
  · rw [if_neg (by rw [h5]; exact fun h3 => absurd h3.2 (by decide))] at hc
    split at hc
    · split at hc
      · cases hc
      · cases hc
        rfl
    · cases hc

/-- **The hop limit holds for a `0x05` frame exactly when its copy, if it carries one, does not wrap**,
for every node and all its bytes. -/
theorem hopLimit_iff (lib : UpdateLib) (env : Env) (n : Node) (src : Mac) {data : List UInt8}
    (h5 : byteAt data 0 = espnowMsgMeshRelay) :
    HopLimited (n.relay.overheard (floodCandidate src data)) (onDataRecv lib env n src data).1.relay
        (MeshRelayHeader.ofFrame data).hop ↔
      ∀ c, floodCandidate src data = some c → ¬c.HopWraps n.relay := by
  rw [onDataRecv_relay]
  cases hc : floodCandidate src data with
  | none => exact iff_of_true (hopLimited_of_eq _ rfl) (by simp)
  | some c =>
    rw [← floodCandidate_hop hc h5]
    refine (@FloodCandidate.hopLimited_iff env n.relay c).trans ⟨fun h c' hc' => ?_, fun h => h c rfl⟩
    rw [← Option.some.inj hc']
    exact h

/-- A packet of master A as another node forwards it, received by a fresh slave. -/
def relayedAt (hop : UInt8) : Relay :=
  (onDataRecv noUpdate { millis := 0 } (boot plainBuild {} 0 slaveMac) (wire masterA (clip 5 1 1) (some (relayerMac, hop))).1
    (wire masterA (clip 5 1 1) (some (relayerMac, hop))).2).1.relay

/-- From hop 2 it is forwarded with hop 3. -/
theorem hopTwo_limited :
    HopLimited ((boot plainBuild {} 0 slaveMac).relay.overheard
      (floodCandidate relayerMac (wire masterA (clip 5 1 1) (some (relayerMac, 2))).2)) (relayedAt 2) 2 := by
  refine (hopLimit_iff noUpdate { millis := 0 } (boot plainBuild {} 0 slaveMac) relayerMac
    (show byteAt (wire masterA (clip 5 1 1) (some (relayerMac, 2))).2 0 = espnowMsgMeshRelay by decide +kernel)).2 ?_
  rintro c hc ⟨hhop, -⟩
  rw [floodCandidate_hop hc (by decide +kernel)] at hhop
  exact absurd hhop (by decide +kernel)

/-- **From hop 255 it is forwarded with hop 0.** -/
theorem hopWrapped_forwarded :
    ¬HopLimited ((boot plainBuild {} 0 slaveMac).relay.overheard
      (floodCandidate relayerMac (wire masterA (clip 5 1 1) (some (relayerMac, 255))).2)) (relayedAt 255) 255 := by
  intro h
  have hlimit := (h ⟨0, by decide⟩ ⟨by decide +kernel, by decide +kernel⟩).1
  exact absurd hlimit (by decide +kernel)

end Nowde
