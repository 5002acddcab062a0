import Nowde.Spec.State

/-!
# Controlled flooding (`mesh_relay.cpp`)

`handleFloodCandidate` dedups, suppresses and schedules; `processPendingRelays` fires what is
due. Both work on the node's `Relay` alone; frames go out by broadcast.
-/

namespace Nowde

/-- `findOrCreateOrigin(origin)`: the slot of the origin, and the table with that slot reset when
it is a new one. A full table reuses slot 0. -/
def findOrCreateOrigin (t : Fin maxRelayOrigins → RelayOriginEntry) (origin : Mac) :
    (Fin maxRelayOrigins → RelayOriginEntry) × Fin maxRelayOrigins :=
  match Slots.find t fun e => e.valid && e.mac == origin with
  | some i => (t, i)
  | none =>
    let i := (Slots.find t fun e => !e.valid).getD ⟨0, by decide⟩
    (Function.update t i { t i with valid := false, mac := origin }, i)

/-- `suppressPending(origin, seq)`. -/
def suppressPending (t : Fin maxPendingRelays → PendingRelay) (origin : Mac) (seq : UInt16) :
    Fin maxPendingRelays → PendingRelay :=
  fun i => if (t i).active ∧ (t i).seq = seq ∧ (t i).origin = origin then { t i with active := false } else t i

/-- The scheduling loop of `handleFloodCandidate`: the first idle slot takes the forward. -/
def scheduleForward (env : Env) (t : Fin maxPendingRelays → PendingRelay) (origin : Mac) (seq : UInt16)
    (newHop : UInt8) (inner : List UInt8) : Fin maxPendingRelays → PendingRelay :=
  match Slots.find t fun p => !p.active with
  | none => t
  | some i =>
    Function.update t i
      { active := true
        sendTime := env.millis + UInt32.ofNat (env.random meshRelayDelayMinMs (meshRelayDelayMaxMs + 1))
        hop := newHop
        origin := origin
        seq := seq
        payload := (t i).payload.blit inner
        payloadLen := UInt8.ofNat inner.length }

/-- `handleFloodCandidate(origin, seq, receivedHop, inner, innerLen, isRelay)`. -/
def handleFloodCandidate (env : Env) (r : Relay) (origin : Mac) (seq : UInt16) (receivedHop : UInt8)
    (inner : List UInt8) (isRelay : Bool) : Relay :=
  if origin = r.myMacAddress then r
  else
    let pending := if isRelay then suppressPending r.pendingRelays origin seq else r.pendingRelays
    let (origins, i) := findOrCreateOrigin r.relayOrigins origin
    let alreadySeen : Bool := (origins i).valid ∧ (origins i).lastSeq = seq
    let r := { r with
      pendingRelays := pending
      relayOrigins := Function.update origins i { origins i with valid := true, lastSeq := seq } }
    if alreadySeen then r
    else
      let newHop := receivedHop + 1
      if newHop > maxHops then r
      -- the defensive clamp of `innerLen` to the packet size
      else { r with pendingRelays := scheduleForward env pending origin seq newHop (inner.take mediaSyncSize) }

/-- The `0x05` frame a pending slot sends. -/
def PendingRelay.frame (p : PendingRelay) : List UInt8 :=
  MeshRelayHeader.toFrame ⟨p.origin, p.seq, p.hop⟩ ++ p.payload.bytes.take p.payloadLen.toNat

/-- A slot fires when its delay has run out: a plain comparison of `millis()` values. -/
def PendingRelay.due (now : UInt32) (p : PendingRelay) : Bool := p.active && now ≥ p.sendTime

/-- `processPendingRelays()`: the frames broadcast, in slot order. -/
def processPendingRelays (now : UInt32) (r : Relay) : Relay × List (List UInt8) :=
  ({ r with pendingRelays := fun i =>
      if (r.pendingRelays i).due now then { r.pendingRelays i with active := false } else r.pendingRelays i },
    Slots.collect r.pendingRelays fun p => if p.due now then some p.frame else none)

end Nowde
