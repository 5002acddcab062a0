import Nowde.Spec.Node

/-!
# The mesh clock (`lib/ESPNowMeshClock`)

Every node adds an offset to its own microsecond timer, and broadcasts the sum about once a second. A
node that hears a later time than its own moves its offset forward: at once when it was not synced or
the step is large, by a quarter of the step otherwise. Nothing but a reset moves an offset back.

The constructor's arguments are those of `nowde_state.cpp`. What a call reads is an argument: `micros`
is `_clock()`, `now` is `millis()`.
-/

namespace Nowde

/-- `_interval`. -/
def meshClockIntervalMs : UInt32 := 1000
/-- `_largeStep`. -/
def meshClockLargeStepUs : Int64 := 10000
/-- `_syncTimeout`. -/
def meshClockSyncTimeoutMs : UInt32 := 5000
/-- `_randomVariation`, in percent. -/
def meshClockRandomVariation : UInt32 := 10
/-- `TRANSMISSION_DELAY_US`. -/
def transmissionDelayUs : UInt64 := 1000

/-- The members of `ESPNowMeshClock` that change. -/
structure MeshClock where
  offset : UInt64 := 0
  synced : Bool := false
  lastSync : UInt32 := 0
  lastBroadcast : UInt32 := 0
  nextBroadcastDelay : UInt32 := 0
deriving DecidableEq

/-! ## Packets -/

/-- A 56-bit little-endian number at offset `i`. -/
def le56 (data : List UInt8) (i : ℕ) : UInt64 :=
  UInt64.ofNat (Nat.ofDigits 256 ((slice data i 7).map UInt8.toNat))

/-- The low 56 bits, little-endian. -/
def le56Bytes (x : UInt64) : List UInt8 := (List.range 7).map fun i => UInt8.ofNat (x.toNat / 256 ^ i)

/-- `MeshClockPacket`: the header `MCK` and the stamp. -/
def meshClockPacket (stamp : UInt64) : List UInt8 := [0x4D, 0x43, 0x4B] ++ le56Bytes stamp

namespace MeshClock

variable (c : MeshClock)

/-! ## Reading the clock -/

/-- `meshMicros()`. -/
def meshMicros (micros : UInt64) : UInt64 := micros + c.offset

/-- `meshMillis()`. -/
def meshMillis (micros : UInt64) : UInt32 := (c.meshMicros micros / 1000).toUInt32

/-- `meshMicrosStable()`, on the values that `meshMicros()` gives in turn: two reads less than a second
apart, of five at most. -/
def meshMicrosStable (read : ℕ → UInt64) : UInt64 :=
  go 4 1 (read 0)
where
  go : ℕ → ℕ → UInt64 → UInt64
    | 0, _, a => a
    | tries + 1, i, a =>
      let b := read i
      let diff := if b > a then b - a else a - b
      if diff < 1000000 then b else go tries (i + 1) b

/-- `getSyncState()`. -/
def getSyncState (now : UInt32) : SyncState :=
  if c.synced = false then .alone
  else if now - c.lastSync > meshClockSyncTimeoutMs then .lost
  else .synced

/-! ## Moving the clock -/

/-- `reset()`. -/
def reset : MeshClock := { c with synced := false, offset := 0, lastSync := 0 }

/-- `_adjust(remoteMicros)`. The slew is `(uint64_t)(delta * _alpha)` with `_alpha` 0.25: a step of
at most `_largeStep` is exact in a `float`, and so is its quarter. -/
def adjust (micros : UInt64) (now : UInt32) (remoteMicros : UInt64) : MeshClock :=
  let localMicros := micros + c.offset
  let delta := (remoteMicros - localMicros).toInt64
  if c.synced = false ∨ delta.abs > meshClockLargeStepUs then
    if delta > 0 then { c with offset := c.offset + delta.toUInt64, synced := true, lastSync := now }
    else { c with synced := true, lastSync := now }
  else if delta > 0 then { c with offset := c.offset + delta.toUInt64 / 4, lastSync := now }
  else { c with lastSync := now }

/-- `handleReceive(mac, data, len)`, which sorts a packet by its length and its header. -/
def handleReceive (micros : UInt64) (now : UInt32) (data : List UInt8) : MeshClock × Bool :=
  if isMeshClockPacket data then (c.adjust micros now (le56 data 3), true) else (c, false)

/-! ## The loop -/

/-- The frame of `_broadcast()`, with the reads of `meshMicrosStable()`. -/
def broadcast (read : ℕ → UInt64) : List UInt8 := meshClockPacket (meshMicrosStable read + transmissionDelayUs)

/-- `loop()`: the next delay is drawn around the interval in the first call after a broadcast. -/
def loop (now : UInt32) (entropy : ℕ) (read : ℕ → UInt64) : MeshClock × Option (List UInt8) :=
  let variation := meshClockIntervalMs * meshClockRandomVariation / 100
  -- `random(-variation, variation + 1)`
  let randomOffset : ℤ := -(variation.toNat : ℤ) + entropy % (2 * variation.toNat + 1)
  let nextBroadcastDelay :=
    if c.nextBroadcastDelay = 0 then UInt32.ofInt (meshClockIntervalMs.toNat + randomOffset) else c.nextBroadcastDelay
  if now - c.lastBroadcast ≥ nextBroadcastDelay then
    ({ c with lastBroadcast := now, nextBroadcastDelay := 0 }, some (broadcast read))
  else ({ c with nextBroadcastDelay := nextBroadcastDelay }, none)

end MeshClock

end Nowde
