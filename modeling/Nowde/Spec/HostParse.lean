import Nowde.Spec.Tools
import Mathlib.Data.List.DropRight

/-!
# The host's reader (`tools/nowde_sysex.py`, `parse`)

`parse` takes the bytes between `F0` and `F7` and returns the command's name and what the frame says.
Trailers came with later releases: each is read when the frame is long enough for it.
-/

namespace Nowde.Host

/-! ## Text -/

/-- `bytes(b).decode('ascii', 'ignore')`. -/
def asciiText (b : List UInt8) : List Char := (b.filter (· < 0x80)).map fun c => Char.ofNat c.toNat

/-- `text.rstrip('\x00')`. -/
def rstrip (text : List Char) : List Char := text.rdropWhile (· = Char.ofNat 0)

/-- One digit of `%X`. -/
def hexDigit (n : ℕ) : Char := if n < 10 then Char.ofNat (48 + n) else Char.ofNat (55 + n)

/-- `'%02X' % b`. -/
def hex2 (b : UInt8) : List Char := [hexDigit (b.toNat / 16), hexDigit (b.toNat % 16)]

/-- `sep.join('%02X' % b for b in bs)`. -/
def joinHex (sep : Char) (bs : List UInt8) : List Char := List.intercalate [sep] (bs.map hex2)

/-- `from_u32be(b)`. -/
def fromU32be (b : List UInt8) : ℕ := (be32 b).toNat

/-- Two 7-bit bytes, `(hi << 7) | lo`. -/
def from14 (hi lo : UInt8) : ℕ := hi.toNat <<< 7 ||| lo.toNat

/-! ## The tables -/

/-- `CMD_NAMES`. -/
def cmdNames : List (UInt8 × String) :=
  [(0x01, "QUERY_CONFIG"), (0x02, "PUSH_FULL_CONFIG"), (0x03, "QUERY_RUNNING_STATE"), (0x05, "OTA_BEGIN"),
    (0x06, "OTA_DATA"), (0x07, "OTA_END"), (0x08, "SET_ROLE"), (0x09, "SET_LOCAL_LAYER"), (0x0A, "SET_LOG"),
    (0x0D, "SET_LOSS_POLICY"), (0x0E, "SET_ORIGIN"), (0x10, "MEDIA_SYNC"), (0x11, "CHANGE_RECEIVER_LAYER"),
    (0x20, "HELLO"), (0x21, "CONFIG_STATE"), (0x22, "RUNNING_STATE"), (0x30, "ERROR_REPORT"), (0x31, "LOG")]

/-- `ROLE_NAMES`. -/
def roleNames : List (UInt8 × String) := [(0, "slave"), (1, "master"), (2, "legacy"), (0x7F, "auto")]

/-- `BOARD_NAMES`. -/
def boardNames : List (UInt8 × String) := [(0, "unknown"), (1, "devkit"), (2, "atoms3"), (3, "atoms3-lite")]

/-- `ERROR_NAMES`. -/
def errorNames : List (UInt8 × String) :=
  [(0x01, "CONFIG_INVALID"), (0x02, "SYSEX_PARSE_ERROR"), (0x03, "ESPNOW_SEND_FAILED"),
    (0x04, "MESH_CLOCK_LOST_SYNC"), (0x05, "RECEIVER_TIMEOUT"), (0xFF, "UNKNOWN")]

/-- `RESET_REASONS`. -/
def resetReasons : List (UInt8 × String) :=
  [(1, "POWERON"), (3, "SW"), (4, "PANIC"), (5, "INT_WDT"), (6, "TASK_WDT"), (7, "WDT"), (8, "DEEPSLEEP"),
    (9, "BROWNOUT"), (10, "SDIO"), (11, "USB"), (12, "JTAG"), (13, "EFUSE"), (14, "PWR_GLITCH"),
    (15, "CPU_LOCKUP")]

/-- `CMD_NAMES.get(cmd, '0x%02X' % cmd)`. -/
def cmdName (cmd : UInt8) : String := (cmdNames.lookup cmd).getD ("0x" ++ String.ofList (hex2 cmd))

/-- `ROLE_NAMES.get(role, '?')`. -/
def roleName (role : UInt8) : String := (roleNames.lookup role).getD "?"

/-- `BOARD_NAMES.get(board, '?')`. -/
def boardName (board : UInt8) : String := (boardNames.lookup board).getD "?"

/-- `ERROR_NAMES.get(code, hex(code))`. -/
def errorName (code : UInt8) : String :=
  (errorNames.lookup code).getD ("0x" ++ String.ofList (Nat.toDigits 16 code.toNat))

/-- `RESET_REASONS.get(reason, 'UNKNOWN_%d' % reason)`. -/
def bootName (reason : UInt8) : String := (resetReasons.lookup reason).getD ("UNKNOWN_" ++ toString reason.toNat)

/-! ## What a frame says -/

/-- The dictionary of a `HELLO`; a trailer that is not there is `none`. -/
structure HelloInfo where
  version : List Char
  uptimeMs : ℕ
  boot : String
  role : Option String := none
  board : Option String := none
  syncQuality : Option ℕ := none
  lr : Option Bool := none
  syncGaps : Option ℕ := none
deriving DecidableEq

/-- The last trailer of a `CONFIG_STATE`; `origin` is `None` without a lock. -/
structure ConfigTail where
  stopOnLinkLost : Bool
  originPinned : Bool
  origin : Option (List Char)
deriving DecidableEq

/-- The trailer before it. -/
structure ConfigTrailer where
  role : String
  board : String
  layer : List Char
  tail : Option ConfigTail
deriving DecidableEq

/-- The dictionary of a `CONFIG_STATE`. -/
structure ConfigInfo where
  rfSim : Bool
  rfSimDelayMs : ℕ
  trailer : Option ConfigTrailer
deriving DecidableEq

/-- One entry of `receivers`. -/
structure ReceiverReading where
  mac : List Char
  macBytes : List UInt8
  layer : List Char
  version : List Char
  lastSeenMs : ℕ
  index : ℕ
  syncQuality : ℕ
  syncGaps : ℕ
deriving DecidableEq

/-- The dictionary of a `RUNNING_STATE`. -/
structure RunningInfo where
  uptimeMs : ℕ
  synced : Bool
  total : ℕ
  chunk : ℕ
  chunks : ℕ
  receivers : List ReceiverReading
deriving DecidableEq

/-- The dictionary `parse` returns. -/
inductive Reply
  | hello (info : HelloInfo)
  | configState (info : ConfigInfo)
  | runningState (info : RunningInfo)
  | log (text : List Char)
  | errorReport (error : String) (ctx : List Char)
  | mediaSync (layer : List Char) (index positionMs : ℕ) (playing : Bool)
  | changeReceiverLayer (mac layer : List Char)
  | setRole (role : String)
  | setLocalLayer (layer : List Char)
  | setLossPolicy (policy : String)
  | setOrigin (origin : Option (List Char))
  | raw (text : List Char)
deriving DecidableEq

/-! ## Reading -/

/-- The `HELLO` branch; `d` is the payload after the command byte. -/
def parseHello (d : List UInt8) : HelloInfo where
  version := rstrip (asciiText ((decode7 (slice d 0 10)).take 8))
  uptimeMs := fromU32be (decode7 (slice d 10 5))
  boot := bootName (byteAt d 15)
  role := if d.length ≥ 18 then some (roleName (byteAt d 16)) else none
  board := if d.length ≥ 18 then some (boardName (byteAt d 17)) else none
  syncQuality := if d.length ≥ 19 then some (byteAt d 18).toNat else none
  lr := if d.length ≥ 20 then some (byteAt d 19 ≠ 0) else none
  syncGaps := if d.length ≥ 22 then some (from14 (byteAt d 20) (byteAt d 21)) else none

/-- The trailer behind the layer, which ends at `tail`. -/
def parseConfigTail (d : List UInt8) (tail : ℕ) : Option ConfigTail :=
  if d.length ≥ tail + 9 then some
    { stopOnLinkLost := byteAt d tail ≠ 0
      originPinned := byteAt d (tail + 1) = 2
      origin := if byteAt d (tail + 1) ≠ 0 then some (joinHex ':' ((decode7 (slice d (tail + 2) 7)).take 6))
        else none }
  else none

/-- The `CONFIG_STATE` branch. -/
def parseConfigState (d : List UInt8) : ConfigInfo where
  rfSim := byteAt d 0 ≠ 0
  rfSimDelayMs := from14 (byteAt d 1) (byteAt d 2)
  trailer :=
    if d.length ≥ 6 then some
      { role := roleName (byteAt d 3)
        board := boardName (byteAt d 4)
        layer := asciiText (slice d 6 (byteAt d 5).toNat)
        tail := parseConfigTail d (6 + (byteAt d 5).toNat) }
    else none

/-- A receiver record of 36 bytes or more. -/
def parseReceiver (r : List UInt8) : ReceiverReading where
  mac := joinHex ':' (slice r 0 6)
  macBytes := slice r 0 6
  layer := rstrip (asciiText (slice r 6 16))
  version := rstrip (asciiText (slice r 22 8))
  lastSeenMs := fromU32be (slice r 30 4)
  index := (byteAt r 35).toNat
  syncQuality := if r.length ≥ 37 then (byteAt r 36).toNat else 0xFF
  syncGaps := if r.length ≥ 39 then (byteAt r 37).toNat <<< 8 ||| (byteAt r 38).toNat else 0

/-- The loop over the records of a chunk: `count` of them from `idx` on, 45 bytes each. -/
def parseReceivers (d : List UInt8) : ℕ → ℕ → List ReceiverReading
  | 0, _ => []
  | count + 1, idx =>
    let r := decode7 (slice d idx 45)
    if r.length < 36 then [] else parseReceiver r :: parseReceivers d count (idx + 45)

/-- The `RUNNING_STATE` branch. -/
def parseRunningState (d : List UInt8) : RunningInfo where
  uptimeMs := fromU32be (decode7 (slice d 0 5))
  synced := byteAt d 5 ≠ 0
  total := (byteAt d 6).toNat
  chunk := (byteAt d 7).toNat
  chunks := (byteAt d 8).toNat
  receivers := parseReceivers d (byteAt d 9).toNat 10

/-- The branches of `parse`, by command byte. -/
def parsePayload (cmd : UInt8) (d : List UInt8) : Reply :=
  if cmd = 0x20 ∧ d.length ≥ 16 then .hello (parseHello d)
  else if cmd = 0x21 ∧ d.length ≥ 3 then .configState (parseConfigState d)
  else if cmd = 0x22 ∧ d.length ≥ 10 then .runningState (parseRunningState d)
  else if cmd = 0x31 then .log (asciiText (d.map (· &&& 0x7F)))
  else if cmd = 0x30 ∧ d.length ≥ 2 then
    .errorReport (errorName (byteAt d 0)) (joinHex ' ' (slice d 2 (byteAt d 1).toNat))
  else if cmd = 0x10 ∧ d.length ≥ 23 then
    .mediaSync (rstrip (asciiText (slice d 0 16))) (byteAt d 16).toNat (fromU32be (decode7 (slice d 17 5)))
      (byteAt d 22 = 1)
  else if cmd = 0x11 ∧ d.length ≥ 26 then
    .changeReceiverLayer (joinHex ':' (decode7 (slice d 0 7))) (rstrip (asciiText (decode7 (slice d 7 19))))
  else if cmd = 0x08 ∧ d.length ≥ 1 then .setRole (roleName (byteAt d 0))
  else if cmd = 0x09 then .setLocalLayer (asciiText d)
  else if cmd = 0x0D ∧ d.length ≥ 1 then .setLossPolicy (if byteAt d 0 ≠ 0 then "stop" else "freewheel")
  else if cmd = 0x0E then
    .setOrigin (if d.length ≥ 7 then some (joinHex ':' ((decode7 (slice d 0 7)).take 6)) else none)
  else .raw (joinHex ' ' d)

/-- `parse(data)`; `none` is `None, {}`. -/
def parse (data : List UInt8) : Option (String × Reply) :=
  if data.length < 2 ∨ byteAt data 0 ≠ 0x7D then none
  else some (cmdName (byteAt data 1), parsePayload (byteAt data 1) (data.drop 2))

/-- The bytes between `F0` and `F7` of a frame. -/
def payload (frame : List UInt8) : List UInt8 := frame.tail.dropLast

end Nowde.Host
