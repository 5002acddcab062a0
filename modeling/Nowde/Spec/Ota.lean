import Nowde.Spec.State
import Nowde.Spec.Sysex7

/-!
# The firmware update commands (`sysex.cpp`)

`OTA_BEGIN`, `OTA_DATA`, `OTA_DATA_ACKED` and `OTA_END` work on the OTA statics and the
`Update` library alone. `data` is the whole SysEx frame and `length` its `uint8_t` length.
-/

namespace Nowde

/-! ## Replies -/

/-- The bytes of `sendErrorReport(errorCode, context, contextLength)`. -/
def errorReportMessage (errorCode : UInt8) (context : List UInt8) (contextLength : UInt8) : List UInt8 :=
  [sysexStart, sysexManufacturerId, sysexCmdErrorReport, errorCode, contextLength] ++
    context.take (min contextLength.toNat 32) ++ [sysexEnd]

/-- `sendErrorReport(errorCode, context, contextLength)`. -/
def sendErrorReport (errorCode : UInt8) (context : List UInt8) (contextLength : UInt8) : List Out :=
  [.host (.errorReport (errorReportMessage errorCode context contextLength))]

/-- `sendErrorReport(ERROR_CONFIG_INVALID, nullptr, 0)`. -/
def sendConfigInvalid : List Out := sendErrorReport errorConfigInvalid [] 0

/-- The `OTA_ACK` reply. -/
def sendOtaAck (seq st : UInt8) : List Out :=
  [.host (.sysExBytes [sysexStart, sysexManufacturerId, sysexCmdOtaAck, seq, st, sysexEnd])]

/-! ## The commands -/

/-- The size an `OTA_BEGIN` frame announces. -/
def otaAnnouncedSize (data : List UInt8) : UInt32 := be32 (decode7bit (slice data 3 5))

/-- `SYSEX_CMD_OTA_BEGIN`. -/
def otaBegin (lib : UpdateLib) (env : Env) (o : Ota) (data : List UInt8) (length : ℕ) : Ota × List Out :=
  if length ≥ 9 then
    let size := otaAnnouncedSize data
    let calls := if lib.isRunning o.calls then o.calls ++ [.abort] else o.calls
    if lib.begin calls size then
      ({ otaInProgress := true
         otaTotalSize := size
         otaReceivedSize := 0
         otaStartTime := env.millis
         calls := calls ++ [.begin size] }, [])
    else ({ o with otaTotalSize := size, calls := calls ++ [.begin size] }, sendConfigInvalid)
  else (o, [])

/-- `SYSEX_CMD_OTA_DATA`. The percentage only feeds the log, but it is divided out each time. -/
def otaData (lib : UpdateLib) (o : Ota) (data : List UInt8) (length : ℕ) : Ota × List Out :=
  if o.otaInProgress ∧ length > 4 then
    let decodedData := decode7bit (slice data 3 (length - 4))
    let calls := o.calls ++ [.write decodedData]
    if lib.write o.calls decodedData ≠ decodedData.length then
      ({ o with otaInProgress := false, calls := calls ++ [.abort] }, sendConfigInvalid)
    else
      ({ o with otaReceivedSize := o.otaReceivedSize + UInt32.ofNat decodedData.length, calls := calls },
        if o.otaTotalSize = 0 then [.divideByZero] else [])
  else (o, [])

/-- `SYSEX_CMD_OTA_DATA_ACKED`: status 0 written, 1 bad length, 2 write failed, 3 no session. -/
def otaDataAcked (lib : UpdateLib) (o : Ota) (data : List UInt8) (length : ℕ) : Ota × List Out :=
  let seq := if length ≥ 6 then byteAt data 3 else 0
  if o.otaInProgress ∧ length ≥ 6 then
    let want := byteAt data 4
    let decodedData := decode7bit (slice data 5 (length - 6))
    if decodedData.length ≠ want.toNat ∨ want = 0 then (o, sendOtaAck seq 1)
    else
      let calls := o.calls ++ [.write decodedData]
      if lib.write o.calls decodedData ≠ decodedData.length then
        ({ o with otaInProgress := false, calls := calls ++ [.abort] }, sendOtaAck seq 2)
      else
        ({ o with otaReceivedSize := o.otaReceivedSize + UInt32.ofNat decodedData.length, calls := calls },
          sendOtaAck seq 0)
  else (o, sendOtaAck seq 3)

/-- `SYSEX_CMD_OTA_END`. -/
def otaEnd (lib : UpdateLib) (o : Ota) : Ota × List Out :=
  if o.otaInProgress then
    if o.otaReceivedSize ≠ o.otaTotalSize then
      ({ o with otaInProgress := false, calls := o.calls ++ [.abort] }, sendConfigInvalid)
    else if lib.finish o.calls then ({ o with calls := o.calls ++ [.finish] }, [.restart])
    else ({ o with otaInProgress := false, calls := o.calls ++ [.finish] }, sendConfigInvalid)
  else (o, [])

end Nowde
