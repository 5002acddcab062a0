import Nowde.Spec.State

/-!
# The `Update` library

The library itself is not part of the repository. `UpdateLib.Documented` is what its documentation
promises and the firmware builds on; `flashLib` is a library that keeps the promises.
-/

namespace Nowde

/-! ## The session the calls describe -/

/-- The session opened last: the size announced for it and the bytes written since. -/
structure UpdateSession where
  size : UInt32 := 0
  bytes : List UInt8 := []
deriving DecidableEq

/-- One call after the calls `done`: a refused `begin` opens nothing, and `write` answers how
many bytes it took. -/
def UpdateSession.next (lib : UpdateLib) (done : List UpdateCall) (s : UpdateSession) : UpdateCall → UpdateSession
  | .begin size => if lib.begin done size then { size := size } else s
  | .write bytes => { s with bytes := s.bytes ++ bytes.take (lib.write done bytes) }
  | .abort => s
  | .finish => s

/-- The session after some calls. -/
def updateSession (lib : UpdateLib) (calls : List UpdateCall) : UpdateSession :=
  (calls.foldl (fun r c => (r.1 ++ [c], r.2.next lib r.1 c)) (([], {}) : List UpdateCall × UpdateSession)).2

variable {lib : UpdateLib} {calls : List UpdateCall} {size : UInt32} {bytes : List UInt8}

theorem updateSession_append (c : UpdateCall) :
    updateSession lib (calls ++ [c]) = (updateSession lib calls).next lib calls c := by
  have hdone : ∀ (l : List UpdateCall) (r : List UpdateCall × UpdateSession),
      (l.foldl (fun r c => (r.1 ++ [c], r.2.next lib r.1 c)) r).1 = r.1 ++ l := by
    intro l
    induction l with
    | nil => intro r; simp
    | cons c l ih => intro r; simp [ih]
  unfold updateSession
  rw [List.foldl_append]
  simp only [List.foldl_cons, List.foldl_nil, hdone, List.nil_append]

theorem updateSession_begin (h : lib.begin calls size = true) :
    updateSession lib (calls ++ [.begin size]) = { size := size } := by
  rw [updateSession_append]
  simp [UpdateSession.next, h]

theorem updateSession_write (h : lib.write calls bytes = bytes.length) :
    updateSession lib (calls ++ [.write bytes]) =
      { updateSession lib calls with bytes := (updateSession lib calls).bytes ++ bytes } := by
  rw [updateSession_append]
  simp [UpdateSession.next, h]

/-! ## What the library promises -/

/-- `begin` opens a session of a nonzero size for which there is room, `abort` and `end` close it,
and `write` takes bytes inside one, up to the announced size. -/
structure UpdateLib.Documented (lib : UpdateLib) : Prop where
  isRunning_nil : lib.isRunning [] = false
  begin_zero : ∀ calls, lib.begin calls 0 = false
  isRunning_begin : ∀ calls size, lib.isRunning calls = false →
    lib.isRunning (calls ++ [.begin size]) = lib.begin calls size
  isRunning_abort : ∀ calls, lib.isRunning (calls ++ [.abort]) = false
  isRunning_finish : ∀ calls, lib.isRunning (calls ++ [.finish]) = false
  write_idle : ∀ calls bytes, lib.isRunning calls = false → lib.write calls bytes = 0
  isRunning_write : ∀ calls bytes, lib.isRunning calls = true → lib.write calls bytes = bytes.length →
    lib.isRunning (calls ++ [.write bytes]) = true
  write_room : ∀ calls bytes, lib.isRunning calls = true → lib.write calls bytes = bytes.length →
    (updateSession lib calls).bytes.length + bytes.length ≤ (updateSession lib calls).size.toNat

/-- A flash that never fails: inside a session every write up to the announced size is taken whole. -/
def UpdateLib.WritesAll (lib : UpdateLib) : Prop :=
  ∀ calls bytes, lib.isRunning calls = true →
    (updateSession lib calls).bytes.length + bytes.length ≤ (updateSession lib calls).size.toNat →
    lib.write calls bytes = bytes.length

/-! ## A library over a partition -/

/-- The open session of a partition, by its size and the number of bytes written. -/
structure Flash where
  session : Option (ℕ × ℕ) := none

/-- One call, on a partition of `room` bytes. -/
def Flash.next (room : ℕ) (f : Flash) : UpdateCall → Flash
  | .begin size =>
    match f.session with
    | some _ => f
    | none => if 0 < size.toNat ∧ size.toNat ≤ room then ⟨some (size.toNat, 0)⟩ else ⟨none⟩
  | .write bytes =>
    match f.session with
    | some (size, written) =>
      if written + bytes.length ≤ size then ⟨some (size, written + bytes.length)⟩ else ⟨none⟩
    | none => ⟨none⟩
  | .abort => ⟨none⟩
  | .finish => ⟨none⟩

/-- The partition after some calls. -/
def flash (room : ℕ) (calls : List UpdateCall) : Flash := calls.foldl (Flash.next room) {}

/-- The library over a partition of `room` bytes; it accepts an image once it is complete. -/
def flashLib (room : ℕ) : UpdateLib where
  begin calls size :=
    (flash room calls).session.isNone && ((flash room calls).next room (.begin size)).session.isSome
  write calls bytes := if ((flash room calls).next room (.write bytes)).session.isSome then bytes.length else 0
  finish calls := (flash room calls).session.any fun s => s.1 = s.2
  isRunning calls := (flash room calls).session.isSome

theorem flash_append (room : ℕ) (calls : List UpdateCall) (c : UpdateCall) :
    flash room (calls ++ [c]) = (flash room calls).next room c := by
  simp [flash]

/-- An open partition holds the session the calls describe. -/
theorem updateSession_flash {room : ℕ} {calls : List UpdateCall} {size written : ℕ}
    (h : (flash room calls).session = some (size, written)) :
    (updateSession (flashLib room) calls).size.toNat = size ∧
      (updateSession (flashLib room) calls).bytes.length = written ∧ written ≤ size := by
  -- by the last call
  induction calls using List.reverseRecOn generalizing size written with
  | nil => cases h
  | append_singleton calls c ih =>
    rw [flash_append] at h
    rw [updateSession_append]
    cases c with
    | begin s =>
      cases hf : (flash room calls).session with
      | some p =>
        -- refused, the open session goes on
        have hsame : (flash room calls).session = some (size, written) := by
          rw [← h]; simp only [Flash.next, hf]
        have hno : (flashLib room).begin calls s = false := by simp [flashLib, hf]
        simp only [UpdateSession.next, hno]
        exact ih hsame
      | none =>
        simp only [Flash.next, hf] at h
        split at h
        · next hs =>
          cases h
          have hyes : (flashLib room).begin calls s = true := by
            simp [flashLib, hf, Flash.next, hs.1, hs.2]
          simp [UpdateSession.next, hyes]
        · cases h
    | write bytes =>
      cases hf : (flash room calls).session with
      | some p =>
        obtain ⟨size', written'⟩ := p
        obtain ⟨hsize, hlen, hle⟩ := ih hf
        simp only [Flash.next, hf] at h
        split at h
        · next hroom =>
          cases h
          have hall : (flashLib room).write calls bytes = bytes.length := by
            simp [flashLib, Flash.next, hf, hroom]
          simp only [UpdateSession.next, hall, List.take_length, List.length_append]
          exact ⟨hsize, by omega, hroom⟩
        · cases h
      | none => simp only [Flash.next, hf] at h; cases h
    | abort => cases h
    | finish => cases h

theorem flashLib_documented (room : ℕ) : (flashLib room).Documented where
  isRunning_nil := rfl
  begin_zero calls := by
    cases hf : (flash room calls).session with
    | some p => simp [flashLib, hf]
    | none => simp [flashLib, hf, Flash.next]
  isRunning_begin calls size h := by
    have hf : (flash room calls).session = none := by simpa [flashLib] using h
    simp only [flashLib, flash_append, hf, Option.isNone_none, Bool.true_and]
  isRunning_abort calls := by simp [flashLib, flash_append, Flash.next]
  isRunning_finish calls := by simp [flashLib, flash_append, Flash.next]
  write_idle calls bytes h := by
    have hf : (flash room calls).session = none := by simpa [flashLib] using h
    simp [flashLib, Flash.next, hf]
  isRunning_write calls bytes h hw := by
    obtain ⟨⟨size, written⟩, hf⟩ := Option.isSome_iff_exists.1 h
    obtain ⟨-, -, hle⟩ := updateSession_flash hf
    by_cases hroom : written + bytes.length ≤ size
    · simp [flashLib, flash_append, Flash.next, hf, hroom]
    · -- a refused write answers 0, so it was an empty one, for which there is room
      have hempty : 0 = bytes.length := by simpa [flashLib, Flash.next, hf, hroom] using hw
      exact absurd (by omega) hroom
  write_room calls bytes h hw := by
    obtain ⟨⟨size, written⟩, hf⟩ := Option.isSome_iff_exists.1 h
    obtain ⟨hsize, hlen, hle⟩ := updateSession_flash hf
    rw [hsize, hlen]
    by_contra hroom
    have hempty : 0 = bytes.length := by simpa [flashLib, Flash.next, hf, hroom] using hw
    omega

theorem flashLib_writesAll (room : ℕ) : (flashLib room).WritesAll := by
  intro calls bytes h hfit
  obtain ⟨⟨size, written⟩, hf⟩ := Option.isSome_iff_exists.1 h
  obtain ⟨hsize, hlen, -⟩ := updateSession_flash hf
  rw [hsize, hlen] at hfit
  simp [flashLib, Flash.next, hf, hfit]

/-- A complete image is accepted. -/
theorem flashLib_finish {room : ℕ} {calls : List UpdateCall} (h : (flashLib room).isRunning calls = true)
    (hall : (updateSession (flashLib room) calls).bytes.length =
      (updateSession (flashLib room) calls).size.toNat) : (flashLib room).finish calls = true := by
  obtain ⟨⟨size, written⟩, hf⟩ := Option.isSome_iff_exists.1 h
  obtain ⟨hsize, hlen, -⟩ := updateSession_flash hf
  have heq : size = written := by omega
  simp [flashLib, hf, heq]

end Nowde
