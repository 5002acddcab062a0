import Nowde.Spec.Config

/-!
# C strings in fixed buffers

What `strncpy`, the terminating `'\0'` and `strncmp` do, in terms of the string a buffer holds.

* `cstr_strncpy_terminate`: the copy that every fixed buffer of the firmware gets.
* `strncmpEq_iff`: equal up to `n` bytes means equal strings, cut to `n`.
-/

namespace Nowde

theorem cstr_cons (b : UInt8) (s : List UInt8) : cstr (b :: s) = if b = 0 then [] else b :: cstr s := by
  unfold cstr
  rw [List.takeWhile_cons]
  by_cases hb : b = 0
  · simp [hb]
  · simp [hb]

/-- Cutting the buffer cuts the string. -/
theorem cstr_take (s : List UInt8) (n : ℕ) : cstr (s.take n) = (cstr s).take n := by
  induction s generalizing n with
  | nil => rw [List.take_nil, show cstr ([] : List UInt8) = [] from rfl, List.take_nil]
  | cons b s ih =>
    cases n with
    | zero => rfl
    | succ n =>
      rw [List.take_succ_cons, cstr_cons, cstr_cons, ih]
      split
      · rw [List.take_nil]
      · rw [List.take_succ_cons]

/-- A string ends at its first NUL. -/
theorem cstr_append_zeros (s : List UInt8) (k : ℕ) : cstr (s ++ List.replicate k 0) = cstr s := by
  induction s with
  | nil => cases k <;> rfl
  | cons b s ih => rw [List.cons_append, cstr_cons, cstr_cons, ih]

theorem zero_notMem_cstr (s : List UInt8) : 0 ∉ cstr s := by
  induction s with
  | nil => simp [cstr]
  | cons b s ih =>
    rw [cstr_cons]
    split
    · simp
    · next hb => simp [Ne.symm hb, ih]

theorem cstr_length_le (s : List UInt8) : (cstr s).length ≤ s.length := (List.takeWhile_sublist _).length_le

/-- A string is its own C string. -/
theorem cstr_of_notMem {s : List UInt8} (h : 0 ∉ s) : cstr s = s := by
  induction s with
  | nil => rfl
  | cons b s ih =>
    simp only [List.mem_cons, not_or] at h
    rw [cstr_cons, if_neg (Ne.symm h.1), ih h.2]

@[simp] theorem cstr_cstr (s : List UInt8) : cstr (cstr s) = cstr s := cstr_of_notMem (zero_notMem_cstr s)

theorem zero_notMem_take_cstr (s : List UInt8) (n : ℕ) : 0 ∉ (cstr s).take n :=
  fun h => zero_notMem_cstr s (List.mem_of_mem_take h)

/-- `strncpy` copies the string, cut to the buffer, and fills up with NULs. -/
theorem bytes_strncpy (n : ℕ) (src : List UInt8) : (CharBuf.strncpy n src).bytes =
    (cstr src).take n ++ List.replicate (n - ((cstr src).take n).length) 0 := by
  have hlen : ((cstr src).take n).length ≤ n := List.length_take_le _ _
  unfold CharBuf.strncpy CharBuf.blit CharBuf.zero
  dsimp only
  rw [cstr_take, List.take_of_length_le hlen, List.drop_replicate]

theorem cstr_strncpy (n : ℕ) (src : List UInt8) : cstr (CharBuf.strncpy n src).bytes = (cstr src).take n := by
  rw [bytes_strncpy, cstr_append_zeros, cstr_of_notMem (zero_notMem_take_cstr src n)]

/-- The terminator cuts the string once more. -/
theorem cstr_terminate {n : ℕ} (b : CharBuf n) : cstr b.terminate.bytes = (cstr b.bytes).take (n - 1) := by
  rw [← cstr_take]
  unfold CharBuf.terminate
  dsimp only
  rw [cstr_append_zeros]

/-- **A terminated copy** holds the string, cut to one less than the buffer. -/
theorem cstr_strncpy_terminate (n : ℕ) (src : List UInt8) :
    cstr (CharBuf.strncpy n src).terminate.bytes = (cstr src).take (n - 1) := by
  rw [cstr_terminate, cstr_strncpy, List.take_take, Nat.min_eq_left (Nat.sub_le n 1)]

/-- And has nothing but NULs behind it. -/
theorem bytes_strncpy_terminate {n : ℕ} (hn : 0 < n) (src : List UInt8) : (CharBuf.strncpy n src).terminate.bytes =
    (cstr src).take (n - 1) ++ List.replicate (n - ((cstr src).take (n - 1)).length) 0 := by
  unfold CharBuf.terminate
  dsimp only
  rw [bytes_strncpy, List.take_append, List.take_take, List.take_replicate, List.append_assoc,
    List.replicate_append_replicate, Nat.min_eq_left (Nat.sub_le n 1)]
  congr 2
  simp only [List.length_take]
  omega

theorem strncmpEq_iff {a b : List UInt8} {n : ℕ} : strncmpEq a b n = true ↔ (cstr a).take n = (cstr b).take n := by
  unfold strncmpEq
  rw [cstr_take, cstr_take, decide_eq_true_eq]

end Nowde
