import Mathlib.Data.List.Basic
import Nowde.Lib.Run

/-!
# Cutting a stream into lines

A stream is cut at each `newline`, some of its items are kept, and a line is cut again every `most` items.
`put` does so item by item with a line buffer; `linesOf` says what a whole stream is cut into.

* `run_put`: the lines put out so far and the buffer are the lines of what was put in, however that came.
* `linesOf_flatten`: what is kept comes out, each item once and in order.
* `of_mem_linesOf`: no line is empty or too long.
-/

namespace Lines

variable {α : Type*} [DecidableEq α] (newline : α) (keep : α → Bool) (most : ℕ)

/-! ## The lines of a stream -/

/-- A line in pieces of `most` items, the last one shorter. -/
def pieces : List α → List (List α)
  | [] => []
  | x :: xs => (x :: xs.take (most - 1)) :: pieces (xs.drop (most - 1))
termination_by xs => xs.length

/-- The lines of a stream that goes on from what is in `buffer`. -/
def linesFrom (buffer xs : List α) : List (List α) :=
  (((xs.splitOn newline).map (List.filter keep)).modifyHead (buffer ++ ·)).flatMap (pieces most)

/-- The lines of a stream. -/
def linesOf (xs : List α) : List (List α) := (xs.splitOn newline).flatMap fun line => pieces most (line.filter keep)

/-- One more item, with the line buffer; an item that finds the buffer full empties it first. -/
def put (buffer : List α) (x : α) : List α × List (List α) :=
  let flush := x = newline ∨ most ≤ buffer.length
  let start := if flush then [] else buffer
  (if x ≠ newline ∧ keep x then start ++ [x] else start, if flush ∧ buffer ≠ [] then [buffer] else [])

variable {newline keep most}

section Pieces

omit [DecidableEq α]

@[simp] theorem pieces_nil : pieces most ([] : List α) = [] := by rw [pieces]

theorem pieces_cons (x : α) (xs : List α) :
    pieces most (x :: xs) = (x :: xs.take (most - 1)) :: pieces most (xs.drop (most - 1)) := by rw [pieces]

/-- A full piece comes first. -/
theorem pieces_append (hmost : 0 < most) {full : List α} (hfull : full.length = most) (xs : List α) :
    pieces most (full ++ xs) = full :: pieces most xs := by
  cases full with
  | nil => exact absurd hfull (by simp; omega)
  | cons x full =>
    have hlength : full.length = most - 1 := by
      rw [List.length_cons] at hfull
      omega
    rw [List.cons_append, pieces_cons, ← hlength, List.take_left, List.drop_left]

/-- A buffer that is not too long is one piece, or none. -/
theorem pieces_of_length_le {buffer : List α} (hle : buffer.length ≤ most) :
    pieces most buffer = if buffer ≠ [] then [buffer] else [] := by
  cases buffer with
  | nil => simp
  | cons x buffer =>
    have hlength : buffer.length ≤ most - 1 := by
      rw [List.length_cons] at hle
      omega
    rw [pieces_cons, List.take_of_length_le hlength, List.drop_of_length_le hlength, pieces_nil,
      if_pos (List.cons_ne_nil _ _)]

/-- Nothing is lost or made up in pieces. -/
theorem pieces_flatten (xs : List α) : (pieces most xs).flatten = xs := by
  induction xs using pieces.induct most with
  | case1 => simp
  | case2 x xs ih => rw [pieces_cons, List.flatten_cons, ih, List.cons_append, List.take_append_drop]

/-- No piece is empty or too long. -/
theorem length_of_mem_pieces (hmost : 0 < most) {xs p : List α} (hp : p ∈ pieces most xs) :
    p ≠ [] ∧ p.length ≤ most := by
  induction xs using pieces.induct most with
  | case1 => simp at hp
  | case2 x xs ih =>
    rw [pieces_cons] at hp
    rcases List.mem_cons.1 hp with rfl | hrest
    · refine ⟨List.cons_ne_nil _ _, ?_⟩
      rw [List.length_cons, List.length_take]
      omega
    · exact ih hrest

end Pieces

/-! ## Item by item -/

theorem splitOn_cons (x : α) (xs : List α) : (x :: xs).splitOn newline =
    if x = newline then [] :: xs.splitOn newline else (xs.splitOn newline).modifyHead (List.cons x) := by
  unfold List.splitOn
  rw [List.splitOnP_cons_eq_if_modifyHead]
  simp only [beq_iff_eq]

theorem linesFrom_nil (xs : List α) : linesFrom newline keep most [] xs = linesOf newline keep most xs := by
  have hid (l : List (List α)) : l.modifyHead ([] ++ ·) = l := by cases l <;> rfl
  unfold linesFrom linesOf
  rw [hid, List.flatMap_map]

/-- The buffer keeps its length. -/
theorem put_length (hmost : 0 < most) {buffer : List α} (hle : buffer.length ≤ most) (x : α) :
    (put newline keep most buffer x).1.length ≤ most := by
  have hstart : (if x = newline ∨ most ≤ buffer.length then [] else buffer).length ≤ most := by
    split
    · exact Nat.zero_le _
    · exact hle
  unfold put
  dsimp only
  split
  · next hkeep =>
    rw [List.length_append, List.length_singleton]
    split
    · exact hmost
    · omega
  · exact hstart

/-- **One item** puts out what it cuts off. -/
theorem put_linesFrom (hmost : 0 < most) {buffer : List α} (hle : buffer.length ≤ most) (x : α) (xs : List α) :
    linesFrom newline keep most buffer (x :: xs) =
      (put newline keep most buffer x).2 ++ linesFrom newline keep most (put newline keep most buffer x).1 xs := by
  obtain ⟨line, rest, hxs⟩ := List.exists_cons_of_ne_nil (List.splitOnP_ne_nil (fun y => y == newline) xs)
  have hsplitOn : xs.splitOn newline = line :: rest := hxs
  have hbuffer := pieces_of_length_le hle
  unfold linesFrom put
  rw [splitOn_cons, hsplitOn]
  by_cases hnew : x = newline
  · simp [hnew, hbuffer]
  · by_cases hfull : most ≤ buffer.length
    · have hflush := pieces_append hmost (Nat.le_antisymm hle hfull)
      have hne : buffer ≠ [] := fun hnil => by simp [hnil] at hfull; omega
      by_cases hkeep : keep x = true
      · simp [hnew, hfull, hkeep, hne, hflush]
      · simp [hnew, hfull, hkeep, hne, hflush]
    · by_cases hkeep : keep x = true
      · simp [hnew, hfull, hkeep]
      · simp [hnew, hfull, hkeep]

/-- **A whole stream**: the lines put out and what is left in the buffer. -/
theorem run_put (hmost : 0 < most) {buffer : List α} (hle : buffer.length ≤ most) (xs : List α) :
    (Mealy.run (put newline keep most) buffer xs).1.length ≤ most ∧
      (Mealy.run (put newline keep most) buffer xs).2 ++ pieces most (Mealy.run (put newline keep most) buffer xs).1 =
        linesFrom newline keep most buffer xs := by
  induction xs generalizing buffer with
  | nil =>
    refine ⟨hle, ?_⟩
    unfold linesFrom
    simp
  | cons x xs ih =>
    have hnext : (put newline keep most buffer x).1.length ≤ most := put_length hmost hle x
    obtain ⟨hlength, hlines⟩ := ih hnext
    rw [Mealy.run_cons, put_linesFrom hmost hle]
    refine ⟨hlength, ?_⟩
    rw [List.append_assoc, hlines]

/-- **What is kept comes out**, in order. -/
theorem linesOf_flatten (hnew : keep newline = false) (xs : List α) :
    (linesOf newline keep most xs).flatten = xs.filter keep := by
  have hflat (ls : List (List α)) :
      (ls.flatMap fun line => pieces most (line.filter keep)).flatten = (ls.map (List.filter keep)).flatten := by
    induction ls with
    | nil => rfl
    | cons l ls ih => rw [List.flatMap_cons, List.flatten_append, pieces_flatten, ih, List.map_cons, List.flatten_cons]
  unfold linesOf
  rw [hflat]
  induction xs with
  | nil => rfl
  | cons x xs ih =>
    rw [splitOn_cons]
    obtain ⟨line, rest, hxs⟩ := List.exists_cons_of_ne_nil (List.splitOnP_ne_nil (fun y => y == newline) xs)
    have hsplitOn : xs.splitOn newline = line :: rest := hxs
    rw [hsplitOn] at ih ⊢
    by_cases hx : x = newline
    · subst hx
      simpa [hnew] using ih
    · by_cases hkeep : keep x = true <;> simpa [hx, hkeep] using ih

/-- No line is empty or too long, and only what is kept is in it. -/
theorem of_mem_linesOf (hmost : 0 < most) {xs l : List α} (hl : l ∈ linesOf newline keep most xs) :
    l ≠ [] ∧ l.length ≤ most ∧ ∀ x ∈ l, keep x = true := by
  obtain ⟨line, -, hpiece⟩ := List.mem_flatMap.1 hl
  obtain ⟨hne, hle⟩ := length_of_mem_pieces hmost hpiece
  refine ⟨hne, hle, fun x hx => ?_⟩
  have hmem : x ∈ (pieces most (line.filter keep)).flatten := List.mem_flatten.2 ⟨l, hpiece, hx⟩
  rw [pieces_flatten] at hmem
  exact (List.mem_filter.1 hmem).2

end Lines
