import Mathlib.Data.List.Basic

namespace RipV2.Chunks

variable {α : Type}

/-- `filled` holds the elements of the piece that is being filled. -/
def chunksFrom (size : Nat) : List α → List α → List (List α)
  | filled, [] => if filled.isEmpty then [] else [filled]
  | filled, x :: xs =>
      if filled.length + 1 ≥ size then (filled ++ [x]) :: chunksFrom size [] xs
      else chunksFrom size (filled ++ [x]) xs

/-- `chunks` of a slice: pieces of the given size, the last of which may be shorter. -/
def chunks (size : Nat) (xs : List α) : List (List α) :=
  chunksFrom size [] xs

theorem flatten_chunksFrom (size : Nat) (filled xs : List α) :
    (chunksFrom size filled xs).flatten = filled ++ xs := by
  induction xs generalizing filled with
  | nil =>
      rw [chunksFrom, List.append_nil]
      cases filled <;> simp
  | cons x xs ih =>
      rw [chunksFrom]
      split_ifs
      · rw [List.flatten_cons, ih]
        simp
      · rw [ih]
        simp

@[simp] theorem flatten_chunks (size : Nat) (xs : List α) :
    (chunks size xs).flatten = xs :=
  flatten_chunksFrom size [] xs

theorem exists_chunk_of_mem {size : Nat} {xs : List α} {x : α} (h : x ∈ xs) :
    ∃ chunk ∈ chunks size xs, x ∈ chunk := by
  rw [← flatten_chunks size xs] at h
  exact List.mem_flatten.mp h

theorem mem_of_mem_chunk {size : Nat} {xs chunk : List α} {x : α}
    (hchunk : chunk ∈ chunks size xs) (h : x ∈ chunk) : x ∈ xs := by
  rw [← flatten_chunks size xs]
  exact List.mem_flatten_of_mem hchunk h

theorem length_of_mem_chunksFrom {size : Nat} {filled xs chunk : List α}
    (hfilled : filled.length < size) (h : chunk ∈ chunksFrom size filled xs) :
    0 < chunk.length ∧ chunk.length ≤ size := by
  induction xs generalizing filled with
  | nil =>
      rw [chunksFrom] at h
      split_ifs at h with hempty
      · simp at h
      · obtain rfl := List.mem_singleton.mp h
        refine ⟨List.length_pos_iff.mpr fun hnil => hempty ?_, by omega⟩
        rw [hnil]
        rfl
  | cons x xs ih =>
      rw [chunksFrom] at h
      split_ifs at h with hfull
      · rcases List.mem_cons.mp h with rfl | hlater
        · rw [List.length_append, List.length_singleton]
          omega
        · apply ih _ hlater
          rw [List.length_nil]
          omega
      · apply ih _ h
        rw [List.length_append, List.length_singleton]
        omega

theorem length_of_mem_dropLast_chunksFrom {size : Nat} {filled xs chunk : List α}
    (hfilled : filled.length < size) (h : chunk ∈ (chunksFrom size filled xs).dropLast) :
    chunk.length = size := by
  induction xs generalizing filled with
  | nil =>
      rw [chunksFrom] at h
      split_ifs at h <;> simp at h
  | cons x xs ih =>
      rw [chunksFrom] at h
      split_ifs at h with hfull
      · cases hrest : chunksFrom size [] xs with
        | nil => simp [hrest] at h
        | cons next rest =>
            rw [hrest, List.dropLast_cons_cons, List.mem_cons, ← hrest] at h
            rcases h with rfl | hlater
            · rw [List.length_append, List.length_singleton]
              omega
            · apply ih _ hlater
              rw [List.length_nil]
              omega
      · apply ih _ h
        rw [List.length_append, List.length_singleton]
        omega

theorem length_of_mem_chunks {size : Nat} {xs chunk : List α} (hsize : 0 < size)
    (h : chunk ∈ chunks size xs) : 0 < chunk.length ∧ chunk.length ≤ size := by
  apply length_of_mem_chunksFrom _ h
  rwa [List.length_nil]

theorem length_of_mem_dropLast_chunks {size : Nat} {xs chunk : List α} (hsize : 0 < size)
    (h : chunk ∈ (chunks size xs).dropLast) : chunk.length = size := by
  apply length_of_mem_dropLast_chunksFrom _ h
  rwa [List.length_nil]

theorem chunks_eq_nil_iff {size : Nat} {xs : List α} : chunks size xs = [] ↔ xs = [] := by
  constructor
  · intro h
    rw [← flatten_chunks size xs, h, List.flatten_nil]
  · rintro rfl
    rfl

end RipV2.Chunks
