import Mathlib.Data.List.TakeWhile

namespace RipV2.BitCounts

variable {w : Nat}

/-- `leading_ones`: how many of the highest bits are set before the first that is not. -/
def leadingOnes (x : BitVec w) : Nat :=
  ((List.range w).takeWhile fun i => x.getMsbD i).length

/-- `leading_zeros`, the same for bits that are not set. -/
def leadingZeros (x : BitVec w) : Nat :=
  ((List.range w).takeWhile fun i => !x.getMsbD i).length

/-- `trailing_zeros`, from the lowest bit up. -/
def trailingZeros (x : BitVec w) : Nat :=
  ((List.range w).takeWhile fun i => !x.getLsbD i).length

def countOnes (x : BitVec w) : Nat :=
  (List.range w).countP fun i => x.getLsbD i

theorem takeWhile_range (p : Nat → Bool) (n i : Nat)
    (hi : i < ((List.range n).takeWhile p).length) : p i = true := by
  have hlength := (List.takeWhile_prefix (l := List.range n) p).length_le
  have hget : ((List.range n).takeWhile p)[i] = i := by
    rw [List.IsPrefix.getElem (List.takeWhile_prefix p)]
    simp
  have hmem := List.getElem_mem hi
  rw [hget] at hmem
  exact List.mem_takeWhile_imp hmem

theorem takeWhile_range_eq (p : Nat → Bool) (n k : Nat) (hk : k ≤ n)
    (hp : ∀ i < n, p i = decide (i < k)) :
    (List.range n).takeWhile p = List.range k := by
  obtain ⟨m, rfl⟩ := Nat.exists_eq_add_of_le hk
  have hbelow : ∀ i ∈ List.range k, p i = true := by
    intro i hi
    have hik := List.mem_range.mp hi
    simpa [hik] using hp i (by omega)
  have hstop : ((List.range m).map (k + ·)).takeWhile p = [] := by
    cases m with
    | zero => rfl
    | succ m =>
        have hfirst : p k = false := by simpa using hp k (by omega)
        rw [List.range_succ_eq_map]
        simp [hfirst]
  rw [List.range_add, List.takeWhile_append_of_pos hbelow, hstop, List.append_nil]

/-- The one bits of `x` are its `p` topmost bits. -/
def UpperMask (p : Nat) (x : BitVec w) : Prop :=
  ∀ i < w, x.getMsbD i = decide (i < p)

theorem UpperMask.ext {p : Nat} {x y : BitVec w}
    (hx : UpperMask p x) (hy : UpperMask p y) : x = y := by
  apply BitVec.eq_of_getMsbD_eq
  intro i hi
  rw [hx i hi, hy i hi]

theorem UpperMask.leadingOnes_eq {p : Nat} {x : BitVec w}
    (hx : UpperMask p x) (hp : p ≤ w) : leadingOnes x = p := by
  rw [leadingOnes, takeWhile_range_eq _ w p hp hx, List.length_range]

theorem UpperMask.getLsbD_eq {p i : Nat} {x : BitVec w} (hx : UpperMask p x) (hi : i < w) :
    x.getLsbD i = decide (w ≤ p + i) := by
  have hbit := hx (w - 1 - i) (by omega)
  rw [BitVec.getMsbD_eq_getLsbD] at hbit
  have hindex : w - 1 - (w - 1 - i) = i := by omega
  rw [hindex] at hbit
  rw [show decide (w - 1 - i < w) = true from decide_eq_true (by omega), Bool.true_and] at hbit
  rw [hbit, decide_eq_decide]
  omega

theorem UpperMask.trailingZeros_eq {p : Nat} {x : BitVec w} (hx : UpperMask p x) (hp : p ≤ w) :
    trailingZeros x = w - p := by
  rw [trailingZeros, takeWhile_range_eq _ w (w - p) (by omega), List.length_range]
  intro i hi
  rw [hx.getLsbD_eq hi, ← decide_not, decide_eq_decide]
  omega

theorem countP_range_ge (n p : Nat) (hp : p ≤ n) :
    (List.range n).countP (fun i => decide (n ≤ p + i)) = p := by
  obtain ⟨m, rfl⟩ := Nat.exists_eq_add_of_le' hp
  have hbelow : (List.range m).countP (fun i => decide (m + p ≤ p + i)) = 0 := by
    rw [List.countP_eq_zero]
    intro i hi
    have him := List.mem_range.mp hi
    simp only [decide_eq_true_eq]
    omega
  have habove : ((List.range p).map (m + ·)).countP (fun i => decide (m + p ≤ p + i)) = p := by
    rw [List.countP_map, List.countP_eq_length.mpr, List.length_range]
    intro i _
    simp only [Function.comp_apply, decide_eq_true_eq]
    omega
  rw [List.range_add, List.countP_append, hbelow, habove, Nat.zero_add]

theorem UpperMask.countOnes_eq {p : Nat} {x : BitVec w} (hx : UpperMask p x) (hp : p ≤ w) :
    countOnes x = p := by
  have hbits : (List.range w).countP (fun i => x.getLsbD i) =
      (List.range w).countP (fun i => decide (w ≤ p + i)) := by
    apply List.countP_congr
    intro i hi
    rw [hx.getLsbD_eq (List.mem_range.mp hi)]
  rw [countOnes, hbits, countP_range_ge w p hp]

theorem UpperMask.leadingZeros_not_eq {p : Nat} {x : BitVec w} (hx : UpperMask p x)
    (hp : p ≤ w) : leadingZeros (~~~x) = p := by
  rw [leadingZeros, takeWhile_range_eq _ w p hp, List.length_range]
  intro i hi
  rw [BitVec.getMsbD_not, hx i hi, decide_eq_true hi, Bool.true_and, Bool.not_not]

theorem upperMask_of_zeros {x : BitVec w}
    (h : trailingZeros x + leadingZeros (~~~x) = w) :
    UpperMask (leadingZeros (~~~x)) x := by
  intro i hi
  by_cases hlead : i < leadingZeros (~~~x)
  · have hbit := takeWhile_range _ _ _ hlead
    simpa [hi, hlead] using hbit
  · have htrail : w - 1 - i < trailingZeros x := by omega
    have hbit := takeWhile_range _ _ _ htrail
    simpa [BitVec.getMsbD, hi, hlead] using hbit

theorem upperMask_shiftLeft_allOnes {p : Nat} (hp : p ≤ w) :
    UpperMask p (BitVec.allOnes w <<< (w - p)) := by
  intro i hi
  simp only [BitVec.getMsbD_shiftLeft, BitVec.getMsbD_allOnes, decide_eq_decide]
  omega

end RipV2.BitCounts
