import Mathlib.Algebra.Order.Ring.Nat
import Mathlib.Tactic.Ring

namespace RipV2.ByteOrder

inductive Endian where
  | little
  | big
deriving DecidableEq, Repr

/-- The `n` low bytes of a number, least significant first. -/
def leBytes : Nat → Nat → List UInt8
  | 0, _ => []
  | n + 1, x => UInt8.ofNat x :: leBytes n (x / 256)

/-- The number whose bytes these are, the lowest first. -/
def ofLeBytes : List UInt8 → Nat
  | [] => 0
  | b :: bs => b.toNat + 256 * ofLeBytes bs

@[simp] theorem leBytes_length (n x : Nat) : (leBytes n x).length = n := by
  induction n generalizing x with
  | zero => rfl
  | succ n ih => simp [leBytes, ih]

theorem ofLeBytes_leBytes (n x : Nat) (hx : x < 256 ^ n) :
    ofLeBytes (leBytes n x) = x := by
  induction n generalizing x with
  | zero =>
      have : x = 0 := by simpa using hx
      simp [leBytes, ofLeBytes, this]
  | succ n ih =>
      have hdiv : x / 256 < 256 ^ n := by
        rw [pow_succ] at hx
        exact Nat.div_lt_of_lt_mul (by rwa [Nat.mul_comm])
      simp only [leBytes, ofLeBytes, ih _ hdiv, UInt8.toNat_ofNat']
      omega

theorem leBytes_ofLeBytes (bs : List UInt8) :
    leBytes bs.length (ofLeBytes bs) = bs := by
  induction bs with
  | nil => rfl
  | cons b bs ih =>
      have hb := b.toNat_lt
      have hlow : UInt8.ofNat (b.toNat + 256 * ofLeBytes bs) = b := by
        apply UInt8.toNat_inj.mp
        rw [UInt8.toNat_ofNat']
        omega
      have hhigh : (b.toNat + 256 * ofLeBytes bs) / 256 = ofLeBytes bs := by omega
      simp only [List.length_cons, leBytes, ofLeBytes, hlow, hhigh, ih]

theorem ofLeBytes_lt (bs : List UInt8) : ofLeBytes bs < 256 ^ bs.length := by
  induction bs with
  | nil => simp [ofLeBytes]
  | cons b bs ih =>
      have hb := b.toNat_lt
      simp only [ofLeBytes, List.length_cons, pow_succ]
      omega

namespace Endian

/-- The bytes of an `n`-byte integer as they lie in memory. -/
def nativeBytes (endian : Endian) (n x : Nat) : List UInt8 :=
  match endian with
  | little => leBytes n x
  | big => (leBytes n x).reverse

/-- The integer whose memory is the big-endian form of `x`. -/
def toBe (endian : Endian) (n x : Nat) : Nat :=
  match endian with
  | little => ofLeBytes (leBytes n x).reverse
  | big => x

@[simp] theorem nativeBytes_length (endian : Endian) (n x : Nat) :
    (endian.nativeBytes n x).length = n := by
  cases endian <;> simp [nativeBytes]

theorem nativeBytes_toBe (endian : Endian) (n x : Nat) :
    endian.nativeBytes n (endian.toBe n x) = (leBytes n x).reverse := by
  cases endian with
  | little =>
      have h := leBytes_ofLeBytes (leBytes n x).reverse
      simpa [nativeBytes, toBe] using h
  | big => rfl

theorem toBe_lt (endian : Endian) (n x : Nat) (hx : x < 256 ^ n) :
    endian.toBe n x < 256 ^ n := by
  cases endian with
  | little => simpa [toBe] using ofLeBytes_lt (leBytes n x).reverse
  | big => exact hx

end Endian

/-- Read a big-endian byte string. -/
def fromBeBytes (bs : List UInt8) : Nat :=
  ofLeBytes bs.reverse

theorem fromBeBytes_nativeBytes_toBe (endian : Endian) (n x : Nat) (hx : x < 256 ^ n) :
    fromBeBytes (endian.nativeBytes n (endian.toBe n x)) = x := by
  rw [Endian.nativeBytes_toBe, fromBeBytes, List.reverse_reverse, ofLeBytes_leBytes n x hx]

theorem Endian.nativeBytes_toBe_fromBeBytes (endian : Endian) (bs : List UInt8) :
    endian.nativeBytes bs.length (endian.toBe bs.length (fromBeBytes bs)) = bs := by
  have hreverse := leBytes_ofLeBytes bs.reverse
  rw [List.length_reverse] at hreverse
  rw [nativeBytes_toBe, fromBeBytes, hreverse, List.reverse_reverse]

theorem fromBeBytes_lt (bs : List UInt8) : fromBeBytes bs < 256 ^ bs.length := by
  have h := ofLeBytes_lt bs.reverse
  rwa [List.length_reverse] at h

end RipV2.ByteOrder
