import RipV2.BitCounts
import RipV2.Results

namespace RipV2.Address

open RipV2.BitCounts
open RipV2.Results

/-- `prefix_to_mask`: the mask of a prefix of up to 32 bits; longer ones are a configuration
error. -/
def prefixToMask (prefixLen : UInt32) : RipResult UInt32 :=
  if prefixLen > 32 then
    .error (.invalidConfiguration ("invalid prefix: " ++ toString prefixLen.toNat))
  else if prefixLen = 0 then
    .ok 0
  else
    .ok (0xffffffff <<< (32 - prefixLen))

/-- Only the first byte decides: 0, 127 and everything from 224 on is no unicast address. -/
def isUnicastAddress (address : UInt32) : Bool :=
  let msb := address >>> 24
  if msb = 0 then false
  else if msb = 127 then false
  else if msb ≥ 224 then false
  else true

/-- The mask is one block of ones on the left, and is neither empty nor full. -/
def isNetMaskValid (netMask : UInt32) : Bool :=
  if netMask = 0 ∨ netMask = 0xffffffff then false
  else trailingZeros netMask.toBitVec + leadingZeros (~~~netMask).toBitVec == 32

/-- A netmask whose `p` topmost bits are set and no other. -/
def IsMaskOfLength (p : Nat) (mask : UInt32) : Prop :=
  p ≤ 32 ∧ UpperMask p mask.toBitVec

theorem IsMaskOfLength.leadingOnes_eq {p : Nat} {mask : UInt32}
    (h : IsMaskOfLength p mask) : leadingOnes mask.toBitVec = p :=
  h.2.leadingOnes_eq h.1

theorem mask_eq_of_leadingOnes_eq {p q : Nat} {mask mask' : UInt32}
    (h : IsMaskOfLength p mask) (h' : IsMaskOfLength q mask')
    (heq : leadingOnes mask.toBitVec = leadingOnes mask'.toBitVec) : mask = mask' := by
  rw [h.leadingOnes_eq, h'.leadingOnes_eq] at heq
  subst heq
  exact UInt32.toBitVec_inj.mp (h.2.ext h'.2)

theorem IsMaskOfLength.isNetMaskValid_iff {p : Nat} {mask : UInt32} (h : IsMaskOfLength p mask) :
    isNetMaskValid mask = true ↔ mask ≠ 0 ∧ mask ≠ 0xffffffff := by
  have hsum : trailingZeros mask.toBitVec + leadingZeros (~~~mask).toBitVec = 32 := by
    have hp := h.1
    rw [UInt32.toBitVec_not, h.2.trailingZeros_eq h.1, h.2.leadingZeros_not_eq h.1]
    omega
  rw [isNetMaskValid, hsum]
  split_ifs with hextreme
  · rcases hextreme with rfl | rfl <;> simp
  · rw [not_or] at hextreme
    simpa using hextreme

theorem IsMaskOfLength.eq_iff {p q : Nat} {mask mask' : UInt32} (h : IsMaskOfLength p mask)
    (h' : IsMaskOfLength q mask') : mask = mask' ↔ p = q := by
  constructor
  · rintro rfl
    exact h.leadingOnes_eq.symm.trans h'.leadingOnes_eq
  · rintro rfl
    exact mask_eq_of_leadingOnes_eq h h' (h.leadingOnes_eq.trans h'.leadingOnes_eq.symm)

theorem isMaskOfLength_zero : IsMaskOfLength 0 0 :=
  ⟨by omega, fun i _ => by simp⟩

theorem isMaskOfLength_allOnes : IsMaskOfLength 32 0xffffffff := by
  refine ⟨le_refl 32, ?_⟩
  have hshift := upperMask_shiftLeft_allOnes (w := 32) (le_refl 32)
  rwa [Nat.sub_self, BitVec.shiftLeft_zero] at hshift

theorem exists_maskLength_of_isNetMaskValid {mask : UInt32}
    (h : isNetMaskValid mask = true) : ∃ p, IsMaskOfLength p mask := by
  rw [isNetMaskValid] at h
  split_ifs at h
  have hsum := beq_iff_eq.mp h
  rw [UInt32.toBitVec_not] at hsum
  exact ⟨_, by omega, upperMask_of_zeros hsum⟩

theorem isMaskOfLength_of_prefixToMask {prefixLen mask : UInt32}
    (h : prefixToMask prefixLen = .ok mask) : IsMaskOfLength prefixLen.toNat mask := by
  rw [prefixToMask] at h
  split_ifs at h with hlarge hzero
  · obtain rfl : 0 = mask := by simpa using h
    rw [hzero]
    exact isMaskOfLength_zero
  · obtain rfl : 0xffffffff <<< (32 - prefixLen) = mask := by simpa using h
    have hle : prefixLen.toNat ≤ 32 := by
      simpa [UInt32.lt_iff_toNat_lt] using hlarge
    have hpos : prefixLen.toNat ≠ 0 := fun hp => hzero (UInt32.toNat_inj.mp hp)
    refine ⟨hle, ?_⟩
    have hshift : (0xffffffff <<< (32 - prefixLen) : UInt32).toBitVec =
        BitVec.allOnes 32 <<< (32 - prefixLen.toNat) := by
      have hsub : (32 - prefixLen).toNat = 32 - prefixLen.toNat := by
        rw [UInt32.toNat_sub_of_le _ _ (by simpa [UInt32.le_iff_toNat_le] using hle)]
        rfl
      rw [UInt32.toBitVec_shiftLeft, BitVec.shiftLeft_eq', BitVec.toNat_umod]
      have hmod : (32 - prefixLen).toBitVec.toNat % (32 : BitVec 32).toNat =
          32 - prefixLen.toNat := by
        rw [UInt32.toNat_toBitVec, hsub]
        exact Nat.mod_eq_of_lt (by change _ < 32; omega)
      rw [hmod]
      rfl
    rw [hshift]
    exact upperMask_shiftLeft_allOnes hle

theorem IsMaskOfLength.countOnes_eq {p : Nat} {mask : UInt32} (h : IsMaskOfLength p mask) :
    countOnes mask.toBitVec = p :=
  h.2.countOnes_eq h.1

theorem prefixToMask_of_isMaskOfLength {prefixLen mask : UInt32}
    (h : IsMaskOfLength prefixLen.toNat mask) : prefixToMask prefixLen = .ok mask := by
  obtain ⟨mask', hmask'⟩ : ∃ mask', prefixToMask prefixLen = .ok mask' := by
    have hle : ¬prefixLen > 32 := by
      simpa [UInt32.lt_iff_toNat_lt] using h.1
    rw [prefixToMask, if_neg hle]
    split_ifs <;> exact ⟨_, rfl⟩
  rw [hmask', (h.eq_iff (isMaskOfLength_of_prefixToMask hmask')).mpr rfl]

/-- The masks that a response may carry are those of the prefixes from 1 to 31. -/
theorem isNetMaskValid_iff_prefixToMask {mask : UInt32} :
    isNetMaskValid mask = true ↔
      ∃ prefixLen : UInt32, 1 ≤ prefixLen ∧ prefixLen ≤ 31 ∧ prefixToMask prefixLen = .ok mask := by
  constructor
  · intro hvalid
    obtain ⟨p, hp⟩ := exists_maskLength_of_isNetMaskValid hvalid
    obtain ⟨hzero, hones⟩ := hp.isNetMaskValid_iff.mp hvalid
    rw [ne_eq, hp.eq_iff isMaskOfLength_zero] at hzero
    rw [ne_eq, hp.eq_iff isMaskOfLength_allOnes] at hones
    have hle := hp.1
    have hlen : (UInt32.ofNat p).toNat = p := by
      rw [UInt32.toNat_ofNat']
      omega
    refine ⟨UInt32.ofNat p, ?_, ?_, prefixToMask_of_isMaskOfLength (by rwa [hlen])⟩
    · rw [UInt32.le_iff_toNat_le, hlen]
      change 1 ≤ p
      omega
    · rw [UInt32.le_iff_toNat_le, hlen]
      change p ≤ 31
      omega
  · rintro ⟨prefixLen, hlow, hhigh, hmask⟩
    have hp := isMaskOfLength_of_prefixToMask hmask
    have hlow' : 1 ≤ prefixLen.toNat := UInt32.le_iff_toNat_le.mp hlow
    have hhigh' : prefixLen.toNat ≤ 31 := UInt32.le_iff_toNat_le.mp hhigh
    rw [hp.isNetMaskValid_iff, ne_eq, hp.eq_iff isMaskOfLength_zero, ne_eq,
      hp.eq_iff isMaskOfLength_allOnes]
    omega

/-- The dotted-quad text of an address. -/
def ipv4ToString (address : UInt32) : String :=
  toString (address >>> 24).toNat ++ "." ++ toString (address >>> 16 &&& 0xff).toNat ++ "." ++
    toString (address >>> 8 &&& 0xff).toNat ++ "." ++ toString (address &&& 0xff).toNat

/-- One decimal octet: one to three digits, no leading zero, at most 255. -/
def octetFromChars (digits : List Char) : Option Nat :=
  if digits.isEmpty || digits.length > 3 then none
  else if digits.length > 1 && digits.head? == some '0' then none
  else if digits.all Char.isDigit then
    let n := digits.foldl (fun acc c => acc * 10 + (c.toNat - '0'.toNat)) 0
    if n ≤ 255 then some n else none
  else none

/-- `Ipv4Addr::from_str`, with the text of its parse error. -/
def ipv4FromStr (text : String) : Except String UInt32 :=
  match (text.toList.splitOn '.').map octetFromChars with
  | [some a, some b, some c, some d] =>
      .ok (UInt32.ofNat (((a * 256 + b) * 256 + c) * 256 + d))
  | _ => .error "invalid IPv4 address syntax"

theorem octetFromChars_toString {n : Nat} (h : n < 256) :
    octetFromChars (toString n).toList = some n ∧ '.' ∉ (toString n).toList := by
  have hall : ∀ n < 256, octetFromChars (toString n).toList = some n ∧
      '.' ∉ (toString n).toList := by decide +kernel
  exact hall n h

theorem octets_eq (address : UInt32) :
    (address >>> 24).toNat = address.toNat / 0x1000000 ∧
      (address >>> 16 &&& 0xff).toNat = address.toNat / 0x10000 % 256 ∧
      (address >>> 8 &&& 0xff).toNat = address.toNat / 0x100 % 256 ∧
      (address &&& 0xff).toNat = address.toNat % 256 := by
  have hbyte : ∀ n : Nat, n &&& 255 = n % 256 := fun n => Nat.and_two_pow_sub_one_eq_mod n 8
  refine ⟨?_, ?_, ?_, ?_⟩
  · rw [UInt32.toNat_shiftRight, Nat.shiftRight_eq_div_pow]
    rfl
  · rw [UInt32.toNat_and, UInt32.toNat_shiftRight, Nat.shiftRight_eq_div_pow]
    exact hbyte _
  · rw [UInt32.toNat_and, UInt32.toNat_shiftRight, Nat.shiftRight_eq_div_pow]
    exact hbyte _
  · rw [UInt32.toNat_and]
    exact hbyte _

theorem ipv4FromStr_ipv4ToString (address : UInt32) :
    ipv4FromStr (ipv4ToString address) = .ok address := by
  obtain ⟨ha, hb, hc, hd⟩ := octets_eq address
  have hlt := address.toNat_lt
  have hsplit : (ipv4ToString address).toList.splitOn '.' =
      [(toString (address >>> 24).toNat).toList, (toString (address >>> 16 &&& 0xff).toNat).toList,
        (toString (address >>> 8 &&& 0xff).toNat).toList,
        (toString (address &&& 0xff).toNat).toList] := by
    have hjoin : (ipv4ToString address).toList = ['.'].intercalate
        [(toString (address >>> 24).toNat).toList,
          (toString (address >>> 16 &&& 0xff).toNat).toList,
          (toString (address >>> 8 &&& 0xff).toNat).toList,
          (toString (address &&& 0xff).toNat).toList] := by
      simp [ipv4ToString, String.toList_append, List.intercalate]
    rw [hjoin, List.splitOn_intercalate]
    · simp only [List.mem_cons, List.not_mem_nil, or_false]
      rintro l (rfl | rfl | rfl | rfl)
      · exact (octetFromChars_toString (by omega)).2
      · exact (octetFromChars_toString (by omega)).2
      · exact (octetFromChars_toString (by omega)).2
      · exact (octetFromChars_toString (by omega)).2
    · simp
  rw [ipv4FromStr, hsplit]
  simp only [List.map_cons, List.map_nil]
  rw [(octetFromChars_toString (by omega)).1, (octetFromChars_toString (by omega)).1,
    (octetFromChars_toString (by omega)).1, (octetFromChars_toString (by omega)).1]
  dsimp only
  congr 1
  rw [← UInt32.toNat_inj, UInt32.toNat_ofNat', ha, hb, hc, hd]
  omega

theorem ipv4ToString_injective {address address' : UInt32}
    (h : ipv4ToString address = ipv4ToString address') : address = address' := by
  have hparsed := ipv4FromStr_ipv4ToString address
  rw [h, ipv4FromStr_ipv4ToString] at hparsed
  exact (Except.ok.inj hparsed).symm

end RipV2.Address
