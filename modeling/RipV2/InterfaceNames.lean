import RipV2.HostEnvironment

namespace RipV2.InterfaceNames

open RipV2.HostEnvironment

def nameBytes (ifName : String) : List UInt8 :=
  ifName.toUTF8.data.toList

/-- What libc reads of a buffer. -/
def cString (buffer : List UInt8) : List UInt8 :=
  buffer.takeWhile (· != 0)

/-- The buffer handed to `if_nametoindex`, unless the name is refused before. -/
def nameBuffer (ifName : String) : Except String (List UInt8) :=
  if (nameBytes ifName).length ≥ ifnamsiz - 1 then
    .error ("invalid interface name: " ++ ifName)
  else
    .ok ((nameBytes ifName).take ifnamsiz ++
      (List.replicate ifnamsiz 0).drop (nameBytes ifName).length)

/-- The call of libc with a buffer, and what becomes of its result. -/
def lookUp (answers : Answers) (buffer : List UInt8) : Except String UInt32 :=
  let ifIndex := answers.ifNametoindex (cString buffer)
  if ifIndex = 0 then .error answers.lastOsError else .ok ifIndex

/-- A name that fits into the buffer with its terminator, and has none inside. -/
def FitsBuffer (ifName : String) : Prop :=
  (nameBytes ifName).length ≤ ifnamsiz - 1 ∧ 0 ∉ nameBytes ifName

/-- A name that fits is looked up as it is; any other is refused before the call. -/
def LooksUpExactly (ifName : String) : Prop :=
  (FitsBuffer ifName → ∃ buffer, nameBuffer ifName = .ok buffer ∧
    buffer.length = ifnamsiz ∧ 0 ∈ buffer ∧ cString buffer = nameBytes ifName) ∧
  (¬FitsBuffer ifName → ∃ e, nameBuffer ifName = .error e)

theorem ifcNametoindex_eq (answers : Answers) (ifName : String) :
    answers.ifcNametoindex ifName = (nameBuffer ifName).bind (lookUp answers) := by
  rw [Answers.ifcNametoindex, nameBuffer, nameBytes]
  split_ifs
  · rfl
  · rfl

theorem nameBuffer_of_long {ifName : String} (h : ifnamsiz - 1 ≤ (nameBytes ifName).length) :
    nameBuffer ifName = .error ("invalid interface name: " ++ ifName) := by
  rw [nameBuffer, if_pos h]

theorem nameBuffer_of_short {ifName : String} (h : (nameBytes ifName).length < ifnamsiz - 1) :
    nameBuffer ifName = .ok (nameBytes ifName ++
      0 :: List.replicate (ifnamsiz - 1 - (nameBytes ifName).length) 0) := by
  have hfits : (nameBytes ifName).length ≤ ifnamsiz := by
    rw [ifnamsiz] at h ⊢
    omega
  have hzeros : ifnamsiz - (nameBytes ifName).length =
      ifnamsiz - 1 - (nameBytes ifName).length + 1 := by
    rw [ifnamsiz] at h ⊢
    omega
  rw [nameBuffer, if_neg (by omega), List.take_of_length_le hfits, List.drop_replicate, hzeros,
    List.replicate_succ]

theorem cString_terminated {bytes : List UInt8} (h : 0 ∉ bytes) (tail : List UInt8) :
    cString (bytes ++ 0 :: tail) = bytes := by
  rw [cString, List.takeWhile_append_of_pos]
  · simp
  · intro byte hmem
    have hne : byte ≠ 0 := fun hzero => h (hzero ▸ hmem)
    simpa using hne

theorem looksUpExactly_iff (ifName : String) :
    LooksUpExactly ifName ↔ ifnamsiz - 1 < (nameBytes ifName).length ∨
      ((nameBytes ifName).length = ifnamsiz - 1 ↔ 0 ∈ nameBytes ifName) := by
  rcases Nat.lt_or_ge (nameBytes ifName).length (ifnamsiz - 1) with hshort | hlong
  · have hbuffer := nameBuffer_of_short hshort
    have hne : (nameBytes ifName).length ≠ ifnamsiz - 1 := by omega
    have hnot : ¬ifnamsiz - 1 < (nameBytes ifName).length := by omega
    rw [or_iff_right hnot, iff_false_left hne]
    constructor
    · -- a name that must be refused is not
      rintro ⟨-, hrefused⟩ hzero
      obtain ⟨e, he⟩ := hrefused fun hfits => hfits.2 hzero
      rw [hbuffer] at he
      cases he
    · intro hzero
      refine ⟨fun _ => ⟨_, hbuffer, ?_, by simp, cString_terminated hzero _⟩, fun hnofit => ?_⟩
      · rw [List.length_append, List.length_cons, List.length_replicate]
        rw [ifnamsiz] at hshort ⊢
        omega
      · exact absurd ⟨by omega, hzero⟩ hnofit
  · have hbuffer := nameBuffer_of_long hlong
    constructor
    · rintro ⟨hfound, -⟩
      by_contra hcond
      rw [not_or] at hcond
      have hlength : (nameBytes ifName).length = ifnamsiz - 1 := by omega
      have hzero : 0 ∉ nameBytes ifName := fun hmem => hcond.2 (iff_of_true hlength hmem)
      -- a name that fits is refused
      obtain ⟨buffer, hok, -⟩ := hfound ⟨by omega, hzero⟩
      rw [hbuffer] at hok
      cases hok
    · intro hcond
      refine ⟨fun hfits => ?_, fun _ => ⟨_, hbuffer⟩⟩
      rcases hcond with htoo | hiff
      · exact absurd hfits.1 (by omega)
      · have hlength : (nameBytes ifName).length = ifnamsiz - 1 := by
          have hmost := hfits.1
          omega
        exact absurd (hiff.mp hlength) hfits.2

/-- The lookups of names by any host, and which of them are as they should be. -/
theorem ifcNametoindex_looksUpExactly (ifName : String) :
    (∀ answers : Answers,
      answers.ifcNametoindex ifName = (nameBuffer ifName).bind (lookUp answers)) ∧
    (LooksUpExactly ifName ↔ ifnamsiz - 1 < (nameBytes ifName).length ∨
      ((nameBytes ifName).length = ifnamsiz - 1 ↔ 0 ∈ nameBytes ifName)) :=
  ⟨fun answers => ifcNametoindex_eq answers ifName, looksUpExactly_iff ifName⟩

/-- The longest legal names are refused, and a zero byte cuts a name short. -/
theorem longest_name_refused :
    ¬LooksUpExactly "wireguard-site1" ∧ ¬LooksUpExactly "eth0\x00lan" ∧
      nameBuffer "eth0\x00lan" =
        .ok ([101, 116, 104, 48, 0, 108, 97, 110] ++ List.replicate 8 0) := by
  rw [looksUpExactly_iff, looksUpExactly_iff]
  decide +kernel

end RipV2.InterfaceNames
