import RipV2.Packets

namespace RipV2.SliceDecoding

open RipV2.Packets

/-- A header and a whole number of entries behind it. -/
def WholeEntries (data : List UInt8) : Prop :=
  ripHeaderSize ≤ data.length ∧ (data.length - ripHeaderSize) % ripEntrySize = 0

instance (data : List UInt8) : Decidable (WholeEntries data) :=
  inferInstanceAs (Decidable (_ ∧ _))

/-- The bytes of the entry with number `i`. -/
def entryBytes (data : List UInt8) (i : Nat) : List UInt8 :=
  (data.drop (ripHeaderSize + ripEntrySize * i)).take ripEntrySize

/-- The decoder answers without a panic, and its answer is the one that the
length of the slice calls for. -/
def AnswersByLength (data : List UInt8) : Prop :=
  ∃ answer, RipPacketData.fromSlice data = .ok answer ∧
    (WholeEntries data → ∃ packet, answer = .ok packet ∧
      packet.entries.length = (data.length - ripHeaderSize) / ripEntrySize ∧
      ∀ (i : Nat) (hi : i < packet.entries.length),
        RipEntry.fromSlice (entryBytes data i) = .ok packet.entries[i]) ∧
    (¬ WholeEntries data → answer = .error .malformedPacket)

theorem entryBytes_eq (data : List UInt8) (i : Nat) :
    entryBytes data i =
      ((data.drop ripHeaderSize).drop (ripEntrySize * i)).take ripEntrySize := by
  rw [entryBytes, List.drop_drop]

theorem exists_header {data : List UInt8} (h : data.length = ripHeaderSize) :
    ∃ header, RipHeader.fromSlice data = .ok header := by
  rw [RipHeader.fromSlice, if_neg (by simp [h])]
  exact ⟨_, rfl⟩

theorem exists_entry {data : List UInt8} (h : data.length = ripEntrySize) :
    ∃ entry, RipEntry.fromSlice data = .ok entry := by
  rw [RipEntry.fromSlice, if_neg (by simp [h])]
  exact ⟨_, rfl⟩

theorem decodeEntries_succ {data : List UInt8} {n : Nat} {entry : RipEntry}
    {entries : List RipEntry} (hlength : data.length = ripEntrySize * (n + 1))
    (hentry : RipEntry.fromSlice (data.take ripEntrySize) = .ok entry)
    (hrest : decodeEntries (data.drop ripEntrySize) = .ok (.ok entries)) :
    decodeEntries data = .ok (.ok (entry :: entries)) := by
  have hsize : ripEntrySize ≤ data.length := by
    rw [hlength, ripEntrySize]
    omega
  have hpos : 0 < data.length := by
    rw [ripEntrySize] at hsize
    omega
  rw [decodeEntries, if_pos hpos, if_pos hsize, hentry, hrest]

theorem decodeEntries_of_length {data : List UInt8} {n : Nat}
    (hlength : data.length = ripEntrySize * n) :
    ∃ entries, decodeEntries data = .ok (.ok entries) ∧ entries.length = n ∧
      ∀ (i : Nat) (hi : i < entries.length),
        RipEntry.fromSlice ((data.drop (ripEntrySize * i)).take ripEntrySize) =
          .ok entries[i] := by
  induction n generalizing data with
  | zero =>
      refine ⟨[], ?_, rfl, ?_⟩
      · rw [decodeEntries, if_neg (by omega)]
      · intro i hi
        simp at hi
  | succ n ih =>
      obtain ⟨entry, hentry⟩ : ∃ entry,
          RipEntry.fromSlice (data.take ripEntrySize) = .ok entry := by
        apply exists_entry
        rw [List.length_take, hlength, ripEntrySize]
        omega
      have hrest : (data.drop ripEntrySize).length = ripEntrySize * n := by
        rw [List.length_drop, hlength, Nat.mul_succ, Nat.add_sub_cancel]
      obtain ⟨entries, hentries, hcount, hall⟩ := ih hrest
      refine ⟨entry :: entries, decodeEntries_succ hlength hentry hentries, ?_, ?_⟩
      · rw [List.length_cons, hcount]
      · intro i hi
        cases i with
        | zero => exact hentry
        | succ i =>
            have hbytes := hall i (by simpa using hi)
            rw [List.drop_drop] at hbytes
            rw [Nat.mul_succ, Nat.add_comm (ripEntrySize * i)]
            exact hbytes

/-- With the bytes of a header, the lower bound that the first line takes for
granted holds, and only the multiple is left to check. -/
theorem fromSlice_of_header {data : List UInt8} (h : ripHeaderSize ≤ data.length) :
    RipPacketData.fromSlice data =
      if (data.length - ripHeaderSize) % ripEntrySize ≠ 0 then .ok (.error .malformedPacket)
      else do
        match RipHeader.fromSlice (data.take ripHeaderSize) with
        | .error e => return .error e
        | .ok header =>
            match ← decodeEntries (data.drop ripHeaderSize) with
            | .error e => return .error e
            | .ok entries => return .ok { header, entries } := by
  rw [RipPacketData.fromSlice, checkedSub, if_pos h, sliceTo, sliceFrom, if_pos h, if_pos h]
  rfl

theorem fromSlice_of_short {data : List UInt8} (h : data.length < ripHeaderSize) :
    RipPacketData.fromSlice data = .error .arithmeticOverflow := by
  rw [RipPacketData.fromSlice, checkedSub, if_neg (by omega)]
  rfl

theorem fromSlice_of_wholeEntries {data : List UInt8} (h : WholeEntries data) :
    ∃ packet, RipPacketData.fromSlice data = .ok (.ok packet) ∧
      packet.entries.length = (data.length - ripHeaderSize) / ripEntrySize ∧
      ∀ (i : Nat) (hi : i < packet.entries.length),
        RipEntry.fromSlice (entryBytes data i) = .ok packet.entries[i] := by
  obtain ⟨hheader, hbody⟩ := h
  obtain ⟨header, hdecoded⟩ : ∃ header,
      RipHeader.fromSlice (data.take ripHeaderSize) = .ok header := by
    apply exists_header
    rw [List.length_take]
    omega
  have hlength : (data.drop ripHeaderSize).length =
      ripEntrySize * ((data.length - ripHeaderSize) / ripEntrySize) := by
    rw [List.length_drop, Nat.mul_div_cancel' (Nat.dvd_of_mod_eq_zero hbody)]
  obtain ⟨entries, hentries, hcount, hall⟩ := decodeEntries_of_length hlength
  refine ⟨{ header, entries }, ?_, hcount, ?_⟩
  · rw [fromSlice_of_header hheader, if_neg (by simp [hbody]), hdecoded, hentries]
    rfl
  · intro i hi
    rw [entryBytes_eq]
    exact hall i hi

theorem fromSlice_of_not_wholeEntries {data : List UInt8} (hheader : ripHeaderSize ≤ data.length)
    (h : ¬ WholeEntries data) :
    RipPacketData.fromSlice data = .ok (.error .malformedPacket) := by
  have hbody : (data.length - ripHeaderSize) % ripEntrySize ≠ 0 := fun hmod => h ⟨hheader, hmod⟩
  rw [fromSlice_of_header hheader, if_pos hbody]

/-- The decoder keeps to the lengths exactly on the slices that are long enough
for a header: below that, the length minus the header's size underflows. -/
theorem fromSlice_answersByLength_iff (data : List UInt8) :
    AnswersByLength data ↔ ripHeaderSize ≤ data.length := by
  constructor
  · rintro ⟨answer, hanswer, -⟩
    by_contra hshort
    rw [fromSlice_of_short (by omega)] at hanswer
    cases hanswer
  · intro hheader
    by_cases hwhole : WholeEntries data
    · obtain ⟨packet, hpacket, hdecoded⟩ := fromSlice_of_wholeEntries hwhole
      exact ⟨.ok packet, hpacket, fun _ => ⟨packet, rfl, hdecoded⟩, fun h => absurd hwhole h⟩
    · exact ⟨.error .malformedPacket, fromSlice_of_not_wholeEntries hheader hwhole,
        fun h => absurd h hwhole, fun _ => rfl⟩

/-- The empty datagram: no panic was to be raised, and one is. -/
theorem emptySlice_panics :
    RipPacketData.fromSlice [] = .error .arithmeticOverflow ∧ ¬ AnswersByLength [] := by
  have hpanic : RipPacketData.fromSlice [] = .error .arithmeticOverflow :=
    fromSlice_of_short (by decide)
  refine ⟨hpanic, ?_⟩
  rintro ⟨answer, hanswer, -⟩
  rw [hpanic] at hanswer
  cases hanswer

end RipV2.SliceDecoding
