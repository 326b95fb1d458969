import Mathlib.Algebra.GroupWithZero.Nat
import Mathlib.Data.List.Induction
import Throughput.Record

/-!
# Reading records

A record that was written is read back, whatever the size of its datagram. A datagram that was read
is written back, except for what follows the header, which a reader does not look at.
-/

namespace Throughput

theorem ofBigEndian_concat (bytes : List UInt8) (last : UInt8) :
    ofBigEndian (bytes ++ [last]) = 256 * ofBigEndian bytes + last.toNat := by
  simp [ofBigEndian]

/-- The bytes keep of a number what fits into them. -/
theorem ofBigEndian_bigEndian (n width : Nat) :
    ofBigEndian (bigEndian n width) = n % 256 ^ width := by
  induction width generalizing n with
  | zero => simp [bigEndian, ofBigEndian, Nat.mod_one]
  | succ width ih =>
    have hlow : (UInt8.ofNat n).toNat = n % 256 := by simp
    rw [bigEndian, ofBigEndian_concat, ih, hlow, Nat.pow_succ', Nat.mod_mul]
    omega

theorem ofBigEndian_lt (bytes : List UInt8) : ofBigEndian bytes < 256 ^ bytes.length := by
  induction bytes using List.reverseRecOn with
  | nil => decide
  | append_singleton bytes last ih =>
    have hlast := last.toNat_lt
    rw [ofBigEndian_concat, List.length_append, List.length_singleton, Nat.pow_succ]
    omega

/-- The number that bytes spell is spelled by the same bytes. -/
theorem bigEndian_ofBigEndian (bytes : List UInt8) :
    bigEndian (ofBigEndian bytes) bytes.length = bytes := by
  induction bytes using List.reverseRecOn with
  | nil => rfl
  | append_singleton bytes last ih =>
    have hlast := last.toNat_lt
    have hhigh : (256 * ofBigEndian bytes + last.toNat) / 256 = ofBigEndian bytes := by omega
    have hlow : UInt8.ofNat (256 * ofBigEndian bytes + last.toNat) = last := by
      apply UInt8.toNat_inj.mp
      rw [UInt8.toNat_ofNat']
      omega
    rw [ofBigEndian_concat, List.length_append, List.length_singleton, bigEndian, hhigh, hlow, ih]

/-- A word that keeps the number at some place of a datagram is spelled by the bytes there. -/
theorem bigEndian_eq_window {datagram : Datagram} {n place width : Nat}
    (hinside : place + width ≤ datagram.length)
    (hn : n = ofBigEndian ((datagram.drop place).take width) % 256 ^ width) :
    bigEndian n width = (datagram.drop place).take width := by
  have hwidth : ((datagram.drop place).take width).length = width := by
    rw [List.length_take, List.length_drop]
    omega
  have hlt := ofBigEndian_lt ((datagram.drop place).take width)
  have hspelled := bigEndian_ofBigEndian ((datagram.drop place).take width)
  rw [hwidth] at hlt hspelled
  rw [hn, Nat.mod_eq_of_lt hlt, hspelled]

namespace TrainRecord

theorem length_encode (record : TrainRecord) (size : Nat) :
    (record.encode size).length = max size headerLength := by
  simp only [encode, List.length_append, length_header, List.length_replicate]
  omega

theorem drop_encode (record : TrainRecord) (size : Nat) :
    (record.encode size).drop headerLength = List.replicate (size - headerLength) 0 := by
  rw [encode, List.drop_left' record.length_header]

theorem decode_encode (record : TrainRecord) (size : Nat) :
    decode (record.encode size) = .ok record := by
  have hlong : ¬ (record.encode size).length < headerLength := by
    rw [length_encode]
    omega
  have hsent : (record.encode size).take 8 = bigEndian record.sent.toNat 8 := by
    simp [encode, header]
  have hiteration : ((record.encode size).drop 8).take 2 = bigEndian record.iteration.toNat 2 := by
    simp [encode, header]
  have hsequence : ((record.encode size).drop 10).take 2 = bigEndian record.sequence.toNat 2 := by
    rw [encode, header, List.append_assoc, List.drop_left' (by simp), List.take_left' (by simp)]
  rw [decode, if_neg hlong, hsent, hiteration, hsequence]
  simp only [ofBigEndian_bigEndian]
  simp

section Decode

variable {datagram : Datagram} {record : TrainRecord}

theorem decode_eq_error_iff {e : MeasureError} :
    decode datagram = .error e ↔
      datagram.length < headerLength ∧ e = .shortRecord datagram.length := by
  rw [decode]
  split
  · next hshort => simp [hshort, eq_comm]
  · next hlong => simp [hlong]

theorem le_length_of_decode (h : decode datagram = .ok record) :
    headerLength ≤ datagram.length := by
  by_contra hshort
  have herror := decode_eq_error_iff.mpr ⟨Nat.not_le.mp hshort, rfl⟩
  cases h.symm.trans herror

theorem decode_take (datagram : Datagram) :
    decode (datagram.take headerLength) = decode datagram := by
  rcases Nat.lt_or_ge datagram.length headerLength with hshort | hlong
  · rw [List.take_of_length_le (Nat.le_of_lt hshort)]
  · have hlength : (datagram.take headerLength).length = headerLength := by
      rw [List.length_take, Nat.min_eq_left hlong]
    rw [decode, if_neg (by rw [hlength]; exact Nat.lt_irrefl _), decode,
      if_neg (Nat.not_lt.mpr hlong)]
    simp only [List.take_take, List.drop_take, headerLength]
    rfl

/-- The header of the record is what was read. -/
theorem header_of_decode (h : decode datagram = .ok record) :
    record.header = datagram.take headerLength := by
  have hlong := le_length_of_decode h
  rw [decode, if_neg (Nat.not_lt.mpr hlong), Except.ok.injEq] at h
  rw [headerLength] at hlong
  have hsent : bigEndian record.sent.toNat 8 = (datagram.drop 0).take 8 := by
    refine bigEndian_eq_window (by omega) ?_
    rw [← h, List.drop_zero]
    exact UInt64.toNat_ofNat'
  have hiteration : bigEndian record.iteration.toNat 2 = (datagram.drop 8).take 2 := by
    refine bigEndian_eq_window (by omega) ?_
    rw [← h]
    exact UInt16.toNat_ofNat'
  have hsequence : bigEndian record.sequence.toNat 2 = (datagram.drop 10).take 2 := by
    refine bigEndian_eq_window (by omega) ?_
    rw [← h]
    exact UInt16.toNat_ofNat'
  rw [header, hsent, hiteration, hsequence, List.drop_zero, ← List.take_add, ← List.take_add]
  rfl

/-- Nothing is lost but what follows the header. -/
theorem encode_eq_iff (h : decode datagram = .ok record) :
    record.encode datagram.length = datagram ↔
      ∀ byte ∈ datagram.drop headerLength, byte = 0 := by
  have hsplit : datagram = record.header ++ datagram.drop headerLength := by
    rw [header_of_decode h, List.take_append_drop]
  rw [encode]
  nth_rewrite 2 [hsplit]
  rw [List.append_cancel_left_eq, eq_comm, List.eq_replicate_iff, List.length_drop]
  exact and_iff_right rfl

end Decode

/-- Encoding pads a record to the size that is asked for, and decoding reads it back. Decoding fails
for datagrams that are too short and for no others, looks at the header only, and can be undone if
and only if zeros follow the header. -/
theorem lawful_codec :
    (∀ (record : TrainRecord) (size : Nat),
      (record.encode size).length = max size headerLength ∧
        (∀ byte ∈ (record.encode size).drop headerLength, byte = 0) ∧
        decode (record.encode size) = .ok record) ∧
    (∀ (datagram : Datagram) (e : MeasureError), decode datagram = .error e ↔
      datagram.length < headerLength ∧ e = .shortRecord datagram.length) ∧
    (∀ datagram : Datagram, decode (datagram.take headerLength) = decode datagram) ∧
    ∀ datagram : Datagram,
      (decode datagram).map (fun record => record.encode datagram.length) = .ok datagram ↔
        headerLength ≤ datagram.length ∧ ∀ byte ∈ datagram.drop headerLength, byte = 0 := by
  refine ⟨?_, fun _ _ => decode_eq_error_iff, decode_take, ?_⟩
  · intro record size
    refine ⟨length_encode record size, ?_, decode_encode record size⟩
    rw [drop_encode]
    exact fun byte hmem => List.eq_of_mem_replicate hmem
  · intro datagram
    cases hdecode : decode datagram with
    | error e =>
      have hshort := (decode_eq_error_iff.mp hdecode).1
      simp [Except.map, Nat.not_le.mpr hshort]
    | ok record =>
      rw [Except.map, Except.ok.injEq, encode_eq_iff hdecode]
      exact (and_iff_right (le_length_of_decode hdecode)).symm

end TrainRecord

end Throughput
