import Chip8.Memory.Journal
import Mathlib.Data.Int.Notation
import Mathlib.Data.Nat.Notation
import Mathlib.Tactic.Lemma

/-!
# Accesses, covered or not

Every access to the memory is decided by one question: whether the memory covers it.  If so the
access is made as a whole, and if not it meets the one fault that names the access and changes
nothing.  The equations below say so for each kind of access, with and without the journal.
-/

namespace Chip8

/-- What an access meets that the memory does not cover. -/
def Memory.uncovered (m : Memory) (address count : ℤ) : Failure :=
  .fault (.memoryAccess address count m.size)

namespace Memory

variable (m : Memory) (address : ℤ)

lemma check_eq (count : ℤ) :
    m.check address count =
      if m.Covers address count then .ok () else .error (m.uncovered address count) := rfl

lemma readWord_eq :
    m.readWord address =
      if m.Covers address 2 then
        .ok (Word.ofBytes (m.byteAt address.toNat) (m.byteAt (address.toNat + 1)))
      else .error (m.uncovered address 2) := by
  unfold readWord
  rw [check_eq]
  split <;> rfl

lemma readBytes_eq (count : ℤ) :
    m.readBytes address count =
      if m.Covers address count then .ok (m.slice address.toNat (address + count))
      else .error (m.uncovered address count) := by
  unfold readBytes
  rw [check_eq]
  split <;> rfl

lemma writeBytes_eq (data : List UInt8) :
    m.writeBytes address data =
      if m.Covers address data.length then .ok (m.overwrite address.toNat data)
      else .error (m.uncovered address data.length) := by
  unfold writeBytes
  rw [check_eq]
  split <;> rfl

lemma readByte_eq :
    m.readByte address =
      if m.Covers address 1 then .ok (m.byteAt address.toNat)
      else .error (m.uncovered address 1) := by
  unfold readByte
  rw [check_eq]
  split <;> rfl

lemma writeByte_eq (value : ℤ) :
    m.writeByte address value =
      if m.Covers address 1 then
        if 0 ≤ value ∧ value ≤ 0xFF then .ok (m.overwrite address.toNat [UInt8.ofNat value.toNat])
        else .error (.misuse (.cellOutOfRange value))
      else .error (m.uncovered address 1) := by
  unfold writeByte
  rw [check_eq]
  split <;> rfl

lemma bytes?_eq (values : List ℤ) :
    bytes? values =
      if ∀ v ∈ values, 0 ≤ v ∧ v < 256 then some (values.map fun v => UInt8.ofNat v.toNat)
      else none := by
  induction values with
  | nil => rfl
  | cons v vs ih =>
    unfold bytes?
    rw [ih]
    by_cases hv : 0 ≤ v ∧ v < 256
    · rw [if_pos hv]
      simp only [List.forall_mem_cons, and_iff_right hv]
      by_cases hvs : ∀ v ∈ vs, 0 ≤ v ∧ v < 256
      · rw [if_pos hvs, if_pos hvs]
        rfl
      · rw [if_neg hvs, if_neg hvs]
        rfl
    · rw [if_neg hv, if_neg fun h => hv (h v List.mem_cons_self)]

/-- Numbers become bytes if all of them are bytes. -/
lemma toBytes_eq (values : List ℤ) :
    toBytes values =
      if ∀ v ∈ values, 0 ≤ v ∧ v < 256 then .ok (values.map fun v => UInt8.ofNat v.toNat)
      else .error (.misuse .byteOutOfRange) := by
  unfold toBytes
  rw [bytes?_eq]
  by_cases h : ∀ v ∈ values, 0 ≤ v ∧ v < 256
  · rw [if_pos h, if_pos h]
    rfl
  · rw [if_neg h, if_neg h]
    rfl

/-- Numbers that are bytes become these bytes. -/
lemma toBytes_of_lt {values : List ℕ} (h : ∀ b ∈ values, b < 256) :
    toBytes (values.map Int.ofNat) = .ok (values.map UInt8.ofNat) := by
  have hall : ∀ v ∈ values.map Int.ofNat, 0 ≤ v ∧ v < 256 := by
    intro v hv
    obtain ⟨b, hb, rfl⟩ := List.mem_map.1 hv
    exact ⟨Int.natCast_nonneg b, Int.ofNat_lt.2 (h b hb)⟩
  rw [toBytes_eq, if_pos hall, List.map_map]
  rfl

/-- Bytes that numbers become are these numbers. -/
lemma toBytes_ok {values : List ℕ} {data : List UInt8}
    (h : toBytes (values.map Int.ofNat) = .ok data) : data = values.map UInt8.ofNat := by
  rw [toBytes_eq] at h
  split at h
  · rw [← Except.ok.inj h, List.map_map]
    rfl
  · exact absurd h nofun

/-- A list of numbers that are not all bytes is misuse, never a fault. -/
lemma toBytes_error {values : List ℤ} {e : Failure} (h : toBytes values = .error e) :
    e = .misuse .byteOutOfRange := by
  rw [toBytes_eq] at h
  split at h
  · cases h
  · exact (Except.error.inj h).symm

/-- Numbers are looked at before the place that they are for. -/
lemma writeValues_eq (values : List ℤ) :
    m.writeValues address values =
      if ∀ v ∈ values, 0 ≤ v ∧ v < 256 then
        if m.Covers address values.length then
          .ok (m.overwrite address.toNat (values.map fun v => UInt8.ofNat v.toNat))
        else .error (m.uncovered address values.length)
      else .error (.misuse .byteOutOfRange) := by
  unfold writeValues
  rw [toBytes_eq]
  split
  · show m.writeBytes address _ = _
    rw [writeBytes_eq, List.length_map]
  · rfl

/-- Bytes that are read as a stretch are as many as were asked for. -/
lemma length_slice {start count : ℕ} (h : start + count ≤ m.size) :
    (m.slice start ((start : ℤ) + count)).length = count := by
  unfold slice
  rw [if_neg (by omega)]
  unfold size at h
  simp only [Array.length_toList, Array.size_extract]
  omega

end Memory

namespace Storage

variable (s : Storage) (address : ℤ)

/-- The storage once a stretch of bytes was read. -/
def noteRead (data : List UInt8) : Storage := s.record (readEntries address data)

/-- The storage once a stretch of bytes was written. -/
def noteWrite (data : List UInt8) : Storage :=
  record { s with memory := s.memory.overwrite address.toNat data }
    (writeEntries address data (s.memory.slice address.toNat (address + data.length)))

@[simp] lemma noteRead_memory (data : List UInt8) : (s.noteRead address data).memory = s.memory :=
  rfl

@[simp] lemma noteWrite_memory (data : List UInt8) :
    (s.noteWrite address data).memory = s.memory.overwrite address.toNat data := rfl

lemma readWord_eq :
    s.readWord address =
      if s.memory.Covers address 2 then
        let w := Word.ofBytes (s.memory.byteAt address.toNat) (s.memory.byteAt (address.toNat + 1))
        .ok (w, s.noteRead address [w.high, w.low])
      else .error (s.memory.uncovered address 2) := by
  unfold readWord
  rw [Memory.readWord_eq]
  split <;> rfl

lemma readBytes_eq (count : ℤ) :
    s.readBytes address count =
      if s.memory.Covers address count then
        let data := s.memory.slice address.toNat (address + count)
        .ok (data, s.noteRead address data)
      else .error (s.memory.uncovered address count) := by
  unfold readBytes
  rw [Memory.readBytes_eq]
  split <;> rfl

lemma readByte_eq :
    s.readByte address =
      if s.memory.Covers address 1 then
        .ok (s.memory.byteAt address.toNat, s.noteRead address [s.memory.byteAt address.toNat])
      else .error (s.memory.uncovered address 1) := by
  unfold readByte
  rw [Memory.readByte_eq]
  split <;> rfl

lemma writeBytes_eq (data : List UInt8) :
    s.writeBytes address data =
      if s.memory.Covers address data.length then .ok (s.noteWrite address data)
      else .error (s.memory.uncovered address data.length) := by
  unfold writeBytes
  rw [Memory.readBytes_eq, Memory.writeBytes_eq]
  split <;> rfl

/-- The place that numbers are for is looked at before them. -/
lemma writeValues_eq (values : List ℤ) :
    s.writeValues address values =
      if s.memory.Covers address values.length then
        if ∀ v ∈ values, 0 ≤ v ∧ v < 256 then
          .ok (s.noteWrite address (values.map fun v => UInt8.ofNat v.toNat))
        else .error (.misuse .byteOutOfRange)
      else .error (s.memory.uncovered address values.length) := by
  unfold writeValues
  rw [Memory.check_eq, Memory.toBytes_eq]
  by_cases hc : s.memory.Covers address values.length
  · rw [if_pos hc, if_pos hc]
    by_cases hv : ∀ v ∈ values, 0 ≤ v ∧ v < 256
    · rw [if_pos hv, if_pos hv]
      refine (s.writeBytes_eq address _).trans ?_
      rw [List.length_map, if_pos hc]
    · rw [if_neg hv, if_neg hv]
      rfl
  · rw [if_neg hc, if_neg hc]
    rfl

end Storage

end Chip8
