import Chip8.Machine.Arithmetic
import Chip8.Machine.Trace
import Mathlib.Data.Nat.Bitwise
import Mathlib.Tactic.Lemma

/-!
# Well-formed registers

The registers are plain lists and integers.  This file says when they have the widths that they
should have: sixteen registers of a byte, addresses of sixteen bits, a stack of sixteen places of
which the stack pointer counts the used ones, and timers of a byte.  It then shows, operation by
operation, that the widths are kept.
-/

namespace Chip8

/-- An address of sixteen bits. -/
def IsAddress (a : ℤ) : Prop := 0 ≤ a ∧ a < 65536

/-- Sixteen registers of a byte. -/
structure IsRegisterFile (v : List ℕ) : Prop where
  length_eq : v.length = registerCount
  lt : ∀ b ∈ v, b < 256

/-- Registers, stack and timers that have their widths. -/
structure Registers.WellFormed (r : Registers) : Prop where
  file : IsRegisterFile r.v
  i : IsAddress r.i
  pc : IsAddress r.pc
  sp_nonneg : 0 ≤ r.sp
  sp_le : r.sp ≤ stackDepth
  stack_length : r.stack.length = stackDepth
  stack : ∀ a ∈ r.stack, IsAddress a
  dt_lt : r.dt.value < 256
  st_lt : r.st.value < 256

/-! ### Addresses -/

lemma isAddress_zero : IsAddress 0 := ⟨by decide, by decide⟩

lemma isAddress_emod (a : ℤ) : IsAddress (a % 65536) :=
  ⟨Int.emod_nonneg _ (by decide), Int.emod_lt_of_pos _ (by decide)⟩

lemma isAddress_natCast {n : ℕ} (h : n < 65536) : IsAddress n := by
  unfold IsAddress
  omega

lemma isAddress_after (pc : ℤ) : IsAddress (Registers.after pc) := isAddress_emod _

lemma isAddress_nnn (w : Word) : IsAddress w.nnn :=
  isAddress_natCast (by have := w.nnn_lt; omega)

lemma isAddress_glyph (digit : ℕ) : IsAddress (Font.glyphAddress digit) := by
  unfold Font.glyphAddress Font.address Font.glyphSize IsAddress
  omega

/-! ### Register files -/

namespace IsRegisterFile

variable {v : List ℕ}

lemma getD_lt (h : IsRegisterFile v) (x : ℕ) : v.getD x 0 < 256 := by
  rw [List.getD_eq_getElem?_getD]
  rcases hx : v[x]? with _ | b
  · simp
  · simpa using h.lt b (List.mem_of_getElem? hx)

lemma set (h : IsRegisterFile v) (x : ℕ) {value : ℕ} (hv : value < 256) :
    IsRegisterFile (v.set x value) := by
  refine ⟨by simpa using h.length_eq, fun b hb => ?_⟩
  rcases List.mem_or_eq_of_mem_set hb with hb | rfl
  · exact h.lt b hb
  · exact hv

lemma store (h : IsRegisterFile v) (x : ℕ) {flag result : ℕ} (hf : flag < 256)
    (hr : result < 256) : IsRegisterFile (Arithmetic.store v x flag result) :=
  (h.set 15 hf).set x hr

lemma add (h : IsRegisterFile v) (x y : ℕ) : IsRegisterFile (Arithmetic.add v x y) :=
  h.store x (by split <;> decide) (Nat.mod_lt _ (by decide))

lemma difference_lt (a b : ℕ) : Arithmetic.difference a b < 256 := by
  unfold Arithmetic.difference
  omega

lemma sub (h : IsRegisterFile v) (x y : ℕ) : IsRegisterFile (Arithmetic.sub v x y) :=
  h.store x (by split <;> decide) (difference_lt _ _)

lemma subFrom (h : IsRegisterFile v) (x y : ℕ) : IsRegisterFile (Arithmetic.subFrom v x y) :=
  h.store x (by split <;> decide) (difference_lt _ _)

lemma shiftRight (h : IsRegisterFile v) (x : ℕ) : IsRegisterFile (Arithmetic.shiftRight v x) := by
  have hx := h.getD_lt x
  exact h.store x (by omega) (by omega)

lemma shiftLeft (h : IsRegisterFile v) (x : ℕ) : IsRegisterFile (Arithmetic.shiftLeft v x) :=
  h.store x (by omega) (Nat.mod_lt _ (by decide))

/-- Loading bytes over the first registers. -/
lemma loadBytes (h : IsRegisterFile v) {data : List UInt8} (hd : data.length ≤ registerCount) :
    IsRegisterFile (data.map UInt8.toNat ++ v.drop data.length) := by
  refine ⟨?_, fun b hb => ?_⟩
  · have := h.length_eq
    simp only [List.length_append, List.length_map, List.length_drop]
    omega
  · rcases List.mem_append.1 hb with hb | hb
    · obtain ⟨c, -, rfl⟩ := List.mem_map.1 hb
      exact c.toNat_lt
    · exact h.lt b (List.mem_of_mem_drop hb)

end IsRegisterFile

lemma isRegisterFile_replicate : IsRegisterFile (List.replicate registerCount 0) := by
  refine ⟨by simp, fun b hb => ?_⟩
  rw [List.eq_of_mem_replicate hb]
  decide

/-! ### Timers -/

namespace Timer

lemma assign_value_lt (t : Timer) (value : ℤ) : (t.assign value).value < 256 := by
  simp only [assign]
  omega

variable {σ : Type}

lemma tell_value_lt (listener : TimerListener σ) {p : Timer × σ} (h : p.1.value < 256) :
    (tell p listener).1.value < 256 := by
  have hfold : ∀ (values : List ℤ) {t : Timer}, t.value < 256 →
      (values.foldl assign t).value < 256 := by
    intro values
    induction values with
    | nil => exact id
    | cons value rest ih => exact fun _ => ih (assign_value_lt _ value)
  exact hfold _ h

lemma tellAll_value_lt (listeners : List (TimerListener σ)) {p : Timer × σ}
    (h : p.1.value < 256) : (tellAll listeners p).1.value < 256 := by
  induction listeners generalizing p with
  | nil => exact h
  | cons listener rest ih => exact ih (tell_value_lt listener h)

/-- Whatever listeners assign, a timer of a byte stays one. -/
lemma update_value_lt (listeners : TimerListeners σ) (elapsed : Quantity) {t : Timer} (rest : σ)
    (h : t.value < 256) : (t.update listeners elapsed rest).1.value < 256 := by
  unfold update
  split
  · exact h
  · dsimp only
    split
    · exact h
    · have htold : (tellAll listeners.elapsed
          ({ t with remaining := t.remaining - elapsed, value := t.value - 1 }, rest)).1.value
          < 256 := tellAll_value_lt _ (Nat.lt_of_le_of_lt (Nat.sub_le _ _) h)
      split
      · exact tellAll_value_lt _ htold
      · exact htold

end Timer

/-! ### Registers -/

namespace Registers

lemma initial_wellFormed {origin : ℤ} (h : IsAddress origin) (interval : Quantity) :
    (initial origin interval).WellFormed where
  file := isRegisterFile_replicate
  i := isAddress_zero
  pc := h
  sp_nonneg := by simp [initial]
  sp_le := by simp [initial, stackDepth]
  stack_length := by simp [initial]
  stack a ha := by
    rw [List.eq_of_mem_replicate ha]
    exact isAddress_zero
  dt_lt := by simp [initial, Timer.idle]
  st_lt := by simp [initial, Timer.idle]

namespace WellFormed

variable {r : Registers}

lemma get_lt (h : r.WellFormed) (x : ℕ) : r.get x < 256 := h.file.getD_lt x

lemma withFile (h : r.WellFormed) {v : List ℕ} (hv : IsRegisterFile v) :
    WellFormed { r with v } := { h with file := hv }

lemma set (h : r.WellFormed) (x : ℕ) {value : ℕ} (hv : value < 256) : (r.set x value).WellFormed :=
  h.withFile (h.file.set x hv)

lemma withPc (h : r.WellFormed) {pc : ℤ} (hp : IsAddress pc) : WellFormed { r with pc } :=
  { h with pc := hp }

lemma withI (h : r.WellFormed) {i : ℤ} (hi : IsAddress i) : WellFormed { r with i } :=
  { h with i := hi }

lemma skip (h : r.WellFormed) : r.skip.WellFormed := h.withPc (isAddress_after _)

lemma withDt (h : r.WellFormed) {dt : Timer} (ht : dt.value < 256) : WellFormed { r with dt } :=
  { h with dt_lt := ht }

lemma withSt (h : r.WellFormed) {st : Timer} (ht : st.value < 256) : WellFormed { r with st } :=
  { h with st_lt := ht }

/-- A return address is there whenever the stack is not empty. -/
lemma exists_top (h : r.WellFormed) (hsp : r.sp ≠ 0) :
    ∃ a, eitherEnd? r.stack (r.sp - 1) = some a ∧ IsAddress a := by
  have h0 := h.sp_nonneg
  have h16 := h.sp_le
  have hlen := h.stack_length
  obtain ⟨k, hk⟩ := Int.eq_ofNat_of_zero_le (show 0 ≤ r.sp - 1 by omega)
  have hklt : k < r.stack.length := by omega
  refine ⟨r.stack[k], ?_, h.stack _ (List.getElem_mem hklt)⟩
  rw [eitherEnd?, hk, place?_natCast hklt]
  simp [hklt]

/-- A return address has room whenever the stack is not full. -/
lemma exists_push (h : r.WellFormed) (hsp : r.sp < stackDepth) (a : ℤ) :
    ∃ k : ℕ, r.sp = k ∧ k < r.stack.length ∧
      setEitherEnd? r.stack r.sp a = some (r.stack.set k a) := by
  have h0 := h.sp_nonneg
  have hlen := h.stack_length
  obtain ⟨k, hk⟩ := Int.eq_ofNat_of_zero_le h0
  have hklt : k < r.stack.length := by omega
  refine ⟨k, hk, hklt, ?_⟩
  rw [setEitherEnd?, hk, place?_natCast hklt]
  rfl

/-- Taking the youngest return address off the stack. -/
lemma pop (h : r.WellFormed) (hsp : r.sp ≠ 0) : WellFormed { r with sp := r.sp - 1 } := by
  have h0 := h.sp_nonneg
  have h16 := h.sp_le
  exact { h with sp_nonneg := by simp only; omega, sp_le := by simp only; omega }

/-- Putting a return address on the stack. -/
lemma push (h : r.WellFormed) (hsp : r.sp < stackDepth) (k : ℕ) {a : ℤ} (ha : IsAddress a) :
    WellFormed { r with stack := r.stack.set k a, sp := r.sp + 1 } := by
  have h0 := h.sp_nonneg
  refine { h with
    sp_nonneg := by simp only; omega
    sp_le := by simp only; omega
    stack_length := by simpa using h.stack_length
    stack := fun b hb => ?_ }
  rcases List.mem_or_eq_of_mem_set hb with hb | rfl
  · exact h.stack b hb
  · exact ha

end WellFormed

end Registers

end Chip8
